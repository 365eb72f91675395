import EntityStore.Failure
import EntityStore.Settings

/-!
# Clients

A client is a connection to an account of the service.  Opening a database checks the settings,
makes a client and asks it for the database.  When the database is refused the client is closed
again, so that no client is left open without a database.
-/

namespace EntityStore

/-- What is done with a client. -/
inductive ClientEvent where
  | connect (endpoint key : String)
  | openDatabase (name : String)
  | request
  | close
deriving DecidableEq, Repr

/-- An account of the service as a caller without a database sees it. -/
structure Account (σ : Type) where
  connect : (endpoint key : String) → σ → σ
  openDatabase : (name : String) → σ → Except Failure Unit × σ
  close : σ → σ

/-- The endpoint and the key that a client is made with. -/
def Settings.credentials (settings : Settings) : Except ConfigError (String × String) :=
  let given (s : Option String) := s.filter fun s => !s.isEmpty
  match given settings.endpoint, given settings.key with
  | none, _ => .error .endpointMissing
  | some _, none => .error .keyMissing
  | some endpoint, some key => .ok (endpoint, key)

/-- **Opens the database of the settings.** -/
def Account.openWith {σ : Type} (account : Account σ) (settings : Settings) (s : σ) :
    Except Failure Unit × σ :=
  match settings.credentials with
  | .error e => (.error (.config e), s)
  | .ok (endpoint, key) =>
    match account.openDatabase settings.database (account.connect endpoint key s) with
    | (.ok (), s) => (.ok (), s)
    | (.error e, s) => (.error e, account.close s)

end EntityStore
