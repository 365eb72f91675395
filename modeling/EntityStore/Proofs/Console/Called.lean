import EntityStore.Console.Host

/-!
# How a command's call goes

A host makes a call in four steps: the settings and the container file are read, the credentials are
looked at, the database is opened, and the call is run.  Each can be the last (`Host.Called`), and
only from the third on is anything outside touched.  Once a client has been made it is closed, in
whatever way the call goes on.

A command line whose command makes a call ends as that call goes (`Host.run_calling`); one whose
command makes none has done nothing.
-/

namespace EntityStore.Console

/-- How a command ends when its call has come to this. -/
def Command.ending {κ : Type} (command : Command) (json : Bool) :
    Except Failure (Answer κ) → Outcome
  | .error e => .ofFailure e
  | .ok answer => command.report json answer

namespace Host

variable {σ κ : Type}

/-- **The ways in which a call of a host can go**, with what it comes to and the state that it
leaves. -/
inductive Called (host : Host σ κ) (globals : Globals) (call : Call) (s : σ) :
    Except Failure (Answer κ) × σ → Prop
  | misconfigured {e : Failure} (hconfigured : host.configure globals = .error e) :
    Called host globals call s (.error e, s)
  | withoutCredentials {settings : Settings} {configs : List ContainerConfig} {e : ConfigError}
    (hconfigured : host.configure globals = .ok (settings, configs))
    (hcredentials : settings.credentials = .error e) :
    Called host globals call s (.error (.config e), s)
  | refused {settings : Settings} {configs : List ContainerConfig} {endpoint key : String}
    {e : Failure} {s' : σ} (hconfigured : host.configure globals = .ok (settings, configs))
    (hcredentials : settings.credentials = .ok (endpoint, key))
    (hopened : host.account.openDatabase settings.database (host.account.connect endpoint key s)
      = (.error e, s')) :
    Called host globals call s (.error e, host.account.close s')
  | opened {settings : Settings} {configs : List ContainerConfig} {endpoint key : String} {s' : σ}
    {r : Except Failure (Answer κ)} {session : Session σ κ}
    (hconfigured : host.configure globals = .ok (settings, configs))
    (hcredentials : settings.credentials = .ok (endpoint, key))
    (hopened : host.account.openDatabase settings.database (host.account.connect endpoint key s)
      = (.ok (), s'))
    (hrun : call.run host.backend (Host.session settings configs s') = (r, session)) :
    Called host globals call s (r, host.account.close session.outside)

/-- **Every call of a host goes in one of these ways.** -/
theorem called (host : Host σ κ) (globals : Globals) (call : Call) (s : σ) :
    host.Called globals call s (host.call globals call s) := by
  unfold Host.call Account.openWith
  cases hconfigured : host.configure globals with
  | error e => exact .misconfigured hconfigured
  | ok configured =>
    obtain ⟨settings, configs⟩ := configured
    dsimp only
    cases hcredentials : settings.credentials with
    | error e => exact .withoutCredentials hconfigured hcredentials
    | ok credentials =>
      obtain ⟨endpoint, key⟩ := credentials
      dsimp only
      rcases hopened : host.account.openDatabase settings.database
        (host.account.connect endpoint key s) with ⟨e | _, s'⟩
      · exact .refused hconfigured hcredentials hopened
      · exact .opened hconfigured hcredentials hopened rfl

section

variable {host : Host σ κ} {arguments : List String} {globals : Globals} {command : Command}

/-- A command that makes a call ends as that goes, -/
theorem run_calling {call : Call}
    (hparse : Invocation.parse? arguments = some (.command globals command))
    (hcall : command.call host.files globals.json = .ok call) (s : σ) :
    host.run arguments s = (command.ending globals.json (host.call globals call s).1,
      (host.call globals call s).2) := by
  rw [run, hparse]
  dsimp only
  rw [perform, hcall]
  dsimp only
  rcases host.call globals call s with ⟨e | answer, s'⟩ <;> rfl

/-- and one that makes none has done nothing. -/
theorem run_without_call {outcome : Outcome}
    (hparse : Invocation.parse? arguments = some (.command globals command))
    (hcall : command.call host.files globals.json = .error outcome) (s : σ) :
    host.run arguments s = (outcome, s) := by
  rw [run, hparse]
  dsimp only
  rw [perform, hcall]

end

end Host

end EntityStore.Console
