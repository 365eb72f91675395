import EntityStore.Remote.Client
import EntityStore.Store.Logged

/-!
# Traces

A traced state keeps a list of what has been done with clients: connections made, databases opened,
requests, and connections closed.  Any account and any backend can be put on traced states.

Reading the clock and taking a new id need no client and leave no event.
-/

namespace EntityStore

/-- A state, and what has been done with clients so far. -/
abbrev Traced (σ : Type) := Logged ClientEvent σ

/-- **An account that leaves a trace.** -/
def Account.traced {σ : Type} (account : Account σ) : Account (Traced σ) where
  connect endpoint key t := (t.map (account.connect endpoint key)).log [.connect endpoint key]
  openDatabase name t := (t.log [.openDatabase name]).lift (account.openDatabase name)
  close t := (t.map account.close).log [.close]

/-- **A backend that leaves a trace**: an event for every call to provision and every request. -/
def Backend.traced {σ κ : Type} (b : Backend σ κ) : Backend (Traced σ) κ := b.logged [.request]

end EntityStore
