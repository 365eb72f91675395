import EntityStore.Store.Backend

/-!
# Logged states

A logged state keeps a list of what has happened, the earliest first.  What works on states works
on logged states as well: it is answered the same, and does the same to the state.  Which events
are written down, and at which steps, is chosen by whoever puts a system on logged states.
-/

namespace EntityStore

/-- A state, and the events up to now. -/
structure Logged (ε σ : Type) where
  state : σ
  events : List ε := []

namespace Logged

variable {ε σ α : Type}

/-- Writes events down. -/
def log (events : List ε) (t : Logged ε σ) : Logged ε σ := { t with events := t.events ++ events }

/-- Does something to the state. -/
def lift (f : σ → α × σ) (t : Logged ε σ) : α × Logged ε σ :=
  let (a, s) := f t.state
  (a, { t with state := s })

/-- Changes the state. -/
def map (f : σ → σ) (t : Logged ε σ) : Logged ε σ := { t with state := f t.state }

end Logged

/-- **A backend on logged states.**  The same events are written down for every call to provision
and every request; reading the clock and taking a new id leave none. -/
def Backend.logged {ε σ κ : Type} (requested : List ε) (b : Backend σ κ) :
    Backend (Logged ε σ) κ where
  now := Logged.lift b.now
  newId := Logged.lift b.newId
  provision containerId path t := (t.log requested).lift (b.provision containerId path)
  perform q t := (t.log requested).lift (b.perform q)
  close := Logged.map b.close
  patience t := b.patience t.state

end EntityStore
