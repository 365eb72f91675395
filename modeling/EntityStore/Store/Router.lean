import EntityStore.Store.Registry

/-!
# Routing entities to containers

The router turns the name of an entity into a handle of its container.  The container is
provisioned when it is first needed and the handle kept; a failed call to provision keeps nothing.

Resolutions may run side by side, and each goes through at most three stretches between which
others may run.  `request` looks for a kept handle, finds the configuration and asks for the lock
of the entity.  Whoever holds the lock looks for a handle once more and otherwise calls to
provision (`enter`), and when the call has been answered (`settle`) the handle is kept and the
lock passed on to whoever has waited longest.
-/

namespace EntityStore

/-- A lock: the task that holds it, and those that wait for it, the longest first. -/
structure Lock where
  holder : Option Nat := none
  waiters : List Nat := []
deriving DecidableEq, Repr

/-- The registry, the handles kept so far, and a lock for every entity that has been resolved. -/
structure Router (κ : Type) where
  registry : Registry
  handles : Entries String κ := []
  locks : Entries String Lock := []

/-- How far one stretch of a resolution gets. -/
inductive Progress (κ : Type) where
  /-- The resolution is over. -/
  | settled (result : Except Failure κ)
  /-- It waits for the lock. -/
  | waiting (config : ContainerConfig)
  /-- It holds the lock, and calls to provision. -/
  | calling (config : ContainerConfig)

namespace Router

variable {κ : Type}

/-- The lock of an entity. -/
def lockOf (r : Router κ) (entity : String) : Lock := (r.locks.get? entity).getD {}

/-- Passes the lock of an entity on: who holds it now, if anyone does. -/
def release (r : Router κ) (entity : String) : Option Nat × Router κ :=
  match (r.lockOf entity).waiters with
  | [] => (none, { r with locks := r.locks.put entity {} })
  | w :: ws =>
    (some w, { r with locks := r.locks.put entity { holder := some w, waiters := ws } })

/-- The first stretch of a resolution by a task. -/
def request (r : Router κ) (task : Nat) (entity : String) : Progress κ × Router κ :=
  match r.handles.get? entity with
  | some h => (.settled (.ok h), r)
  | none =>
    match r.registry.lookup entity with
    | (.error e, registry) => (.settled (.error e), { r with registry := registry })
    | (.ok config, registry) =>
      let lock := r.lockOf entity
      let free := lock.holder.isNone && lock.waiters.isEmpty
      let lock :=
        if free then { lock with holder := some task }
        else { lock with waiters := lock.waiters ++ [task] }
      (if free then .calling config else .waiting config,
        { r with registry := registry, locks := r.locks.put entity lock })

/-- The stretch that follows when a task has been given the lock: what comes of it, and who holds
the lock next if the resolution is over. -/
def enter (r : Router κ) (entity : String) (config : ContainerConfig) :
    Progress κ × Option Nat × Router κ :=
  match r.handles.get? entity with
  | some h =>
    let (next, r) := r.release entity
    (.settled (.ok h), next, r)
  | none => (.calling config, none, r)

/-- The last stretch, when the call to provision has been answered: who holds the lock next. -/
def settle (r : Router κ) (entity : String) (answer : Except Failure κ) : Option Nat × Router κ :=
  match answer with
  | .ok h => { r with handles := r.handles.put entity h }.release entity
  | .error _ => r.release entity

/-- Forgets all handles. -/
def clear (r : Router κ) : Router κ := { r with handles := [] }

end Router

end EntityStore
