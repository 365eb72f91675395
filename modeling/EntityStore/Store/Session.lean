import EntityStore.Store.Backend
import EntityStore.Store.Router

/-!
# Sessions

A session is an open store.  Its computations (`Run`) may fail, and what they have done to the
session by then stays done.
-/

namespace EntityStore

/-- An open store: the router, the page size of a query that asks for none, and the state of the
outside. -/
structure Session (σ κ : Type) where
  router : Router κ
  pageSize : Int
  outside : σ

/-- A computation on a state that may fail; the state is kept when it does. -/
abbrev Run (S α : Type) := ExceptT Failure (StateM S) α

namespace Session

variable {σ κ α : Type}

/-- Does something outside. -/
def consult (f : σ → Except Failure α × σ) : Run (Session σ κ) α := fun s =>
  let (r, o) := f s.outside
  (r, { s with outside := o })

/-- The configuration of an entity. -/
def configOf (entity : String) : Run (Session σ κ) ContainerConfig := fun s =>
  let (r, registry) := s.router.registry.lookup entity
  (r, { s with router := { s.router with registry := registry } })

/-- The handle of the container of an entity, which is provisioned if need be.  No other task runs
beside this one, so a lock that is held is never passed on. -/
def resolve (b : Backend σ κ) (entity : String) : Run (Session σ κ) κ := fun s =>
  match s.router.request 0 entity with
  | (.settled result, router) => (result, { s with router := router })
  | (.waiting _, router) => (.error .endless, { s with router := router })
  | (.calling config, router) =>
    let (answer, outside) := b.provision config.containerId config.partitionPath s.outside
    let (_, router) := router.settle entity answer
    (answer, { s with router := router, outside := outside })

/-- Closes the store: all handles are forgotten. -/
def close (b : Backend σ κ) (s : Session σ κ) : Session σ κ :=
  { s with router := s.router.clear, outside := b.close s.outside }

end Session

end EntityStore
