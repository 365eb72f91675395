import EntityStore.Failure

/-!
# The registry

The registry knows the container configuration of each entity.  With automatic registration an
entity that it does not know gets a container of its own name, partitioned on the id, the first
time it is looked up; without, looking it up fails.
-/

namespace EntityStore

/-- The container configurations by entity. -/
structure Registry where
  configs : Entries String ContainerConfig := []
  autoRegister : Bool := false

namespace Registry

/-- Adds a configuration, or replaces the one of the same entity. -/
def register (r : Registry) (c : ContainerConfig) : Registry :=
  { r with configs := r.configs.put c.entity c }

/-- The registry of a list of configurations; of two for one entity the later counts. -/
def ofList (configs : List ContainerConfig) (autoRegister : Bool) : Registry :=
  configs.foldl register { autoRegister := autoRegister }

/-- Whether an entity is registered. -/
def contains (r : Registry) (entity : String) : Bool := r.configs.contains entity

/-- How many entities are registered. -/
def size (r : Registry) : Nat := r.configs.length

/-- **The configuration of an entity**, which is registered on the way if need be. -/
def lookup (r : Registry) (entity : String) : Except Failure ContainerConfig × Registry :=
  match r.configs.get? entity with
  | some c => (.ok c, r)
  | none =>
    if r.autoRegister then
      let c := ContainerConfig.ownContainer entity
      (.ok c, r.register c)
    else (.error (.unknownEntity entity), r)

end Registry

end EntityStore
