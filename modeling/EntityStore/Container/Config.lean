import EntityStore.Value.Basic

/-!
# Container configurations

A `ContainerConfig` says in which container the documents of an entity are kept, and which of
their fields is the partition value.  `ContainerConfig.parseAll` reads a list of them from a
mapping whose `containers` is a list of mappings, each with an `entityName` that no other has, and
perhaps a `containerId` and a `partitionKeyField`.  The first entry that is at fault is reported.
-/

namespace EntityStore

/-- The container and the partition field of an entity. -/
structure ContainerConfig where
  entity : String
  containerId : String
  partitionField : String := "id"
deriving DecidableEq, Repr

/-- What can be wrong with the configuration. -/
inductive ConfigError where
  | notMapping
  | entryNotMapping (index : Nat)
  | entityMissing (index : Nat)
  | entityTwice (entity : String)
  | containerIdEmpty (index : Nat)
  | partitionFieldEmpty (index : Nat)
  | unreadable (path reason : String)
  | invalidYaml (path : String)
  | pageSizeNotInteger (text : String)
  | pageSizeNotPositive
  | endpointMissing
  | keyMissing
deriving DecidableEq, Repr

namespace ConfigError

/-- An entry of the list of containers, as a message names it. -/
def entryName (index : Nat) : String := "containers[" ++ toString index ++ "]"

/-- The wording of a configuration error. -/
def message : ConfigError → String
  | .notMapping => "Container configuration must be a mapping with a 'containers' list"
  | .entryNotMapping i => entryName i ++ " must be a mapping"
  | .entityMissing i => entryName i ++ ".entityName is required"
  | .entityTwice entity => "Duplicate container configuration for entity '" ++ entity ++ "'"
  | .containerIdEmpty i => entryName i ++ ".containerId must be a non-empty string"
  | .partitionFieldEmpty i => entryName i ++ ".partitionKeyField must be a non-empty string"
  | .unreadable path reason =>
    "Cannot read container configuration '" ++ path ++ "': " ++ reason
  | .invalidYaml path => "Invalid YAML in '" ++ path ++ "'"
  | .pageSizeNotInteger text => "DOCSTORE_PAGE_SIZE must be an integer, got '" ++ text ++ "'"
  | .pageSizeNotPositive => "DOCSTORE_PAGE_SIZE must be positive"
  | .endpointMissing => "Cosmos DB endpoint is required (DOCSTORE_ENDPOINT)"
  | .keyMissing => "Cosmos DB account key is required (DOCSTORE_KEY)"

end ConfigError

namespace ContainerConfig

/-- **The path of the partition field in the container**: a slash before each segment. -/
def partitionPath (c : ContainerConfig) : String :=
  "/" ++ String.ofList (c.partitionField.toList.map fun x => if x = '.' then '/' else x)

/-- The configuration of an entity that has a container of its own name. -/
def ownContainer (entity : String) : ContainerConfig := ⟨entity, entity, "id"⟩

/-- A text that is not empty. -/
def nonEmptyText? : Value → Option String
  | .str s => if s.isEmpty then none else some s
  | _ => none

/-- The configuration that one entry gives, which stands at `index` behind the entries of the
entities `seen`. -/
def parseEntry (index : Nat) (seen : List String) : Value → Except ConfigError ContainerConfig
  | .object fields =>
    let fields : Fields := fields
    match (fields.get? "entityName").bind nonEmptyText? with
    | none => .error (.entityMissing index)
    | some entity =>
      if seen.contains entity then .error (.entityTwice entity)
      else
        match nonEmptyText? ((fields.get? "containerId").getD (.str entity)),
          nonEmptyText? ((fields.get? "partitionKeyField").getD (.str "id")) with
        | none, _ => .error (.containerIdEmpty index)
        | some _, none => .error (.partitionFieldEmpty index)
        | some containerId, some partitionField => .ok ⟨entity, containerId, partitionField⟩
  | _ => .error (.entryNotMapping index)

/-- The configurations that the entries from `index` on give. -/
def parseEntries (index : Nat) (seen : List String) :
    List Value → Except ConfigError (List ContainerConfig)
  | [] => .ok []
  | v :: r => do
    let c ← parseEntry index seen v
    return c :: (← parseEntries (index + 1) (c.entity :: seen) r)

/-- **The configurations that a value gives**, in order. -/
def parseAll (data : Value) : Except ConfigError (List ContainerConfig) :=
  match data with
  | .object fields =>
    match Entries.get? fields "containers" with
    | some (.list entries) => parseEntries 0 [] entries
    | _ => .error .notMapping
  | _ => .error .notMapping

end ContainerConfig

end EntityStore
