import EntityStore.Document
import EntityStore.Store.Session
import EntityStore.Value.Equality

/-!
# Calls

A `Call` is one use of the store.  `Call.prepare` checks the arguments, stamps the document and
makes the statement.  It comes to an answer, or to an entity and the `Work` that is left to do in
its container.

Every check comes before the container is resolved, and so before any request to the database.
-/

namespace EntityStore

/-! ### Calls and answers -/

/-- A query, or the value that it is to be read from. -/
inductive QueryInput where
  | ready (q : Query)
  | raw (v : Value)

/-- One use of the store. -/
inductive Call where
  | resolve (entity : String)
  | create (entity id : Option String) (document : Value)
  | read (entity id : Option String) (partition : Value)
  | replace (entity id : Option String) (document : Value)
  | delete (entity id : Option String) (partition : Value)
  | readMap (entity : Option String) (partition ids : Value)
  | query (entity : Option String) (input : QueryInput)
  | count (entity : Option String) (input : QueryInput)

/-- What a call is answered with. -/
inductive Answer (κ : Type) where
  | container (handle : κ)
  | document (v : Value)
  | noDocument
  | deleted
  | documents (found : Entries String Value)
  | page (r : QueryResult)
  | count (n : Int)

/-- What is left to do when the container is known. -/
inductive Work where
  | resolve
  | create (body : Fields)
  | read (id : String) (partition : Value)
  | replace (id : String) (body : Fields)
  | delete (id : String) (partition : Value)
  | readMap (request : PageRequest)
  | query (request : PageRequest)
  | count (request : PageRequest)

/-- What a prepared call has come to. -/
inductive Prepared (κ : Type) where
  | answered (a : Answer κ)
  | ready (entity : String) (work : Work)

/-! ### Checks -/

/-- A text that is there and is not blank. -/
def require (a : Argument) (text : Option String) : Except Failure String :=
  match text with
  | some s => if Text.isBlankText s then .error (.missing a) else .ok s
  | none => .error (.missing a)

/-- A document, which has to be an object. -/
def requireDocument : Value → Except Failure Fields
  | .null => .error (.missing .document)
  | .object fields => .ok fields
  | _ => .error .documentNotObject

/-- A query, which has to be valid. -/
def requireQuery : QueryInput → Except Failure Query
  | .ready q => .ok q
  | .raw .null => .error (.missing .query)
  | .raw v => (Query.ofValue v).mapError (.invalid .query)

/-- The query of a count, which may be left out. -/
def requireCounted : QueryInput → Except Failure Query
  | .raw .null => .ok {}
  | q => requireQuery q

/-- The different ones among a list of values, each where it first occurs; each has to be fit for
a key. -/
def distinct : List Value → Except Failure (List Value)
  | [] => .ok []
  | v :: r =>
    match v.digest with
    | .error kind => .error (.misuse (.unhashable kind))
    | .ok _ => (distinct r).map fun rest => v :: rest.filter fun w => !v.equal w

/-- The kind of a value as a message names it. -/
def kindOf (v : Value) : String := Fault.inputKind v

/-- The different ids that a value gives. -/
def requireIds (ids : Value) : Except Failure (List Value) :=
  if ids.isNull then .error (.missing .entityIds)
  else
    match ids.elements? with
    | none => .error (.misuse (.notIterable (kindOf ids)))
    | some items => distinct items

/-- A statement, or the failure of a filter that cannot be put into words. -/
def inWords (statement : Except FilterError Statement) : Except Failure Statement :=
  statement.mapError .filter

/-- A page, or the failure of one with items that are not objects. -/
def inPage (page : Page) : Except Failure QueryResult :=
  (QueryResult.ofItems page.items page.token).mapError (.invalid .queryResult)

/-- A time as it is stamped, or the failure of leaving the calendar. -/
def inCalendar {α : Type} : Option α → Except Failure α
  | some x => .ok x
  | none => .error .outsideCalendar

/-! ### Preparing -/

section Prepare

variable {σ κ : Type}

/-- The value of the partition of a document to delete: the id, where no value is given and the
container is partitioned on the id. -/
def requirePartition (config : ContainerConfig) (id : String) (partition : Value) :
    Except Failure Value :=
  if !partition.isNull then .ok partition
  else if config.partitionField = Document.idField then .ok (.str id)
  else .error (.partitionRequired config.entity config.partitionField)

/-- **Everything that comes before the container of a call is resolved.** -/
def Call.prepare (b : Backend σ κ) : Call → Run (Session σ κ) (Prepared κ)
  | .resolve entity => return .ready entity .resolve
  | .create entity id document => do
    let entity ← require .entityName entity
    let document ← requireDocument document
    let id ← match id with
      | some id => pure id
      | none => Session.consult fun o => let (id, o) := b.newId o; (.ok id, o)
    let id ← require .entityId (some id)
    let now ← Session.consult b.now
    let body ← inCalendar (Document.stampNew document entity (.str id) now)
    return .ready entity (.create body)
  | .read entity id partition => do
    let entity ← require .entityName entity
    let id ← require .entityId id
    return .ready entity (.read id partition)
  | .replace entity id document => do
    let entity ← require .entityName entity
    let id ← require .entityId id
    let document ← requireDocument document
    let now ← Session.consult b.now
    let body ← inCalendar (Document.stampReplacing document entity (.str id) now)
    return .ready entity (.replace id body)
  | .delete entity id partition => do
    let entity ← require .entityName entity
    let id ← require .entityId id
    let config ← Session.configOf entity
    let partition ← requirePartition { config with entity := entity } id partition
    return .ready entity (.delete id partition)
  | .readMap entity partition ids => do
    let entity ← require .entityName entity
    let ids ← requireIds ids
    if ids.isEmpty then return .answered (.documents [])
    else
      let config ← Session.configOf entity
      let statement := Sql.idsStatement ids config.partitionField partition
      return .ready entity
        (.readMap { statement := statement, size := ids.length, partition := partition })
  | .query entity input => do
    let entity ← require .entityName entity
    let q ← requireQuery input
    let statement ← inWords (Sql.selectStatement q)
    let size := q.limit.getD (← get).pageSize
    return .ready entity
      (.query { statement := statement, size := size, token := q.continuationToken })
  | .count entity input => do
    let entity ← require .entityName entity
    let q ← requireCounted input
    let statement ← inWords (Sql.countStatement q)
    return .ready entity (.count { statement := statement, size := (← get).pageSize })

end Prepare

end EntityStore
