import EntityStore.Document
import EntityStore.Identifier
import EntityStore.Store.Backend
import EntityStore.Value.Equality

/-!
# The database in memory

A container in memory holds its documents under a key made of the partition value and the id, in
the order in which they were first written.  The partition value is what the document holds at the
partition path, or nothing when the path leads nowhere.  Creating needs the key to be free, and
replacing, reading and deleting need it to be taken.

A page is cut from the documents of the partition asked for.  Of the conditions of a statement two
are applied, a list of ids and the equality of the id with the first parameter, and no order is.
Tokens are the places of the first document of a page.

Provisioning can be made to fail a number of times, the size of a page can be limited, and the
pages can be given beforehand, in which case they are handed out one after the other whatever is
asked.  Every call to provision and every request for a page leaves an event.
-/

namespace EntityStore

/-! ### Containers -/

/-- The key of a document in a container. -/
structure DocumentKey where
  partition : Value
  id : String

/-- Keys are equal when their partition values and ids are. -/
instance : BEq DocumentKey := ⟨fun a b => a.partition.equal b.partition && a.id == b.id⟩

/-- A container: the path of the partition field, and the documents by their keys. -/
structure MemoryContainer where
  partitionPath : List String
  documents : Entries DocumentKey Fields := []

namespace MemoryContainer

/-- The segments of a partition path, leading slashes aside; a point separates segments too. -/
def pathSegments (path : String) : List String :=
  let s := (path.toList.dropWhile (· = '/')).map fun c => if c = '/' then '.' else c
  (s.splitOn '.').map String.ofList

/-- What a value holds at a path; nothing when the path leads nowhere. -/
def valueAt (v : Value) : List String → Value
  | [] => v
  | segment :: r =>
    valueAt ((v.fields?.bind fun fields => Entries.get? fields segment).getD .null) r

/-- The partition value of a document. -/
def partitionOf (c : MemoryContainer) (body : Fields) : Value :=
  valueAt (.object body) c.partitionPath

/-- A key, if the partition value can be part of one. -/
def key (partition : Value) (id : String) : Except Failure DocumentKey :=
  match partition.digest with
  | .ok _ => .ok ⟨partition, id⟩
  | .error kind => .error (.misuse (.unhashable kind))

/-- The id that a document holds. -/
def idOf (body : Fields) : Value := (body.get? Document.idField).getD .null

/-- Adds a document whose key is free. -/
def create (c : MemoryContainer) (body : Fields) : Except Failure MemoryContainer := do
  let id := (idOf body).text
  let k ← key (c.partitionOf body) id
  if c.documents.contains k then .error (.exists_ id)
  else return { c with documents := c.documents.put k body }

/-- The document under a key. -/
def read? (c : MemoryContainer) (id : String) (partition : Value) :
    Except Failure (Option Fields) := do
  let k ← key partition id
  return c.documents.get? k

/-- Overwrites the document under the key of the new one, if there is one. -/
def replace? (c : MemoryContainer) (id : String) (body : Fields) :
    Except Failure (Option MemoryContainer) := do
  let k ← key (c.partitionOf body) id
  return if c.documents.contains k then some { c with documents := c.documents.put k body }
    else none

/-- Removes the document under a key, if there is one. -/
def delete? (c : MemoryContainer) (id : String) (partition : Value) :
    Except Failure (Option MemoryContainer) := do
  let k ← key partition id
  return if c.documents.contains k then some { c with documents := c.documents.erase k } else none

/-! ### Pages -/

/-- The part of a list from one place up to another, both counted from the end when they are
negative. -/
def slice {α : Type} (l : List α) (start stop : Int) : List α :=
  let place (i : Int) : Nat := (if i < 0 then i + l.length else i).toNat
  (l.drop (place start)).take (place stop - place start)

/-- The ids that a statement asks for, if it asks for ids. -/
def idsOf? (parameters : List Parameter) : Option (List Value) :=
  if parameters.any (·.name == Sql.idPlaceholder 0) then
    some ((parameters.filter fun p => "@id".toList.isPrefixOf p.name.toList).map (·.value))
  else none

/-- Whether the condition of a statement is that the id equals the first parameter. -/
def asksForId (s : Statement) : Bool :=
  "WHERE c.id = @p0".toList.isSuffixOf s.text.toList

/-- Whether a statement counts. -/
def counts (s : Statement) : Bool :=
  "SELECT VALUE COUNT(1)".toList.isPrefixOf s.text.toList

/-- The documents that a request is about, in order. -/
def selected (c : MemoryContainer) (r : PageRequest) : List Fields :=
  let inPartition := (c.documents.filter fun (k, _) =>
    r.partition.isNull || k.partition.equal r.partition).map Prod.snd
  match idsOf? r.statement.parameters with
  | some ids => inPartition.filter fun d => ids.any (idOf d).equal
  | none =>
    if asksForId r.statement then
      match r.statement.parameters.find? (·.name == Sql.placeholder 0) with
      | some p => inPartition.filter fun d => (idOf d).equal p.value
      | none => inPartition
    else inPartition

/-- The place that a token stands for. -/
def placeOf : Option String → Except Failure Int
  | none => .ok 0
  | some token => if token.isEmpty then .ok 0 else (Numeral.read token).mapError .numeral

/-- **The page that a request is answered with**, of at most `maxSize` documents. -/
def page (c : MemoryContainer) (maxSize : Option Int) (r : PageRequest) : Except Failure Page := do
  let documents := c.selected r
  if counts r.statement then return ⟨[.int documents.length], none⟩
  else
    let size := match maxSize with
      | some m => min r.size m
      | none => r.size
    let start ← placeOf r.token
    let next := start + size
    return ⟨(slice documents start next).map .object,
      if next < documents.length then some (toString next) else none⟩

end MemoryContainer

/-! ### The database -/

/-- What the database in memory was asked. -/
inductive Event where
  | provision (containerId path : String)
  | query (containerId : String) (request : PageRequest)

/-- The database in memory. -/
structure Memory where
  containers : Entries String MemoryContainer := []
  refusals : Int := 0
  maxPageSize : Option Int := none
  script : Option (List Page) := none
  events : List Event := []

namespace Memory

/-- Adds an event at the end. -/
def log (m : Memory) (e : Event) : Memory := { m with events := m.events ++ [e] }

/-- Provisions a container, which is made when it is first asked for. -/
def provision (containerId path : String) (m : Memory) : Except Failure String × Memory :=
  let m := m.log (.provision containerId path)
  if 0 < m.refusals then (.error (.refused "throttled"), { m with refusals := m.refusals - 1 })
  else if m.containers.contains containerId then (.ok containerId, m)
  else
    let c : MemoryContainer := { partitionPath := MemoryContainer.pathSegments path }
    (.ok containerId, { m with containers := m.containers.put containerId c })

/-- The container of a handle. -/
def container (m : Memory) (containerId : String) : MemoryContainer :=
  (m.containers.get? containerId).getD { partitionPath := [] }

/-- Answers a request that may change a container. -/
def change {α : Type} (m : Memory) (containerId : String) (reply : α)
    (result : Except Failure MemoryContainer) : Except Failure α × Memory :=
  match result with
  | .ok c => (.ok reply, { m with containers := m.containers.put containerId c })
  | .error e => (.error e, m)

/-- The failure of a request for a document that is not there. -/
def orAbsent {α : Type} (containerId id : String) : Except Failure (Option α) → Except Failure α
  | .ok (some x) => .ok x
  | .ok none => .error (.absent containerId id none)
  | .error e => .error e

/-- **The answer to a request.** -/
def perform (q : Request String) (m : Memory) : Except Failure q.Reply × Memory :=
  match q with
  | .create id body => m.change id (.object body) ((m.container id).create body)
  | .read id item partition =>
    ((orAbsent id item ((m.container id).read? item partition)).map .object, m)
  | .replace id item body =>
    m.change id (.object body) (orAbsent id item ((m.container id).replace? item body))
  | .delete id item partition =>
    m.change id () (orAbsent id item ((m.container id).delete? item partition))
  | .page id request =>
    let m := m.log (.query id request)
    match m.script with
    | some (p :: rest) => (.ok p, { m with script := some rest })
    | some [] => (.error (.refused "no more pages"), m)
    | none => ((m.container id).page m.maxPageSize request, m)

/-- How many documents there are. -/
def documentCount (m : Memory) : Nat :=
  (m.containers.map fun (_, c) => c.documents.length).foldr (· + ·) 0

end Memory

/-! ### The local backend -/

/-- The readings that new ids are made from, handed out in turn and over again. -/
structure IdSource where
  readings : List (Int × Nat)
  next : Nat := 0

/-- The next id. -/
def IdSource.generate (s : IdSource) : String × IdSource :=
  let (time, random) := (s.readings[s.next % s.readings.length]?).getD (0, 0)
  (Identifier.generate time random, { s with next := s.next + 1 })

/-- The database in memory with a clock, which shows the time of the next reading, and a source of
ids. -/
structure LocalState where
  memory : Memory := {}
  clock : DateTime
  ids : IdSource

namespace LocalState

/-- Reads the clock, which then goes on by one second; a reading after which it cannot go on
fails. -/
def now (s : LocalState) : Except Failure DateTime × LocalState :=
  match s.clock.nextSecond? with
  | some t => (.ok s.clock, { s with clock := t })
  | none => (.error .outsideCalendar, s)

/-- **The backend in memory.**  A handle is the id of a container.  The pages of a chain start ever
further along, so there are no more of them than documents, unless they are given beforehand. -/
def backend : Backend LocalState String where
  now := now
  newId s := let (id, ids) := s.ids.generate; (id, { s with ids := ids })
  provision containerId path s :=
    let (r, m) := s.memory.provision containerId path
    (r, { s with memory := m })
  perform q s :=
    let (r, m) := s.memory.perform q
    (r, { s with memory := m })
  close s := s
  patience s := s.memory.documentCount + (s.memory.script.getD []).length + 2

end LocalState

end EntityStore
