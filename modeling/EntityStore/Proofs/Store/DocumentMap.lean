import EntityStore.Proofs.Store.Container
import EntityStore.Store.Work
import Mathlib.Logic.Function.Basic

/-!
# Documents by partition value and id

The documents of one entity, as they are meant: a map from a partition value and an id to a document
(`DocumentMap`).  `DocumentMap.answer` says what the four calls on single documents come to on such
a map.  Creating needs the key to be free, and replacing and deleting need it to be taken; a call that
fails changes nothing, and no call touches another key (`answer_alters`).

A container holds a map when its entries are those of the map, under the same keys and each once
(`DocumentMap.Represents`).  A request to it then comes to the same as on the map
(`Memory.Holds.create` and its siblings): a document has its key from the partition value and the id
that are stamped on it, and the same key is made of the arguments when it is read or deleted.
-/

namespace EntityStore

/-! ### Maps and calls on them -/

/-- **The documents of an entity** by their partition values and ids. -/
abbrev DocumentMap := String × String → Option Fields

/-- A call on one document of an entity.  The partition value, where it is given, is a text. -/
inductive DocumentCall where
  | create (id : String) (document : Fields)
  | read (id : String) (partition : Option String)
  | replace (id : String) (document : Fields)
  | delete (id : String) (partition : Option String)

namespace DocumentCall

/-- The id of the document that a call is about. -/
def id : DocumentCall → String
  | create id _ | read id _ | replace id _ | delete id _ => id

/-- The call of the store. -/
def toCall (entity : String) : DocumentCall → Call
  | create id document => .create (some entity) (some id) (.object document)
  | read id partition => .read (some entity) (some id) (.ofText? partition)
  | replace id document => .replace (some entity) (some id) (.object document)
  | delete id partition => .delete (some entity) (some id) (.ofText? partition)

end DocumentCall

/-- What a container with this configuration takes for the partition value of a document. -/
def ContainerConfig.partitionOf (config : ContainerConfig) (body : Fields) : Value :=
  MemoryContainer.valueAt (.object body) (MemoryContainer.pathSegments config.partitionPath)

/-- Points that have become slashes become points again, unless there were slashes before. -/
theorem points_of_slashes {l : List Char} (h : '/' ∉ l) :
    (l.map fun x => if x = '.' then '/' else x).map (fun c => if c = '/' then '.' else c) = l := by
  rw [List.map_map]
  refine (List.map_congr_left ?_).trans (List.map_id _)
  intro c hc
  have hc' : c ≠ '/' := fun hslash => h (hslash ▸ hc)
  by_cases hpoint : c = '.'
  · subst hpoint
    rfl
  · show (if (if c = '.' then '/' else c) = '/' then '.' else if c = '.' then '/' else c) = c
    rw [if_neg hpoint, if_neg hc']

/-- The slashes in front are then the points in front. -/
theorem dropWhile_slashes {l : List Char} (h : '/' ∉ l) :
    (l.map fun x => if x = '.' then '/' else x).dropWhile (· = '/')
      = (l.dropWhile (· = '.')).map fun x => if x = '.' then '/' else x := by
  rw [List.dropWhile_map]
  congr 1
  induction l with
  | nil => rfl
  | cons c l ih =>
    rw [List.mem_cons, not_or] at h
    by_cases hpoint : c = '.'
    · subst hpoint
      exact ih h.2
    · rw [List.dropWhile_cons_of_neg, List.dropWhile_cons_of_neg (by simpa using hpoint)]
      simpa [hpoint] using Ne.symm h.1

/-- **The segments of the partition path** are those that points separate in the field, points at its
start aside, unless it has a slash in it. -/
theorem ContainerConfig.pathSegments_of_no_slash {config : ContainerConfig}
    (hslash : '/' ∉ config.partitionField.toList) :
    MemoryContainer.pathSegments config.partitionPath
      = ((config.partitionField.toList.dropWhile (· = '.')).splitOn '.').map String.ofList := by
  have hpath : config.partitionPath.toList
      = '/' :: config.partitionField.toList.map fun x => if x = '.' then '/' else x := by
    rw [partitionPath, String.toList_append, String.toList_ofList, String.toList_ofList]
    exact List.singleton_append
  have hrest : '/' ∉ config.partitionField.toList.dropWhile (· = '.') :=
    fun h => hslash ((List.dropWhile_sublist _).mem h)
  rw [MemoryContainer.pathSegments, hpath, List.dropWhile_cons_of_pos (by rfl),
    dropWhile_slashes hslash, points_of_slashes hrest]

/-- Points at the start matter only if there are some. -/
theorem ContainerConfig.pathSegments_partitionPath {config : ContainerConfig}
    (hslash : '/' ∉ config.partitionField.toList)
    (hpoint : config.partitionField.toList.head? ≠ some '.') :
    MemoryContainer.pathSegments config.partitionPath
      = (config.partitionField.toList.splitOn '.').map String.ofList := by
  rw [pathSegments_of_no_slash hslash]
  cases hfield : config.partitionField.toList with
  | nil => rfl
  | cons c r =>
    rw [hfield] at hpoint
    have hc : c ≠ '.' := fun h => hpoint (congrArg some h)
    rw [List.dropWhile_cons_of_neg (by simpa using hc)]

/-- **The calls that a map answers**: ids are not blank, the partition value of a document that is
written is a text, and the value is left out only where the id is the partition value. -/
def DocumentCall.Fits (entity : String) (config : ContainerConfig) : DocumentCall → Prop
  | create id document => Text.isBlankText id = false
    ∧ ∀ now body, Document.stampNew document entity (.str id) now = some body →
      ∃ v, config.partitionOf body = .str v
  | replace id document => Text.isBlankText id = false
    ∧ ∀ now body, Document.stampReplacing document entity (.str id) now = some body →
      ∃ v, config.partitionOf body = .str v
  | read id partition | delete id partition => Text.isBlankText id = false
    ∧ (partition = none → config.partitionField = Document.idField)

namespace DocumentMap

/-- A document as it is stamped with what the clock shows, if it shows something. -/
def stamped (stamp : DateTime → Option Fields) (now : Except Failure DateTime) :
    Except Failure Fields :=
  now >>= fun now => inCalendar (stamp now)

/-- The key of a document that is written under an id. -/
def keyOf (config : ContainerConfig) (id : String) (body : Fields) : String × String :=
  ((config.partitionOf body).text?.getD "", id)

/-- Writes a document under a key that has to be free. -/
def create (m : DocumentMap) (k : String × String) (body : Fields) :
    Except Failure Value × DocumentMap :=
  match m k with
  | some _ => (.error (.exists_ k.2), m)
  | none => (.ok (.object body), Function.update m k (some body))

/-- Reads the document under a key; that there is none is an answer. -/
def read (m : DocumentMap) (k : String × String) : Answer String :=
  match m k with
  | some body => .document (.object body)
  | none => .noDocument

/-- Writes a document under a key that has to be taken. -/
def replace (containerId : String) (m : DocumentMap) (k : String × String) (body : Fields) :
    Except Failure Value × DocumentMap :=
  match m k with
  | some _ => (.ok (.object body), Function.update m k (some body))
  | none => (.error (.absent containerId k.2 none), m)

/-- Removes the document under a key, if there is one. -/
def delete (containerId : String) (m : DocumentMap) (k : String × String) :
    Except Failure Unit × DocumentMap :=
  match m k with
  | some _ => (.ok (), Function.update m k none)
  | none => (.error (.absent containerId k.2 none), m)

/-- **What a map answers to a call**, when the clock shows a time, and the map after it. -/
def answer (entity : String) (config : ContainerConfig) (now : Except Failure DateTime)
    (m : DocumentMap) : DocumentCall → Except Failure (Answer String) × DocumentMap
  | .create id document =>
    match stamped (Document.stampNew document entity (.str id)) now with
    | .error e => (.error e, m)
    | .ok body =>
      let (r, m) := m.create (keyOf config id body) body
      (r.map .document, m)
  | .read id partition => (.ok (m.read (partition.getD id, id)), m)
  | .replace id document =>
    match stamped (Document.stampReplacing document entity (.str id)) now with
    | .error e => (.error e, m)
    | .ok body =>
      let (r, m) := m.replace config.containerId (keyOf config id body) body
      (r.map .document, m)
  | .delete id partition =>
    let (r, m) := m.delete config.containerId (partition.getD id, id)
    (r.map fun () => .deleted, m)

/-! ### What a call can change -/

/-- **The map after something has been done under a key**: unless that has failed, only what is
under the key can have changed. -/
structure Alters {α : Type} (m : DocumentMap) (k : String × String)
    (done : Except Failure α × DocumentMap) : Prop where
  failed : ∀ e, done.1 = .error e → done.2 = m
  others : ∀ k', k' ≠ k → done.2 k' = m k'

section Alters

variable {m : DocumentMap} {k : String × String}

theorem Alters.unchanged {α : Type} (m : DocumentMap) (k : String × String)
    (r : Except Failure α) : m.Alters k (r, m) :=
  ⟨fun _ _ => rfl, fun _ _ => rfl⟩

theorem Alters.update {α : Type} (m : DocumentMap) (k : String × String) (reply : α)
    (written : Option Fields) : m.Alters k (.ok reply, Function.update m k written) := by
  refine ⟨?_, fun k' hk => Function.update_of_ne hk _ _⟩
  rintro e ⟨⟩

theorem Alters.map {α β : Type} {done : Except Failure α × DocumentMap} (h : m.Alters k done)
    (f : α → β) : m.Alters k (done.1.map f, done.2) :=
  ⟨fun _ he => h.failed _ (error_of_map he), h.others⟩

theorem create_alters (m : DocumentMap) (k : String × String) (body : Fields) :
    m.Alters k (m.create k body) := by
  rw [create]
  cases m k with
  | some _ => exact .unchanged m k _
  | none => exact .update m k _ _

theorem replace_alters (containerId : String) (m : DocumentMap) (k : String × String)
    (body : Fields) : m.Alters k (m.replace containerId k body) := by
  rw [replace]
  cases m k with
  | some _ => exact .update m k _ _
  | none => exact .unchanged m k _

theorem delete_alters (containerId : String) (m : DocumentMap) (k : String × String) :
    m.Alters k (m.delete containerId k) := by
  rw [delete]
  cases m k with
  | some _ => exact .update m k _ _
  | none => exact .unchanged m k _

/-- **A call that fails changes nothing, and one that succeeds what is under one key of its id.** -/
theorem answer_alters (entity : String) (config : ContainerConfig) (now : Except Failure DateTime)
    (m : DocumentMap) (call : DocumentCall) :
    ∃ v, m.Alters (v, call.id) (m.answer entity config now call) := by
  cases call with
  | create id document =>
    rw [answer]
    cases stamped (Document.stampNew document entity (.str id)) now with
    | error e => exact ⟨"", .unchanged m _ _⟩
    | ok body => exact ⟨_, (create_alters m (_, id) body).map _⟩
  | read id partition => exact ⟨"", .unchanged m _ _⟩
  | replace id document =>
    rw [answer]
    cases stamped (Document.stampReplacing document entity (.str id)) now with
    | error e => exact ⟨"", .unchanged m _ _⟩
    | ok body => exact ⟨_, (replace_alters _ m (_, id) body).map _⟩
  | delete id partition => exact ⟨_, (delete_alters _ m (_, id)).map _⟩

end Alters

/-! ### Containers that hold a map -/

/-- A key of a map as a key of a container. -/
def documentKey (k : String × String) : DocumentKey := ⟨.str k.1, k.2⟩

theorem equal_str (a b : String) : (Value.str a).equal (.str b) = (a == b) := by
  rw [Value.equal, Scalar.equal, Scalar.class?, Scalar.class?]
  by_cases h : a = b
  · subst h
    simp
  · simp [h]

theorem documentKey_beq (a b : String × String) : (documentKey a == documentKey b) = (a == b) := by
  show ((Value.str a.1).equal (.str b.1) && a.2 == b.2) = (a.1 == b.1 && a.2 == b.2)
  rw [equal_str]

/-- **Entries that hold a map**: they are those of the map, each once. -/
def Represents (m : DocumentMap) (e : Entries DocumentKey Fields) : Prop :=
  ∃ l : Entries (String × String) Fields, e = l.rename documentKey ∧ l.Distinct
    ∧ ∀ k, l.get? k = m k

namespace Represents

variable {m : DocumentMap} {e : Entries DocumentKey Fields} {k : String × String} {body : Fields}

theorem empty : Represents (fun _ => none) [] := ⟨[], rfl, .nil, fun _ => rfl⟩

theorem get? (h : m.Represents e) (k : String × String) : e.get? (documentKey k) = m k := by
  obtain ⟨l, rfl, -, hl⟩ := h
  rw [Entries.get?_rename documentKey_beq, hl]

theorem put (h : m.Represents e) (k : String × String) (body : Fields) :
    Represents (Function.update m k (some body)) (e.put (documentKey k) body) := by
  obtain ⟨l, rfl, hdistinct, hl⟩ := h
  refine ⟨l.put k body, Entries.put_rename documentKey_beq l k body, hdistinct.put k body, ?_⟩
  intro k'
  by_cases hk : k = k'
  · subst hk
    rw [Entries.get?_put_self, Function.update_self]
  · rw [Entries.get?_put_of_ne _ _ hk, hl, Function.update_of_ne (Ne.symm hk)]

theorem erase (h : m.Represents e) (k : String × String) :
    Represents (Function.update m k none) (e.erase (documentKey k)) := by
  obtain ⟨l, rfl, hdistinct, hl⟩ := h
  refine ⟨l.erase k, Entries.erase_rename documentKey_beq l k,
    List.Pairwise.sublist (Entries.erase_sublist l k) hdistinct, ?_⟩
  intro k'
  by_cases hk : k = k'
  · subst hk
    rw [hdistinct.get?_erase_self, Function.update_self]
  · rw [Entries.get?_erase_of_ne _ hk, hl, Function.update_of_ne (Ne.symm hk)]

end Represents

end DocumentMap

/-! ### Requests to a container that holds a map -/

/-- **A database that holds the documents of a map**, in the container of a configuration. -/
def Memory.Holds (memory : Memory) (config : ContainerConfig) (m : DocumentMap) : Prop :=
  ∃ c, memory.containers.get? config.containerId = some c
    ∧ c.partitionPath = MemoryContainer.pathSegments config.partitionPath
    ∧ m.Represents c.documents

namespace Memory.Holds

open DocumentMap

variable {memory : Memory} {config : ContainerConfig} {m : DocumentMap} {id v : String}
  {body : Fields}

/-- After a request that has changed the container. -/
theorem put {c : MemoryContainer} {m' : DocumentMap}
    (hpath : c.partitionPath = MemoryContainer.pathSegments config.partitionPath)
    (hdocuments : m'.Represents c.documents) :
    Holds { memory with containers := memory.containers.put config.containerId c } config m' :=
  ⟨c, Entries.get?_put_self .., hpath, hdocuments⟩

theorem container_eq {c : MemoryContainer}
    (h : memory.containers.get? config.containerId = some c) :
    memory.container config.containerId = c := by
  rw [Memory.container, h, Option.getD_some]

theorem idOf_text (hid : body.get? Document.idField = some (.str id)) :
    (MemoryContainer.idOf body).text = id := by
  rw [MemoryContainer.idOf, hid]
  rfl

section Written

variable {c : MemoryContainer}
  (hpath : c.partitionPath = MemoryContainer.pathSegments config.partitionPath)
  (hpartition : config.partitionOf body = .str v)

include hpath hpartition

theorem partitionOf_eq : c.partitionOf body = .str v := by
  rw [MemoryContainer.partitionOf, hpath]
  exact hpartition

theorem hashable : (c.partitionOf body).Hashable := by
  rw [partitionOf_eq hpath hpartition]
  exact Value.hashable_str v

/-- The key that a container makes of a document is that of the map. -/
theorem keyOf_eq (hid : body.get? Document.idField = some (.str id)) :
    c.keyOf body = documentKey (v, id) := by
  rw [MemoryContainer.keyOf, partitionOf_eq hpath hpartition, idOf_text hid]
  rfl

end Written

/-- **Creating a document** does the same to the container and to the map. -/
theorem create (h : memory.Holds config m) (hid : body.get? Document.idField = some (.str id))
    (hpartition : config.partitionOf body = .str v) :
    (memory.perform (.create config.containerId body)).1 = (m.create (v, id) body).1
      ∧ (memory.perform (.create config.containerId body)).2.Holds config
        (m.create (v, id) body).2 := by
  obtain ⟨c, hc, hpath, hdocuments⟩ := h
  have hkey := keyOf_eq hpath hpartition hid
  rw [Memory.perform, container_eq hc, MemoryContainer.create_eq (hashable hpath hpartition), hkey,
    Entries.contains, hdocuments.get?, idOf_text hid, DocumentMap.create]
  cases m (v, id) with
  | some _ => exact ⟨rfl, c, hc, hpath, hdocuments⟩
  | none =>
    refine ⟨rfl, put hpath ?_⟩
    rw [MemoryContainer.stored, hkey]
    exact hdocuments.put (v, id) body

/-- **Replacing a document** does the same to the container and to the map. -/
theorem replace (h : memory.Holds config m) (hid : body.get? Document.idField = some (.str id))
    (hpartition : config.partitionOf body = .str v) :
    (memory.perform (.replace config.containerId id body)).1
        = (m.replace config.containerId (v, id) body).1
      ∧ (memory.perform (.replace config.containerId id body)).2.Holds config
        (m.replace config.containerId (v, id) body).2 := by
  obtain ⟨c, hc, hpath, hdocuments⟩ := h
  have hkey := keyOf_eq hpath hpartition hid
  have hreplace := MemoryContainer.replace?_eq (hashable hpath hpartition)
  rw [idOf_text hid, hkey, Entries.contains, hdocuments.get?] at hreplace
  rw [Memory.perform, container_eq hc, hreplace, DocumentMap.replace]
  cases m (v, id) with
  | some _ =>
    refine ⟨rfl, put hpath ?_⟩
    rw [MemoryContainer.stored, hkey]
    exact hdocuments.put (v, id) body
  | none => exact ⟨rfl, c, hc, hpath, hdocuments⟩

/-- **Deleting a document** does the same to the container and to the map. -/
theorem delete (h : memory.Holds config m) (v id : String) :
    (memory.perform (.delete config.containerId id (.str v))).1
        = (m.delete config.containerId (v, id)).1
      ∧ (memory.perform (.delete config.containerId id (.str v))).2.Holds config
        (m.delete config.containerId (v, id)).2 := by
  obtain ⟨c, hc, hpath, hdocuments⟩ := h
  have hget : c.documents.get? ⟨.str v, id⟩ = m (v, id) := hdocuments.get? (v, id)
  rw [Memory.perform, container_eq hc, MemoryContainer.delete?_eq (Value.hashable_str v),
    Entries.contains, hget, DocumentMap.delete]
  cases m (v, id) with
  | some _ => exact ⟨rfl, put hpath (hdocuments.erase (v, id))⟩
  | none => exact ⟨rfl, c, hc, hpath, hdocuments⟩

/-- **Reading a document** finds what the map has. -/
theorem read (h : memory.Holds config m) (v id : String) :
    memory.perform (.read config.containerId id (.str v))
      = ((m (v, id)).elim (.error (.absent config.containerId id none)) fun body =>
          .ok (.object body), memory) := by
  obtain ⟨c, hc, -, hdocuments⟩ := h
  have hget : c.documents.get? ⟨.str v, id⟩ = m (v, id) := hdocuments.get? (v, id)
  rw [Memory.perform, container_eq hc, MemoryContainer.read?_eq (Value.hashable_str v), hget]
  cases m (v, id) <;> rfl

end Memory.Holds

end EntityStore
