import EntityStore.Proofs.Store.Filed
import EntityStore.Proofs.Store.Retrieval

/-!
# Ways to look a document up

A document can be read under its key, it can be found by its id in whatever partition, and it can be
among the documents that are read by their ids, from all pages of a request.  `lookups_agree` says
that these ways agree over any database that calls have led to.

Of the documents that are read by their ids the last one under an id stays.  In a container in which
each document stands under its own key there is at most one with an id in a partition, and it is the
one under the key (`Filed.get?_filing_selected`).  If the container is partitioned on the id, then
the id has only one partition.
-/

namespace EntityStore

namespace MemoryContainer

/-! ### Documents of a filed container -/

variable {c : MemoryContainer}

namespace Filed

theorem idOf_eq (h : c.Filed) {p : DocumentKey × Fields} (hp : p ∈ c.documents) :
    idOf p.2 = .str p.1.id := by
  rw [idOf, h.id p hp]
  rfl

/-- **The document under an id among those that are read by their ids** is the one under the key,
where the partitions that are asked for come to one partition value. -/
theorem get?_filing_selected (h : c.Filed) {ids : List String} {id : String} (hid : id ∈ ids)
    {field : String} {r : PageRequest}
    (hr : r.statement = Sql.idsStatement (ids.map .str) field r.partition) {v : Value}
    (hv : ∀ p ∈ c.documents, p.1.id = id →
      (r.partition.isNull || p.1.partition.equal r.partition) = p.1.partition.equal v) :
    (Document.filing (c.selected r) []).get? id = (c.documents.get? ⟨v, id⟩).map .object := by
  have hne : ids.map Value.str ≠ [] := List.map_eq_nil_iff.not.2 (List.ne_nil_of_mem hid)
  -- What is selected under the id is what is stored under the key.
  have hkey : (c.selected r).filter (fun d => (idOf d).text = id)
      = (c.documents.filter fun p => p.1 == ⟨v, id⟩).map Prod.snd := by
    rw [selected_ids c hne field hr, inPartition, List.filter_map, List.filter_map,
      List.filter_filter, List.filter_filter]
    congr 1
    refine List.filter_congr ?_
    intro p hp
    have hsame : (p.1 == (⟨v, id⟩ : DocumentKey)) = (p.1.partition.equal v && p.1.id == id) := rfl
    have htext : (idOf p.2).text = p.1.id := congrArg Value.text (h.idOf_eq hp)
    dsimp only [Function.comp_def]
    rw [htext, hsame]
    -- A document under another id is in neither of the two lists.
    by_cases hpid : p.1.id = id
    · have hasked : (ids.map Value.str).any (idOf p.2).equal = true := by
        rw [List.any_eq_true, h.idOf_eq hp]
        refine ⟨.str id, List.mem_map_of_mem hid, ?_⟩
        rw [DocumentMap.equal_str, hpid, BEq.rfl]
      rw [hasked, hv p hp hpid, hpid, BEq.rfl, Bool.and_true,
        decide_eq_true (Eq.refl id), Bool.true_and, Bool.and_true]
    · rw [decide_eq_false hpid, beq_false_of_ne hpid, Bool.and_false]
      rfl
  rw [Document.get?_filing, hkey, h.sound.filter_key]
  cases c.documents.get? ⟨v, id⟩ <;> rfl

/-- Nothing is found under an id that is not asked for. -/
theorem get?_filing_unasked (h : c.Filed) {ids : List String} (hne : ids ≠ []) {id : String}
    (hid : id ∉ ids) {field : String} {r : PageRequest}
    (hr : r.statement = Sql.idsStatement (ids.map .str) field r.partition) :
    (Document.filing (c.selected r) []).get? id = none := by
  have hnone : (c.selected r).filter (fun d => (idOf d).text = id) = [] := by
    rw [List.filter_eq_nil_iff]
    intro d hd htext
    rw [selected_ids c (List.map_eq_nil_iff.not.2 hne) field hr, List.mem_filter] at hd
    obtain ⟨hpartition, hasked⟩ := hd
    obtain ⟨p, hp, rfl⟩ := List.mem_map.1 hpartition
    have hidOf := h.idOf_eq (List.mem_filter.1 hp).1
    obtain ⟨w, hw, hequal⟩ := List.any_eq_true.1 hasked
    obtain ⟨i, hi, rfl⟩ := List.mem_map.1 hw
    rw [hidOf, DocumentMap.equal_str, beq_iff_eq] at hequal
    rw [hidOf, decide_eq_true_eq] at htext
    have hsame : p.1.id = id := htext
    exact hid (hsame ▸ hequal ▸ hi)
  rw [Document.get?_filing, hnone]
  rfl

/-- In a container that is partitioned on the id, the partition value is the id. -/
theorem partition_equal (h : c.Filed) (hpath : c.partitionPath = [Document.idField])
    {p : DocumentKey × Fields} (hp : p ∈ c.documents) :
    p.1.partition.equal (.str p.1.id) = true := by
  have hvalue : c.partitionOf p.2 = .str p.1.id := by
    rw [partitionOf, hpath]
    show (p.2.get? Document.idField).getD .null = _
    rw [h.id p hp]
    rfl
  rcases h.partition p hp with hkey | hkey
  · rw [hkey, hvalue, DocumentMap.equal_str, BEq.rfl]
  · rw [← hvalue]
    exact hkey

/-- There the documents with an id are the one under the key of the id. -/
theorem filter_id (h : c.Filed)
    (hpartition : ∀ p ∈ c.documents, p.1.partition.equal (.str p.1.id) = true) (id : String) :
    (c.documents.map Prod.snd).filter (fun d => (idOf d).equal (.str id))
      = (c.documents.get? ⟨.str id, id⟩).toList := by
  rw [← h.sound.filter_key, List.filter_map]
  congr 1
  refine List.filter_congr fun p hp => ?_
  rw [Function.comp_apply, h.idOf_eq hp, DocumentMap.equal_str]
  show (p.1.id == id) = (p.1.partition.equal (.str id) && p.1.id == id)
  by_cases hpid : p.1.id = id
  · rw [← hpid, hpartition p hp, Bool.true_and]
  · rw [beq_false_of_ne hpid, Bool.and_false]

end Filed

end MemoryContainer

/-! ### Readings from a session in order -/

section

variable {σ : Type} {b : Backend σ String} {memory : σ → Memory} {s : Session σ String}
  {entity : String} {config : ContainerConfig}

open Session MemoryContainer

section

variable (hb : b.InMemory memory) (h : s.InOrder memory)
  (hentity : Text.isBlankText entity = false)
  (hknown : (s.router.registry.lookup entity).1 = .ok config) {id : String}
  (hid : Text.isBlankText id = false)

include hb h hentity hknown hid

/-- **A document is read** under its partition value and its id. -/
theorem Call.run_read_key {partition : Value} (hpartition : partition.Hashable)
    (hgiven : partition.isNull = false) :
    ((Call.read (some entity) (some id) partition).run b s).1
      = .ok (((memory s.outside).container config.containerId).answer ⟨partition, id⟩) :=
  h.atRest.run_read_key hb hentity (h.containerOf_eq hknown) hid hpartition hgiven

/-- **Where the id is the partition value** it need not be given. -/
theorem Call.run_read_own (hfield : config.partitionField = Document.idField) :
    ((Call.read (some entity) (some id) .null).run b s).1
      = .ok (((memory s.outside).container config.containerId).answer ⟨.str id, id⟩) :=
  h.atRest.run_read_own hb hentity (h.containerOf_eq hknown) hid hknown hfield

/-- **Elsewhere the first document with the id is found**, in whatever partition. -/
theorem Call.run_read_anywhere (hpatient : b.Patient memory)
    (hfield : config.partitionField ≠ Document.idField)
    (hnumerals : ((memory s.outside).container config.containerId).documents.length
      ≤ 10 ^ maxDigits) :
    ((Call.read (some entity) (some id) .null).run b s).1
      = .ok ((((memory s.outside).container config.containerId).selected
          (lookupRequest id)).head?.elim .noDocument fun d => .document (.object d)) :=
  h.atRest.run_read_anywhere hb hentity (h.containerOf_eq hknown) hid hknown hpatient hfield
    hnumerals

end

/-! ### The ways agree -/

/-- **A reading of an id and a reading of several ids agree**: nothing is found under other ids, and
what is found under the id is the document that is read, or nothing is where there is none. -/
def LookupsAgree (ids : List String) (id : String) (one several : Except Failure (Answer String)) :
    Prop :=
  ∃ found, several = .ok (.documents found) ∧ (∀ i, i ∉ ids → found.get? i = none)
    ∧ ((found.get? id = none ∧ one = .ok .noDocument)
      ∨ ∃ d : Fields, found.get? id = some (.object d) ∧ one = .ok (.document (.object d)))

/-- They agree where the partitions that are asked for come to one partition value. -/
theorem lookupsAgree_answer (hb : b.InMemory memory) (hpatient : b.Patient memory)
    (h : s.InOrder memory) (hentity : Text.isBlankText entity = false)
    (hknown : (s.router.registry.lookup entity).1 = .ok config)
    (hfiled : ((memory s.outside).container config.containerId).Filed)
    (hnumerals : ((memory s.outside).container config.containerId).documents.length
      ≤ 10 ^ maxDigits) {ids : List String} {id : String} (hid : id ∈ ids) {given : Value}
    (hgiven : given.elements? = some (ids.map .str)) {partition v : Value}
    (hv : ∀ p ∈ ((memory s.outside).container config.containerId).documents, p.1.id = id →
      (partition.isNull || p.1.partition.equal partition) = p.1.partition.equal v) :
    LookupsAgree ids id (.ok (((memory s.outside).container config.containerId).answer ⟨v, id⟩))
      ((Call.readMap (some entity) partition given).run b s).1 := by
  obtain ⟨ds, hrequired, hsame⟩ := requireIds_texts hgiven
  have hmem : id ∈ ds := (hsame id).2 hid
  have hne : ds ≠ [] := List.ne_nil_of_mem hmem
  have hids : ∀ p ∈ ((memory s.outside).container config.containerId).documents,
      (p.2.get? Document.idField).isSome := by
    intro p hp
    rw [hfiled.id p hp]
    rfl
  refine ⟨_, h.atRest.run_readMap hb hentity (h.containerOf_eq hknown) hpatient hknown hids
    hnumerals hrequired (List.map_eq_nil_iff.not.2 hne), ?_, ?_⟩
  · -- Ids that are not asked for are not filed.
    intro i hi
    exact hfiled.get?_filing_unasked hne (fun hmem => hi ((hsame i).1 hmem)) rfl
  · -- The id is filed with the document that is stored under its key, if there is one.
    rw [hfiled.get?_filing_selected hmem rfl hv, answer]
    cases ((memory s.outside).container config.containerId).documents.get? ⟨v, id⟩ with
    | none => exact .inl ⟨rfl, rfl⟩
    | some d => exact .inr ⟨d, rfl, rfl⟩

end

/-- **The ways to look a document up agree**, in every database in memory that calls have led to
from an empty one, whatever calls have run side by side on whatever schedule, for an entity whose
container no other entity in use has.  Reading an id under a partition value that is a text agrees
with reading several ids under it, this one among them and repeated or not.  Where the container
is partitioned on the id the same holds without a partition value.  And if exactly one of the
documents has the id, a reading without a partition value is answered with it, whatever the
partition field is.

The session that reads may be any one in order over the database, whatever the page size that it
allows. -/
theorem lookups_agree {σ : Type} (b : Backend σ String) (memory : σ → Memory)
    (hb : b.InMemory memory) (hpatient : b.Patient memory) (s₀ : Session σ String)
    (hempty : (memory s₀.outside).containers = []) (config : ContainerConfig) (calls : List Call)
    (hown : ∀ call ∈ calls, ∀ e, call.entity? = some e → s₀.router.registry.Spares config e)
    (schedule : List Nat) (s : Session σ String) (h : s.InOrder memory)
    (hreached : (memory s.outside).containers = (memory
      ((⟨s₀, calls.map .starting⟩ : Crew σ String).run b schedule).session.outside).containers)
    (entity : String) (hentity : Text.isBlankText entity = false)
    (hknown : (s.router.registry.lookup entity).1 = .ok config)
    (hnumerals : ((memory s.outside).container config.containerId).documents.length
      ≤ 10 ^ maxDigits) (id : String) (hid : Text.isBlankText id = false) (ids : List String)
    (hasked : id ∈ ids) (given : Value) (hgiven : given.elements? = some (ids.map .str)) :
    let documents := ((memory s.outside).container config.containerId).documents.map Prod.snd
    let read partition := ((Call.read (some entity) (some id) partition).run b s).1
    let readMap partition := ((Call.readMap (some entity) partition given).run b s).1
    (∀ v : String, LookupsAgree ids id (read (.str v)) (readMap (.str v)))
      ∧ (config.partitionField = Document.idField →
        LookupsAgree ids id (read .null) (readMap .null))
      ∧ ∀ d : Fields, documents.filter (fun d => (MemoryContainer.idOf d).equal (.str id)) = [d] →
        read .null = .ok (.document (.object d)) := by
  intro documents read readMap
  let container := (memory s.outside).container config.containerId
  have hcontainer := Memory.container_eq hreached config.containerId
  have hfiled : container.Filed := by
    show ((memory s.outside).container config.containerId).Filed
    rw [hcontainer]
    exact Crew.filed_run hb hempty calls schedule config.containerId
  -- Partitioned on the id, a document lies in the partition that its id names.
  have hpartition (hfield : config.partitionField = Document.idField) :
      ∀ p ∈ container.documents, p.1.partition.equal (.str p.1.id) = true := by
    have hpath : MemoryContainer.pathSegments config.partitionPath = [Document.idField] := by
      rw [ContainerConfig.partitionPath, hfield]
      decide
    -- A container that has not been made has no path, but it has no documents either.
    rcases Crew.partitioned_run hb hempty hown schedule with hpartitioned | hnone
    · intro p hp
      refine hfiled.partition_equal ?_ hp
      show ((memory s.outside).container config.containerId).partitionPath = _
      rw [hcontainer, hpartitioned, hpath]
    · intro p hp
      have hp' : p ∈ ((memory s.outside).container config.containerId).documents := hp
      rw [hcontainer, hnone] at hp'
      cases hp'
  refine ⟨?_, ?_, ?_⟩
  · -- The partition is given.
    intro v
    have hread : read (.str v) = .ok (container.answer ⟨.str v, id⟩) :=
      Call.run_read_key hb h hentity hknown hid (Value.hashable_str v) rfl
    rw [hread]
    exact lookupsAgree_answer hb hpatient h hentity hknown hfiled hnumerals hasked hgiven
      fun p _ _ => Bool.false_or _
  · -- None is given, and the id is the partition.
    intro hfield
    have hread : read .null = .ok (container.answer ⟨.str id, id⟩) :=
      Call.run_read_own hb h hentity hknown hid hfield
    rw [hread]
    refine lookupsAgree_answer hb hpatient h hentity hknown hfiled hnumerals hasked hgiven ?_
    intro p hp hpid
    rw [← hpid, hpartition hfield p hp]
    rfl
  · -- None is given, and there is only one document under the id.
    intro d hd
    by_cases hfield : config.partitionField = Document.idField
    · have hread : read .null = .ok (container.answer ⟨.str id, id⟩) :=
        Call.run_read_own hb h hentity hknown hid hfield
      have hkey : container.documents.get? ⟨.str id, id⟩ = some d :=
        Option.toList_eq_singleton_iff.1 ((hfiled.filter_id (hpartition hfield) id).symm.trans hd)
      rw [hread, MemoryContainer.answer, hkey]
      rfl
    · have hread := Call.run_read_anywhere hb h hentity hknown hid hpatient hfield hnumerals
      rw [MemoryContainer.selected_lookup, hd] at hread
      exact hread

namespace TwoTenants

/-- The orders of tenants, in a container of their own. -/
def orders : ContainerConfig := ⟨"order", "orders", "tenantId"⟩

def registry : Registry := .ofList [orders] true

def outside : LocalState := { clock := ⟨⟨2024, 1, 1⟩, 0, 0, 0, 0, none⟩, ids := ⟨[], 0⟩ }

def order (id tenant : String) : Call :=
  .create (some "order") (some id) (.object [("tenantId", .str tenant)])

/-- Two tenants have an order of one id, and one of them has another order; there is a note too. -/
def calls : List Call :=
  [order "1" "a", order "1" "b", order "2" "b", .create (some "note") none (.object [])]

def start : Session LocalState String := ⟨{ registry := registry }, 10, outside⟩

def run : Crew LocalState String :=
  (⟨start, calls.map .starting⟩ : Crew LocalState String).run LocalState.backend
    [0, 1, 3, 0, 1, 2, 3]

/-- A session over what the calls have left, in which a page holds one document. -/
def reading : Session LocalState String :=
  ⟨{ registry := registry }, 10, { outside with
    memory := { containers := run.session.outside.memory.containers, maxPageSize := some 1 } }⟩

theorem reading_inOrder : reading.InOrder LocalState.memory := by
  refine .of_opened ⟨Int.le_refl 0, rfl, ?_⟩ rfl rfl
  rintro n ⟨⟩
  exact Int.le_refl 1

theorem spared {call : Call} (hcall : call ∈ calls) {e : String} (he : call.entity? = some e) :
    registry.Spares orders e := by
  intro c hc hid
  have he' : e = "order" ∨ e = "note" := by
    simp only [calls, order, List.mem_cons, List.not_mem_nil, or_false] at hcall
    rcases hcall with rfl | rfl | rfl | rfl <;> cases he <;> simp
  rcases he' with rfl | rfl
  · cases hc
    rfl
  · cases hc
    exact absurd hid (by decide)

end TwoTenants

open TwoTenants in
/-- The other order is found under its tenant, among several, and by its id alone. -/
theorem lookups_agree_tenants :
    let read partition :=
      ((Call.read (some "order") (some "2") partition).run LocalState.backend reading).1
    let readMap partition := ((Call.readMap (some "order") partition
      (.list [.str "2", .str "1", .str "2"])).run LocalState.backend reading).1
    (run.session.outside.memory.containers.map fun p => (p.1, p.2.documents.length))
        = [("orders", 3), ("note", 1)]
      ∧ reading.InOrder LocalState.memory
      ∧ LookupsAgree ["2", "1", "2"] "2" (read (.str "b")) (readMap (.str "b"))
      ∧ ∃ d : Fields, read .null = .ok (.document (.object d))
        ∧ (d.get? "tenantId").map Value.text = some "b" := by
  intro read readMap
  let documents := (reading.outside.memory.container "orders").documents.map Prod.snd
  have hlength : (reading.outside.memory.container "orders").documents.length = 3 := by
    decide +kernel
  have hnumerals : (reading.outside.memory.container "orders").documents.length
      ≤ 10 ^ maxDigits :=
    hlength.le.trans ((show 3 ≤ 10 ^ 1 by decide).trans
      (Nat.pow_le_pow_right (by decide) (by decide)))
  have hreached : (LocalState.memory reading.outside).containers
      = (LocalState.memory ((⟨start, calls.map .starting⟩ : Crew LocalState String).run
        LocalState.backend [0, 1, 3, 0, 1, 2, 3]).session.outside).containers := by
    dsimp only [reading, run]
  obtain ⟨hagree, -, hone⟩ := lookups_agree LocalState.backend LocalState.memory
    LocalState.backend_inMemory LocalState.backend_patient start rfl orders calls
    (fun call hcall e he => spared hcall he) [0, 1, 3, 0, 1, 2, 3] reading reading_inOrder hreached
    "order" (by decide) rfl hnumerals "2" (by decide) ["2", "1", "2"] List.mem_cons_self
    (.list [.str "2", .str "1", .str "2"]) rfl
  have htenants : (documents.filter fun d => (MemoryContainer.idOf d).equal (.str "2")).map
      (fun d => (d.get? "tenantId").map Value.text) = [some "b"] := by decide +kernel
  obtain ⟨d, hd, hdtenant⟩ := List.map_eq_singleton_iff.1 htenants
  exact ⟨by decide +kernel, reading_inOrder, hagree "b", d, hone d hd, hdtenant⟩

end EntityStore
