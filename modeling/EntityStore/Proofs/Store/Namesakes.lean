import EntityStore.Proofs.Store.Lookup
import EntityStore.Proofs.Store.Visited

/-!
# Documents of one id in several partitions

Documents in different partitions may have the same id (`MemoryContainer.namesakes`).  Without a
partition value a reading of the id comes to the first of them, and a reading of several ids to the
last: the first goes no further than the first document that it finds, and the second files every
document under its id, over the one that was there (`namesakes_read`).

So the two agree as long as there is one document at most, as there is in a container that is
partitioned on the id.  An entity that is itself partitioned on the id reads under the key of the
id, and has to have such a container.
-/

namespace EntityStore

namespace MemoryContainer

/-- **The documents with an id**, in whatever partition, the first to have been written first. -/
def namesakes (c : MemoryContainer) (id : String) : List Fields :=
  (c.documents.map Prod.snd).filter fun d => (idOf d).equal (.str id)

variable {c : MemoryContainer}

/-- **The last of the documents with an id** is what is found under it among those that are read by
their ids, if no partition value is given. -/
theorem Filed.get?_filing_namesakes (h : c.Filed) {ids : List String} {id : String} (hid : id ∈ ids)
    {field : String} {r : PageRequest}
    (hr : r.statement = Sql.idsStatement (ids.map .str) field r.partition)
    (hnull : r.partition.isNull = true) :
    (Document.filing (c.selected r) []).get? id = (c.namesakes id).getLast?.map .object := by
  have hne : ids.map Value.str ≠ [] := List.map_eq_nil_iff.not.2 (List.ne_nil_of_mem hid)
  -- No partition is left out.
  have hall : c.inPartition r.partition = c.documents.map Prod.snd := by
    rw [inPartition, hnull]
    exact congrArg _ (List.filter_eq_self.2 fun _ _ => rfl)
  -- What is selected under the id are its namesakes.
  have hnamesakes : (c.selected r).filter (fun d => (idOf d).text = id) = c.namesakes id := by
    rw [selected_ids c hne field hr, hall, List.filter_filter, namesakes]
    refine List.filter_congr fun d hd => ?_
    obtain ⟨p, hp, rfl⟩ := List.mem_map.1 hd
    rw [h.idOf_eq hp, DocumentMap.equal_str]
    show (decide (p.1.id = id) && (ids.map Value.str).any (Value.str p.1.id).equal) = (p.1.id == id)
    by_cases hpid : p.1.id = id
    · have hasked : (ids.map Value.str).any (Value.str p.1.id).equal = true := by
        rw [List.any_eq_true]
        refine ⟨.str id, List.mem_map_of_mem hid, ?_⟩
        rw [DocumentMap.equal_str, hpid, BEq.rfl]
      rw [hasked, hpid, decide_eq_true (Eq.refl id), BEq.rfl, Bool.and_self]
    · rw [decide_eq_false hpid, beq_false_of_ne hpid, Bool.false_and]
  rw [Document.get?_filing, hnamesakes]
  exact Option.or_none

/-- In a container that is partitioned on the id, the only document with an id is the one under its
key. -/
theorem Filed.namesakes_own (h : c.Filed) (hpath : c.partitionPath = [Document.idField])
    (id : String) : c.namesakes id = (c.documents.get? ⟨.str id, id⟩).toList :=
  h.filter_id (fun _ hp => h.partition_equal hpath hp) id

end MemoryContainer

open MemoryContainer in
/-- **Readings without a partition value**, from any session at rest over a database that stores have
led to, for an entity that is known, whatever its partition field is.

Of the documents that have an id in the container of the entity, the reading of the id is answered
with the first and the reading of several ids with the last, if the entity is not partitioned on the
id.  If it is, then the reading of the id is answered with the document under the key of the id.  The
two agree where there is one document at most, if the container of an entity that is partitioned on
the id is so too; and a container that is has one document with an id at most. -/
theorem namesakes_read {σ : Type} (b : Backend σ String) (memory : σ → Memory)
    (hb : b.InMemory memory) (hpatient : b.Patient memory) (hdurable : b.Durable memory)
    (s : Session σ String) (h : s.AtRest memory) (hvisited : b.Visited memory s.outside)
    (entity : String) (hentity : Text.isBlankText entity = false) (config : ContainerConfig)
    (hknown : (s.router.registry.lookup entity).1 = .ok config) (container : String)
    (hcontainer : s.containerOf entity = .ok container)
    (hnumerals : ((memory s.outside).container container).documents.length ≤ 10 ^ maxDigits)
    (id : String) (hid : Text.isBlankText id = false) (ids : List String) (hasked : id ∈ ids)
    (given : Value) (hgiven : given.elements? = some (ids.map .str)) :
    let c := (memory s.outside).container container
    let one := ((Call.read (some entity) (some id) .null).run b s).1
    let several := ((Call.readMap (some entity) .null given).run b s).1
    (config.partitionField ≠ Document.idField →
        one = .ok ((c.namesakes id).head?.elim .noDocument fun d => .document (.object d)))
      ∧ (config.partitionField = Document.idField → one = .ok (c.answer ⟨.str id, id⟩))
      ∧ (∃ found, several = .ok (.documents found) ∧ (∀ i, i ∉ ids → found.get? i = none)
        ∧ found.get? id = (c.namesakes id).getLast?.map .object)
      ∧ ((c.namesakes id).length ≤ 1 →
        (config.partitionField = Document.idField → c.partitionPath = [Document.idField]) →
          LookupsAgree ids id one several)
      ∧ (c.partitionPath = [Document.idField] → (c.namesakes id).length ≤ 1) := by
  intro c one several
  have hfiled : c.Filed := hvisited.filed hb hdurable container
  -- A search in all partitions ends with the first namesake.
  have hanywhere (hfield : config.partitionField ≠ Document.idField) :
      one = .ok ((c.namesakes id).head?.elim .noDocument fun d => .document (.object d)) := by
    have hread := h.run_read_anywhere hb hentity hcontainer hid hknown hpatient hfield hnumerals
    rw [selected_lookup] at hread
    exact hread
  have hown (hfield : config.partitionField = Document.idField) :
      one = .ok (c.answer ⟨.str id, id⟩) :=
    h.run_read_own hb hentity hcontainer hid hknown hfield
  obtain ⟨ds, hrequired, hsame⟩ := requireIds_texts hgiven
  have hmem : id ∈ ds := (hsame id).2 hasked
  have hids : ∀ p ∈ c.documents, (p.2.get? Document.idField).isSome := by
    intro p hp
    rw [hfiled.id p hp]
    rfl
  -- A map of all partitions is filled in order, and so keeps the last namesake.
  obtain ⟨found, hfound, hunasked, hlast⟩ : ∃ found, several = .ok (.documents found)
      ∧ (∀ i, i ∉ ids → found.get? i = none)
      ∧ found.get? id = (c.namesakes id).getLast?.map .object := by
    refine ⟨_, h.run_readMap hb hentity hcontainer hpatient hknown hids hnumerals hrequired
      (List.map_eq_nil_iff.not.2 (List.ne_nil_of_mem hmem)), ?_, ?_⟩
    · intro i hi
      exact hfiled.get?_filing_unasked (List.ne_nil_of_mem hmem) (fun h => hi ((hsame i).1 h)) rfl
    · exact hfiled.get?_filing_namesakes hmem rfl rfl
  refine ⟨hanywhere, hown, ⟨found, hfound, hunasked, hlast⟩, ?_, ?_⟩
  · -- One namesake at most is both the first and the last.
    intro hsingle hpath
    have hone : one
        = .ok ((c.namesakes id).head?.elim .noDocument fun d => .document (.object d)) := by
      by_cases hfield : config.partitionField = Document.idField
      · rw [hown hfield, answer, hfiled.namesakes_own (hpath hfield)]
        cases c.documents.get? ⟨.str id, id⟩ <;> rfl
      · exact hanywhere hfield
    refine ⟨found, hfound, hunasked, ?_⟩
    rw [hlast, hone]
    rcases hnamesakes : c.namesakes id with _ | ⟨d, _ | ⟨d', r⟩⟩
    · exact .inl ⟨rfl, rfl⟩
    · exact .inr ⟨d, rfl, rfl⟩
    · rw [hnamesakes] at hsingle
      simp only [List.length_cons] at hsingle
      omega
  · -- With the id as partition, namesakes would share their key.
    intro hpath
    rw [hfiled.namesakes_own hpath]
    cases c.documents.get? ⟨.str id, id⟩ <;> simp

namespace Namesakes

/-- The orders of tenants, and notes in the same container. -/
def registry : Registry := .ofList [⟨"order", "orders", "tenantId"⟩, ⟨"note", "orders", "id"⟩] false

/-- A page holds one document. -/
def outside : LocalState := { LocalState.unused with memory := { maxPageSize := some 1 } }

def create (entity id tenant : String) : Call :=
  .create (some entity) (some id) (.object [("tenantId", .str tenant)])

/-- Two tenants have an order of one id, and one of them has another order and a note. -/
def calls : List Call :=
  [create "order" "1" "a", create "order" "1" "b", create "order" "2" "b", create "note" "3" "b"]

def opened : Session LocalState String := ⟨{ registry := registry }, 50, outside⟩

def steps : List Crew.Step :=
  [.advance 0, .advance 0, .advance 1, .advance 2, .advance 3, .advance 3]

def used : Crew LocalState String :=
  (⟨opened, calls.map .starting⟩ : Crew LocalState String).follow LocalState.backend steps

/-- A store that has just been opened over what the calls have left. -/
def reading : Session LocalState String := ⟨{ registry := registry }, 50, used.session.outside⟩

theorem reading_visited : LocalState.backend.Visited LocalState.memory reading.outside := by
  have hfresh : LocalState.backend.Visited LocalState.memory opened.outside := .fresh rfl
  dsimp only [reading, used]
  exact hfresh.used calls steps

theorem reading_atRest : reading.AtRest LocalState.memory := by
  have hscript : reading.outside.memory.script.isNone = true := by decide +kernel
  have hpages : reading.outside.memory.maxPageSize = some 1 := by decide +kernel
  refine (Session.InOrder.of_opened ⟨by decide +kernel, Option.isNone_iff_eq_none.1 hscript, ?_⟩ rfl
    rfl).atRest
  intro n hn
  obtain rfl : 1 = n := Option.some.inj (hpages.symm.trans hn)
  exact Int.le_refl 1

/-- The tenant of a document. -/
def tenantOf (v : Value) : Option String :=
  (v.fields?.bind (Entries.get? · "tenantId")).map Value.text

/-- The tenant of the document that a reading of an id is answered with. -/
def tenantOfOne : Except Failure (Answer String) → Option String
  | .ok (.document v) => tenantOf v
  | _ => none

/-- The tenant of the document under an id among several. -/
def tenantAmong (id : String) : Except Failure (Answer String) → Option String
  | .ok (.documents found) => (found.get? id).bind tenantOf
  | _ => none

theorem tenants_agree {ids : List String} {id : String} {one several : Except Failure (Answer String)}
    (h : LookupsAgree ids id one several) : tenantOfOne one = tenantAmong id several := by
  obtain ⟨found, rfl, -, ⟨hget, rfl⟩ | ⟨d, hget, rfl⟩⟩ := h
  · rw [tenantAmong, hget]
    rfl
  · rw [tenantAmong, hget]
    rfl

end Namesakes

open Namesakes in
/-- The only order of its id is found either way, and of the two that have one id each way finds
another. -/
theorem namesakes_read_orders :
    let read id := ((Call.read (some "order") (some id) .null).run LocalState.backend reading).1
    let readMap id := ((Call.readMap (some "order") .null (.list [.str id])).run LocalState.backend
      reading).1
    let c := reading.outside.memory.container "orders"
    LookupsAgree ["2"] "2" (read "2") (readMap "2")
      ∧ read "1" = .ok ((c.namesakes "1").head?.elim .noDocument fun d => .document (.object d))
      ∧ ∃ found, readMap "1" = .ok (.documents found)
        ∧ found.get? "1" = (c.namesakes "1").getLast?.map .object := by
  intro read readMap c
  have hlength : c.documents.length = 4 := by decide +kernel
  have hnumerals : c.documents.length ≤ 10 ^ maxDigits :=
    hlength.le.trans ((show 4 ≤ 10 ^ 1 by decide).trans
      (Nat.pow_le_pow_right (by decide) (by decide)))
  have hreads (id : String) (hid : Text.isBlankText id = false) :=
    namesakes_read LocalState.backend LocalState.memory LocalState.backend_inMemory
      LocalState.backend_patient LocalState.backend_durable reading reading_atRest reading_visited
      "order" (by decide) ⟨"order", "orders", "tenantId"⟩ rfl "orders" rfl hnumerals id hid [id]
      List.mem_cons_self (.list [.str id]) rfl
  obtain ⟨-, -, -, hagree, -⟩ := hreads "2" (by decide)
  obtain ⟨hfirst, -, ⟨found, hfound, -, hlast⟩, -, -⟩ := hreads "1" (by decide)
  exact ⟨hagree (by decide +kernel) (fun hfield => absurd hfield (by decide)),
    hfirst (by decide), found, hfound, hlast⟩

open Namesakes in
/-- **The two ways do not always agree**: of two orders with one id the reading of the id finds the
one of the first tenant, and the reading of several ids the other.  And a note in the container of
orders is not found by its id alone, since notes are partitioned on the id and the container is not,
but it is found among several. -/
theorem namesakes_disagree :
    let read entity id :=
      ((Call.read (some entity) (some id) .null).run LocalState.backend reading).1
    let readMap entity id := ((Call.readMap (some entity) .null (.list [.str id])).run
      LocalState.backend reading).1
    ¬ LookupsAgree ["1"] "1" (read "order" "1") (readMap "order" "1")
      ∧ ¬ LookupsAgree ["3"] "3" (read "note" "3") (readMap "note" "3") := by
  intro read readMap
  have hfirst : tenantOfOne (read "order" "1") = some "a" := by decide +kernel
  have hlast : tenantAmong "1" (readMap "order" "1") = some "b" := by decide +kernel
  have hnone : tenantOfOne (read "note" "3") = none := by decide +kernel
  have hfound : tenantAmong "3" (readMap "note" "3") = some "b" := by decide +kernel
  constructor
  · intro hagree
    exact absurd (hfirst.symm.trans ((tenants_agree hagree).trans hlast)) (by decide)
  · intro hagree
    exact absurd (hnone.symm.trans ((tenants_agree hagree).trans hfound)) (by decide)

end EntityStore
