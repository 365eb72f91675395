import EntityStore.Proofs.Store.InOrder
import EntityStore.Proofs.Store.Selection

/-!
# Reading documents from a session at rest

A document is read under its key (`AtRest.run_read_key`), or by its id alone: where the entity is
partitioned on the id, under the key of the id (`AtRest.run_read_own`), and elsewhere as the first
one with the id that is found (`AtRest.run_read_anywhere`).  Documents that are read by their ids,
from all pages of a request, are filed under their ids (`AtRest.run_readMap`), and the last one under
an id stays (`Document.get?_filing`).

All are read in the container that the entity is served from, whose handle may have been kept since
before the entity was given its present configuration.
-/

namespace EntityStore

/-! ### Documents under their ids -/

/-- The documents of a list under their ids, added to those already found. -/
def Document.filing (documents : List Fields) (found : Entries String Value) :
    Entries String Value :=
  documents.foldl (fun found d => found.put (MemoryContainer.idOf d).text (.object d)) found

open MemoryContainer

theorem absorbDocuments_objects {documents : List Fields}
    (hids : ∀ d ∈ documents, (d.get? Document.idField).isSome) (found : Entries String Value) :
    absorbDocuments found (documents.map .object)
      = .ok (.goOn (Document.filing documents found)) := by
  induction documents generalizing found with
  | nil => rfl
  | cons d r ih =>
    obtain ⟨hd, hr⟩ := List.forall_mem_cons.1 hids
    obtain ⟨id, hid⟩ := Option.isSome_iff_exists.1 hd
    have hitem : itemId (.object d) = .ok (idOf d).text := by
      rw [itemId, idOf, hid]
      rfl
    rw [List.map_cons, absorbDocuments, hitem]
    exact ih hr _

/-- Documents may be filed page by page. -/
theorem absorbDocuments_sequential : Sequential absorbDocuments := by
  intro found items more
  induction items generalizing found with
  | nil => rfl
  | cons v r ih =>
    rw [List.cons_append, absorbDocuments, absorbDocuments]
    cases itemId v with
    | error e => rfl
    | ok id => exact ih _

/-- A search may go page by page. -/
theorem absorbFirst_sequential : Sequential absorbFirst := by
  intro soFar items more
  cases items with
  | nil => cases more <;> rfl
  | cons v r => rfl

/-- **The last document under an id stays**, or what was found under it before. -/
theorem Document.get?_filing (documents : List Fields) (found : Entries String Value)
    (id : String) :
    (filing documents found).get? id
      = ((documents.filter fun d => (idOf d).text = id).getLast?.map .object).or
        (found.get? id) := by
  induction documents generalizing found with
  | nil => rfl
  | cons d r ih =>
    have hfiling : filing (d :: r) found
        = filing r (found.put (idOf d).text (.object d)) := rfl
    rw [hfiling, ih]
    by_cases hid : (idOf d).text = id
    · rw [List.filter_cons_of_pos (by simpa using hid), List.getLast?_cons, hid,
        Entries.get?_put_self]
      cases (r.filter fun d => (idOf d).text = id).getLast? <;> rfl
    · rw [List.filter_cons_of_neg (by simpa using hid), Entries.get?_put_of_ne _ _ hid]

namespace MemoryContainer

variable {c : MemoryContainer}

/-- The answer to a reading of the document under a key. -/
def answer (c : MemoryContainer) (k : DocumentKey) : Answer String :=
  (c.documents.get? k).elim .noDocument fun d => .document (.object d)

theorem answer_congr {c' : MemoryContainer} (h : c.documents = c'.documents) (k : DocumentKey) :
    c.answer k = c'.answer k := by
  rw [answer, answer, h]

end MemoryContainer

/-! ### Readings by id -/

/-- **The different ones among texts** are the texts, each once. -/
theorem distinct_texts (ids : List String) :
    ∃ ds : List String, distinct (ids.map .str) = .ok (ds.map .str) ∧ ∀ i, i ∈ ds ↔ i ∈ ids := by
  induction ids with
  | nil => exact ⟨[], rfl, fun _ => Iff.rfl⟩
  | cons i r ih =>
    obtain ⟨ds, hds, hmem⟩ := ih
    obtain ⟨digest, hdigest⟩ := Value.hashable_str i
    have hothers : (ds.map Value.str).filter (fun w => !(Value.str i).equal w)
        = (ds.filter fun j => !i == j).map .str := by
      rw [List.filter_map]
      congr 1
      refine List.filter_congr fun j _ => ?_
      rw [Function.comp_apply, DocumentMap.equal_str]
    refine ⟨i :: ds.filter fun j => !i == j, ?_, ?_⟩
    · rw [List.map_cons, distinct, hdigest, hds]
      show Except.ok (Value.str i :: _) = _
      rw [hothers, List.map_cons]
    · intro j
      rw [List.mem_cons, List.mem_cons, List.mem_filter, hmem]
      by_cases hj : j = i
      · simp [hj]
      · simp [hj, Ne.symm hj]

/-- The different ids among texts that are asked for. -/
theorem requireIds_texts {given : Value} {ids : List String}
    (h : given.elements? = some (ids.map .str)) :
    ∃ ds : List String, requireIds given = .ok (ds.map .str) ∧ ∀ i, i ∈ ds ↔ i ∈ ids := by
  obtain ⟨ds, hds, hsame⟩ := distinct_texts ids
  refine ⟨ds, ?_, hsame⟩
  have hnull : given.isNull = false := by
    rw [Bool.eq_false_iff]
    intro hnull
    rw [Value.eq_null_of_isNull hnull] at h
    cases h
  rw [requireIds, hnull, if_neg Bool.false_ne_true, h]
  exact hds

section

variable {σ : Type} {b : Backend σ String} {memory : σ → Memory} {s : Session σ String}
  {entity container : String} {config : ContainerConfig}

open Session MemoryContainer

/-- **A reading under a key** is answered with the document there. -/
theorem readItem_eq (hb : b.InMemory memory) (container id : String) {partition : Value}
    (hpartition : partition.Hashable) :
    (readItem b container id partition s).1
      = .ok (((memory s.outside).container container).answer ⟨partition, id⟩) := by
  rw [readItem, Run.tryCatch_eq, Run.bind_pure_eq, Session.consult_eq, hb.read_fst,
    read?_eq hpartition, answer]
  cases ((memory s.outside).container container).documents.get? ⟨partition, id⟩ <;> rfl

namespace Session.AtRest

variable (hb : b.InMemory memory) (h : s.AtRest memory)
  (hentity : Text.isBlankText entity = false)
  (hcontainer : s.containerOf entity = .ok container)

include hb h hentity hcontainer

/-- **Documents that are read by their ids** are those that the request is about, each under its
id. -/
theorem run_readMap (hpatient : b.Patient memory)
    (hknown : (s.router.registry.lookup entity).1 = .ok config)
    (hids : ∀ p ∈ ((memory s.outside).container container).documents,
      (p.2.get? Document.idField).isSome)
    (hnumerals : ((memory s.outside).container container).documents.length ≤ 10 ^ maxDigits)
    {given partition : Value} {ids : List Value} (hrequired : requireIds given = .ok ids)
    (hne : ids ≠ []) :
    ((Call.readMap (some entity) partition given).run b s).1
      = .ok (.documents (Document.filing (((memory s.outside).container container).selected
          { statement := Sql.idsStatement ids config.partitionField partition, size := ids.length
            partition := partition }) [])) := by
  let request : PageRequest :=
    { statement := Sql.idsStatement ids config.partitionField partition, size := ids.length
      partition := partition }
  -- Looking the configuration up may register the entity.
  have happroached := configOf_approached (b := b) entity s
  obtain ⟨s₁, hconfig⟩ : ∃ s₁, configOf entity s = (.ok config, s₁) := ⟨_, configOf_eq hknown⟩
  rw [hconfig] at happroached
  have hprepare : (Call.readMap (some entity) partition given).prepare b s
      = (.ok (.ready entity (.readMap request)), s₁) := by
    refine (Run.lift_bind_eq (require_ok hentity) _ s).trans ?_
    refine (Run.lift_bind_eq hrequired _ s).trans ?_
    rw [List.isEmpty_eq_false_iff.2 hne, if_neg Bool.false_ne_true, Run.bind_eq, hconfig]
    rfl
  obtain ⟨s₂, hresolve, hs₂, hresolved, -⟩ := (h.approached hb happroached).resolve hb
    ((happroached.containerOf_eq entity).trans hcontainer)
  -- Neither looking up nor provisioning changes a document.
  have hbrowsed : s.Browsed memory s₂ := IsTrans.trans _ _ _ (happroached.browsed hb) hresolved
  have hcounts : counts request.statement = false := counts_idsStatement ..
  have hsize : 1 ≤ request.size := Int.ofNat_le.2 (List.length_pos_iff.2 hne)
  obtain ⟨s', hdrain⟩ := drain_all hb hpatient hbrowsed hs₂ hnumerals absorbDocuments_sequential
    hcounts rfl hsize []
  -- What is selected has ids, so that every item is filed.
  have hobjects : ∀ d ∈ ((memory s.outside).container container).selected request,
      (d.get? Document.idField).isSome := by
    intro d hd
    obtain ⟨p, hp, rfl⟩ := List.mem_map.1 ((selected_sublist _ _).subset hd)
    exact hids p hp
  rw [absorbDocuments_objects hobjects] at hdrain
  rw [Call.run_of_ready hprepare hresolve]
  show ((drain b container absorbDocuments (b.patience s₂.outside) request []
    >>= fun found => pure (Answer.documents found)) s₂).1 = _
  rw [Run.bind_pure_eq, hdrain]
  rfl

variable {id : String} (hid : Text.isBlankText id = false)

include hid

/-- **A document is read** under its partition value and its id. -/
theorem run_read_key {partition : Value} (hpartition : partition.Hashable)
    (hgiven : partition.isNull = false) :
    ((Call.read (some entity) (some id) partition).run b s).1
      = .ok (((memory s.outside).container container).answer ⟨partition, id⟩) := by
  obtain ⟨s₁, hresolve, -, hbrowsed, -⟩ := h.resolve hb hcontainer
  rw [Call.run_of_ready (Call.prepare_read_eq hentity hid partition) hresolve, Work.perform, hgiven,
    if_neg Bool.false_ne_true, readItem_eq hb _ id hpartition,
    answer_congr (hbrowsed.documents container)]

variable (hknown : (s.router.registry.lookup entity).1 = .ok config)

include hknown

/-- What a reading without a partition value comes to. -/
theorem run_read_null :
    ∃ s', s'.AtRest memory ∧ s.Browsed memory s'
      ∧ (Call.read (some entity) (some id) .null).run b s
        = if config.partitionField = Document.idField then readItem b container id (.str id) s'
          else findItem b container id s' := by
  obtain ⟨s₁, hresolve, hs₁, hbrowsed, -⟩ := h.resolve hb hcontainer
  have happroached := configOf_approached (b := b) entity s₁
  have hconfig := configOf_eq ((hbrowsed.registry entity).trans hknown)
  refine ⟨(configOf entity s₁).2, hs₁.approached hb happroached,
    IsTrans.trans _ _ _ hbrowsed (happroached.browsed hb), ?_⟩
  rw [Call.run_of_ready (Call.prepare_read_eq hentity hid .null) hresolve]
  show (configOf entity >>= fun config =>
    if config.partitionField = Document.idField then readItem b _ id (.str id)
    else findItem b _ id) s₁ = _
  rw [Run.bind_eq, hconfig]
  dsimp only
  split <;> rfl

/-- **Where the id is the partition value** it need not be given. -/
theorem run_read_own (hfield : config.partitionField = Document.idField) :
    ((Call.read (some entity) (some id) .null).run b s).1
      = .ok (((memory s.outside).container container).answer ⟨.str id, id⟩) := by
  obtain ⟨s', -, hbrowsed, hrun⟩ := run_read_null hb h hentity hcontainer hid hknown
  rw [hrun, if_pos hfield, readItem_eq hb _ id (Value.hashable_str id),
    answer_congr (hbrowsed.documents container)]

/-- **Elsewhere the first document with the id is found**, in whatever partition. -/
theorem run_read_anywhere (hpatient : b.Patient memory)
    (hfield : config.partitionField ≠ Document.idField)
    (hnumerals : ((memory s.outside).container container).documents.length ≤ 10 ^ maxDigits) :
    ((Call.read (some entity) (some id) .null).run b s).1
      = .ok ((((memory s.outside).container container).selected
          (lookupRequest id)).head?.elim .noDocument fun d => .document (.object d)) := by
  obtain ⟨s', hs', hbrowsed, hrun⟩ := run_read_null hb h hentity hcontainer hid hknown
  obtain ⟨s'', hdrain⟩ := drain_all hb hpatient hbrowsed hs' hnumerals absorbFirst_sequential
    (counts_lookup id) rfl (Int.le_refl 1) none
  rw [hrun, if_neg hfield, findItem, Run.get_bind_eq, Run.bind_eq, hdrain]
  cases ((memory s.outside).container container).selected (lookupRequest id) <;> rfl

end Session.AtRest

end

end EntityStore
