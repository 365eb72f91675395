import EntityStore.Proofs.Sql.Placeholder
import EntityStore.Proofs.Store.Page

/-!
# What statements select in memory

Of the conditions of a statement the database in memory applies a list of ids and the equality of
the id with the first parameter.  It finds the first by the names of the parameters and the second
by how the text ends.

A statement that selects the documents of a query without sort keys and the one that counts them end
alike, from the name of the document on.  So they are about the same documents
(`selected_select_count`), whatever is asked of them.  The statement that selects documents by their
ids and the one that looks an id up are about the documents with these ids (`selected_ids`,
`selected_lookup`).
-/

namespace EntityStore

open Sql

namespace MemoryContainer

/-! ### Names of parameters -/

/-- The name of a bound value is none of those of ids. -/
theorem placeholder_ne_idPlaceholder (m n : Nat) : placeholder m ≠ idPlaceholder n := by
  intro h
  have hchars := congrArg (fun s : String => s.toList[1]?) h
  simp only [placeholder, idPlaceholder, String.toList_append] at hchars
  have hsecond : some 'p' = some 'i' := hchars
  exact absurd hsecond (by decide)

/-- The parameters of a filter give no list of ids. -/
theorem idsOf?_numbered (n : Nat) (values : List Value) : idsOf? (numbered n values) = none := by
  have hnone : (numbered n values).any (·.name == idPlaceholder 0) = false := by
    rw [List.any_eq_false]
    intro p hp
    obtain ⟨⟨v, i⟩, -, rfl⟩ := List.mem_map.1 hp
    rw [beq_iff_eq]
    exact placeholder_ne_idPlaceholder _ _
  rw [idsOf?, hnone, if_neg Bool.false_ne_true]

/-! ### Statements of a query -/

/-- Whether a text ends in another one is seen from any end of it that holds a character which the
other does not. -/
theorem suffix_append_iff {α : Type} {p a t : List α} {x : α} (hx : x ∈ t) (hp : x ∉ p) :
    p <:+ a ++ t ↔ p <:+ t := by
  constructor
  · intro h
    rcases List.suffix_or_suffix_of_suffix h (List.suffix_append a t) with h | h
    · exact h
    · exact absurd (h.subset hx) hp
  · exact fun h => h.trans (List.suffix_append a t)

/-- **How a text ends** does not depend on what is selected. -/
theorem asksForId_from (selected clauses : String) (parameters : List Parameter) :
    asksForId ⟨selected ++ (" FROM " ++ clauses), parameters⟩
      = asksForId ⟨" FROM " ++ clauses, parameters⟩ := by
  rw [Bool.eq_iff_iff, asksForId, asksForId, List.isSuffixOf_iff_suffix,
    List.isSuffixOf_iff_suffix]
  dsimp only
  rw [String.toList_append]
  refine suffix_append_iff (x := 'F') ?_ (by decide)
  rw [String.toList_append]
  exact List.mem_append_left _ (by decide)

/-- What is selected does not begin as a count does. -/
theorem head_selection (fields : Option (List String)) :
    ∃ c r, (selection fields).toList = c :: r ∧ c ≠ 'V' := by
  rcases fields with _ | _ | ⟨field, fields⟩
  · exact ⟨'*', [], rfl, by decide⟩
  · exact ⟨'*', [], rfl, by decide⟩
  · obtain ⟨r, hr⟩ : ∃ r, (reference documentAlias field).toList = 'c' :: r := by
      rw [reference, String.toList_append]
      exact ⟨_, rfl⟩
    rw [selection, String.toList_intercalate, List.map_cons, List.map_cons, hr]
    cases fields with
    | nil => exact ⟨'c', r, by rw [List.map_nil, List.map_nil, List.intercalate_singleton],
        by decide⟩
    | cons field' fields =>
      rw [List.map_cons, List.map_cons, List.intercalate_cons_cons]
      exact ⟨'c', _, rfl, by decide⟩
    · rintro ⟨⟩

theorem counts_select (fields : Option (List String)) (rest : String)
    (parameters : List Parameter) :
    counts ⟨"SELECT " ++ (selection fields ++ rest), parameters⟩ = false := by
  obtain ⟨c, r, hselection, hc⟩ := head_selection fields
  rw [counts, Bool.eq_false_iff, ne_eq, List.isPrefixOf_iff_prefix]
  rintro ⟨more, hmore⟩
  dsimp only at hmore
  rw [String.toList_append, String.toList_append, hselection] at hmore
  -- The two texts differ in the first character behind the keyword.
  have hfirst : some 'V' = some c := congrArg (fun l : List Char => l[7]?) hmore
  exact hc (Option.some.inj hfirst).symm

theorem counts_count (rest : String) (parameters : List Parameter) :
    counts ⟨"SELECT VALUE COUNT(1)" ++ rest, parameters⟩ = true := by
  rw [counts, List.isPrefixOf_iff_prefix]
  dsimp only
  rw [String.toList_append]
  exact List.prefix_append _ _

/-- The statement of a query does not count, and the one of a count does. -/
theorem counts_of_selectStatement {q : Query} {t : Statement} (h : selectStatement q = .ok t) :
    counts t = false := by
  rw [selectStatement] at h
  cases hw : whereText q.filter with
  | error e =>
    rw [hw] at h
    cases h
  | ok w =>
    rw [hw] at h
    cases h
    simp only [String.append_assoc]
    exact counts_select _ _ _

theorem counts_of_countStatement {q : Query} {t : Statement} (h : countStatement q = .ok t) :
    counts t = true := by
  have htext : "SELECT VALUE COUNT(1) FROM " = "SELECT VALUE COUNT(1)" ++ " FROM " := rfl
  rw [countStatement] at h
  cases hw : whereText q.filter with
  | error e =>
    rw [hw] at h
    cases h
  | ok w =>
    rw [hw] at h
    cases h
    rw [htext, String.append_assoc, String.append_assoc]
    exact counts_count _ _

/-- **The statements that select and count the documents of a query** are about the same documents,
if it has no sort keys. -/
theorem selected_select_count {q : Query} (hsort : q.sort = [])
    (hfilter : ∀ s, q.filter = .scalar s → s = .null) :
    ∃ s t, selectStatement q = .ok s ∧ countStatement q = .ok t ∧ counts s = false
      ∧ counts t = true
      ∧ ∀ (c : MemoryContainer) (r r' : PageRequest), r.statement = s → r'.statement = t →
        r.partition = r'.partition → c.selected r = c.selected r' := by
  obtain ⟨w, hw⟩ := exists_whereText hfilter
  have hselect : selectStatement q = .ok ⟨"SELECT " ++ (selection q.fields
      ++ (" FROM " ++ (documentAlias ++ optionalClause "WHERE" w.text))), w.parameters⟩ := by
    have hunsorted : optionalClause "ORDER BY" (sortText documentAlias []) = "" := rfl
    rw [selectStatement, hw, hsort, hunsorted]
    simp only [String.append_assoc, String.append_empty]
    rfl
  have hcount : countStatement q = .ok ⟨"SELECT VALUE COUNT(1)"
      ++ (" FROM " ++ (documentAlias ++ optionalClause "WHERE" w.text)), w.parameters⟩ := by
    have htext : "SELECT VALUE COUNT(1) FROM " = "SELECT VALUE COUNT(1)" ++ " FROM " := rfl
    rw [countStatement, hw, htext]
    simp only [String.append_assoc]
    rfl
  refine ⟨_, _, hselect, hcount, counts_select .., counts_count .., ?_⟩
  intro c r r' hr hr' hpartition
  -- The two texts end alike, and that is what the database looks at.
  have hends : asksForId r.statement = asksForId r'.statement := by
    rw [hr, hr', ← String.append_assoc, asksForId_from, asksForId_from _ _ w.parameters]
  rw [selected, selected, hends, hpartition, hr, hr']

/-! ### Statements about ids -/

/-- The ids that a statement asks for by their list. -/
theorem idsOf?_idsStatement {ids : List Value} (hids : ids ≠ []) (field : String)
    (partition : Value) :
    idsOf? (idsStatement ids field partition).parameters = some ids := by
  have hany : (idsStatement ids field partition).parameters.any (·.name == idPlaceholder 0)
      = true := by
    obtain ⟨v, r, rfl⟩ := List.exists_cons_of_ne_nil hids
    rw [parameters_idsStatement, List.any_append, List.zipIdx_cons, List.map_cons, List.any_cons,
      BEq.rfl, Bool.true_or, Bool.or_true]
  have hid (n : Nat) : "@id".toList.isPrefixOf (idPlaceholder n).toList = true := by
    rw [List.isPrefixOf_iff_prefix, idPlaceholder, String.toList_append]
    exact List.prefix_append _ _
  -- The parameters of the ids are kept, in their order.
  have hkept {f : Value × Nat → Parameter} (hf : ∀ q, (f q).name = idPlaceholder q.2) :
      (ids.zipIdx.map f).filter (fun p => "@id".toList.isPrefixOf p.name.toList)
        = ids.zipIdx.map f := by
    rw [List.filter_eq_self]
    intro p hp
    obtain ⟨q, -, rfl⟩ := List.mem_map.1 hp
    rw [hf]
    exact hid q.2
  -- The one of the partition is not.
  have hdropped : (if partition.isNull then []
      else [(⟨partitionPlaceholder, partition⟩ : Parameter)]).filter
      (fun p => "@id".toList.isPrefixOf p.name.toList) = [] := by
    have hname : "@id".toList.isPrefixOf partitionPlaceholder.toList = false := by decide
    split
    · rfl
    · rw [List.filter_cons_of_neg (by rw [hname]; exact Bool.false_ne_true), List.filter_nil]
  rw [idsOf?, hany, if_pos rfl, parameters_idsStatement, List.filter_append, hkept fun _ => rfl,
    hdropped, List.nil_append, List.map_map]
  congr 1
  exact List.zipIdx_map_fst 0 ids

theorem counts_idsStatement (ids : List Value) (field : String) (partition : Value) :
    counts (idsStatement ids field partition) = false := by
  rw [counts]
  dsimp only [idsStatement]
  rw [String.append_assoc, Bool.eq_false_iff, ne_eq, List.isPrefixOf_iff_prefix]
  rintro ⟨more, hmore⟩
  rw [String.toList_append] at hmore
  have hfirst : some 'V' = some '*' := congrArg (fun l : List Char => l[7]?) hmore
  exact absurd hfirst (by decide)

/-- The documents of a partition, or all of them when there is no partition value. -/
def inPartition (c : MemoryContainer) (partition : Value) : List Fields :=
  (c.documents.filter fun (k, _) => partition.isNull || k.partition.equal partition).map Prod.snd

/-- **The documents that are selected by their ids** are those of the partition with one of them. -/
theorem selected_ids (c : MemoryContainer) {ids : List Value} (hids : ids ≠ []) (field : String)
    {r : PageRequest} (hr : r.statement = idsStatement ids field r.partition) :
    c.selected r = (c.inPartition r.partition).filter fun d => ids.any (idOf d).equal := by
  rw [selected, hr, idsOf?_idsStatement hids]
  rfl

/-- **The documents that are looked up** are those with the id, in whatever partition. -/
theorem selected_lookup (c : MemoryContainer) (id : String) :
    c.selected (lookupRequest id)
      = (c.documents.map Prod.snd).filter fun d => (idOf d).equal (.str id) := by
  have htext : (lookupRequest id).statement.text = "SELECT * FROM c WHERE c.id = @p0" := rfl
  have hparameters : (lookupRequest id).statement.parameters = numbered 0 [.str id] := rfl
  have hasks : asksForId (lookupRequest id).statement = true := by
    rw [asksForId, htext]
    decide
  have hfind : (numbered 0 [.str id]).find? (·.name == placeholder 0)
      = some ⟨placeholder 0, .str id⟩ := rfl
  have hall : c.documents.filter (fun p => (lookupRequest id).partition.isNull
      || p.1.partition.equal (lookupRequest id).partition) = c.documents :=
    List.filter_eq_self.2 fun _ _ => rfl
  rw [selected]
  dsimp only
  rw [hparameters, idsOf?_numbered, hasks, hfind]
  show (List.map _ (c.documents.filter _)).filter _ = _
  rw [hall]

theorem counts_lookup (id : String) : counts (lookupRequest id).statement = false := by
  have htext : (lookupRequest id).statement.text = "SELECT * FROM c WHERE c.id = @p0" := rfl
  rw [counts, htext]
  decide

end MemoryContainer

end EntityStore
