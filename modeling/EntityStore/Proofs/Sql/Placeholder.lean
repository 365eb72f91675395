import EntityStore.Proofs.Sql.Statement
import Mathlib.Data.List.Nodup

/-!
# Placeholders and parameters

The placeholders of a statement are those among its tokens: what a quoted name holds is none.
`Statement.Binds s names values` says that they are the given names, in order and each once, and
that the parameters bind these names to the given values in the same order.

The statements that are made of a filter bind `@p0`, `@p1`, and so on, to the operands of the pruned
filter, and the statement that selects documents by their ids binds `@pKey`, if there is a
partition, and `@id0`, `@id1`, and so on (`binds_statements`).
-/

namespace EntityStore

open Sql Token

/-- **A statement binds names to values**, in the order in which the names stand in its text, where
each of them stands once. -/
structure Statement.Binds (s : Statement) (names : List String) (values : List Value) : Prop where
  parameters : s.parameters = List.zipWith Parameter.mk names values
  length : names.length = values.length
  placeholders : (Token.lex s.text.toList).map Token.placeholders = some names
  once : names.Nodup

/-- The names of the placeholders of `n` bound values. -/
def Sql.boundNames (n : Nat) : List String := (List.range n).map placeholder

/-- **The operands of what survives of a filter**, from left to right. -/
def Filter.survivors (f : Filter) : List Value := operandsOfEach f.prune.toList

/-- The operands of what survives of the filter of a query, if it has one. -/
def Query.survivors (q : Query) : List Value :=
  if q.filter.isNull then []
  else
    match Filter.ofWire q.filter with
    | .ok f => f.survivors
    | .error _ => []

namespace Sql

/-! ### Names that differ -/

/-- A prefix and a number make different names of different numbers. -/
theorem numbered_injective (p : String) : Function.Injective fun n : Nat => p ++ toString n := by
  intro m n h
  have hdigits : Nat.toDigits 10 m = Nat.toDigits 10 n := by
    have hlists := congrArg String.toList h
    rw [String.toList_append, String.toList_append, List.append_cancel_left_eq,
      Nat.toString_eq_ofList_toDigits, Nat.toString_eq_ofList_toDigits, String.toList_ofList,
      String.toList_ofList] at hlists
    exact hlists
  have hm : Nat.ofDigitChars 10 (Nat.toDigits 10 m) 0 = m :=
    Nat.ofDigitChars_toDigits (by decide) (by decide)
  rw [← hm, hdigits]
  exact Nat.ofDigitChars_toDigits (by decide) (by decide)

theorem nodup_boundNames (n : Nat) : (boundNames n).Nodup :=
  List.Nodup.map (numbered_injective "@p") List.nodup_range

/-- The name of a partition value is none of those of ids. -/
theorem partitionPlaceholder_ne (n : Nat) : partitionPlaceholder ≠ idPlaceholder n := by
  intro h
  have hchars := congrArg (fun s : String => s.toList[1]?) h
  simp only [idPlaceholder, String.toList_append] at hchars
  have hsecond : some 'p' = some 'i' := hchars
  exact absurd hsecond (by decide)

/-! ### Statements of a filter -/

/-- The tokens of a statement that counts documents. -/
theorem piece_count {conditions : String} {tokens : List Token}
    (hconditions : Piece conditions.toList tokens) (hstarts : Piece.Starts conditions.toList) :
    Piece ("SELECT VALUE COUNT(1) FROM " ++ documentAlias ++ conditions).toList
      (.word "SELECT" :: .word "VALUE" :: .word "COUNT" :: .opening :: .number "1" :: .closing
        :: .word "FROM" :: .word documentAlias :: tokens) := by
  have halias : Piece documentAlias.toList [.word documentAlias] :=
    Piece.word documentAlias (by decide)
  have hfrom := Piece.keyword "FROM" (by decide)
    (halias.append hconditions hstarts)
  have hnumber : Piece "(1)".toList [.opening, .number "1", .closing] :=
    Piece.enclosed (Piece.number (c := '1') (w := []) (List.all_eq_true.1 (by decide)))
  have hcount := (Piece.word "COUNT" (by decide)).append
    (hnumber.append hfrom (.cons rfl _)) (.cons rfl _)
  have hselect := (Piece.word "SELECT" (by decide)).append
    (Piece.keyword "VALUE" (by decide) hcount) (.cons rfl _)
  simp only [String.toList_append, List.append_assoc]
  exact hselect

/-- The parameters of a list of values. -/
theorem zipWith_names (name : Nat → String) (values : List Value) :
    List.zipWith Parameter.mk ((List.range values.length).map name) values
      = values.zipIdx.map fun (v, i) => ⟨name i, v⟩ := by
  refine List.ext_getElem (by simp) ?_
  intro i _ _
  simp

/-- A statement binds the operands of what survives of a filter when its tokens hold the
placeholders of what is left of it. -/
theorem binds_survivors {f : Filter} (hf : f.Boolean) {text : String} {ts : List Token}
    (hpiece : Piece text.toList ts)
    (hts : placeholders ts = Formula.placeholdersOfParts (f.surviving? 0).toList) :
    Statement.Binds ⟨text, (filterFrom documentAlias 0 f).parameters⟩
      (boundNames f.survivors.length) f.survivors where
  parameters := by
    rw [filterFrom, Filter.values_condition, Filter.survivors, Filter.operands_prune hf,
      boundNames, zipWith_names]
    simp only [numbered, Nat.zero_add]
  length := by rw [boundNames, List.length_map, List.length_range]
  placeholders := by
    rw [hpiece.lex_eq, Option.map_some, hts, Filter.placeholders_surviving? hf, boundNames,
      Filter.survivors, Filter.operands_prune hf, List.range_eq_range']
  once := nodup_boundNames _

/-- A statement of a query binds the operands of what survives of its filter. -/
theorem binds_query {q : Query} (hq : ∀ f, q.filter = .filter f → f.Boolean) {w : Statement}
    (hw : whereText q.filter = .ok w) {text : String} {ts : List Token}
    (hpiece : Piece text.toList ts)
    (hts : placeholders ts = Formula.placeholdersOfParts (conditionOf q.filter).toList) :
    Statement.Binds ⟨text, w.parameters⟩ (boundNames q.survivors.length) q.survivors := by
  rw [whereText] at hw
  rw [conditionOf] at hts
  rw [Query.survivors]
  split_ifs at hw hts ⊢ with hnull
  · cases hw
    refine ⟨rfl, rfl, ?_, List.nodup_nil⟩
    rw [hpiece.lex_eq, Option.map_some, hts]
    rfl
  · cases hf : Filter.ofWire q.filter with
    | error e =>
      rw [hf] at hw
      contradiction
    | ok f =>
      rw [hf] at hw hts
      cases hw
      exact binds_survivors (Filter.boolean_ofWire hf hq) hpiece hts

/-- The placeholders of the statement that selects the documents of a query. -/
theorem placeholders_select {q : Query} {w : Statement} (hw : whereText q.filter = .ok w) :
    ∃ ts, Piece ("SELECT " ++ selection q.fields ++ " FROM " ++ documentAlias
        ++ optionalClause "WHERE" w.text
        ++ optionalClause "ORDER BY" (sortText documentAlias q.sort)).toList ts
      ∧ placeholders ts = Formula.placeholdersOfParts (conditionOf q.filter).toList := by
  obtain ⟨fieldTokens, hfields, hfieldsNone, -⟩ := piece_selection q.fields
  obtain ⟨whereTokens, _, hwhere, hwhereStarts, hplaceholders, -⟩ :=
    piece_where (spelled_whereText hw)
  obtain ⟨orderTokens, horder, horderStarts, horderNone, -⟩ := piece_orders q.sort
  refine ⟨_, piece_select hfields (hwhere.append horder horderStarts)
    (hwhereStarts.append horderStarts), ?_⟩
  have hwords : placeholders (.word "SELECT" :: fieldTokens
      ++ .word "FROM" :: .word documentAlias :: (whereTokens ++ orderTokens))
      = placeholders fieldTokens ++ placeholders (whereTokens ++ orderTokens) :=
    placeholders_append (.word "SELECT" :: fieldTokens) _
  rw [hwords, placeholders_append, hfieldsNone, horderNone, hplaceholders, List.nil_append,
    List.append_nil]

/-! ### The statement of ids -/

/-- The test of the partition, whose value is bound. -/
theorem piece_partition (field : String) :
    Piece (reference documentAlias field ++ " = " ++ partitionPlaceholder).toList
      ((routeOf field).tokens ++ [.comparator .eq, .placeholder partitionPlaceholder]) := by
  have hbound : Piece partitionPlaceholder.toList [.placeholder partitionPlaceholder] :=
    Piece.placeholder (w := "pKey".toList) (List.all_eq_true.1 (by decide))
  have htest := Piece.blank (c := ' ') rfl (Piece.comparator .eq hbound)
  simp only [String.toList_append, List.append_assoc]
  exact (Piece.reference field).append htest (.cons rfl _)

/-- The test of the id, which is to be one of those that are bound. -/
theorem piece_membership (n : Nat) :
    Piece (reference documentAlias "id" ++ " IN ("
        ++ ", ".intercalate ((List.range n).map idPlaceholder) ++ ")").toList
      ((routeOf "id").tokens ++ .word "IN" :: .opening
        :: [.comma].intercalate ((List.range n).map fun i => [.placeholder (idPlaceholder i)])
        ++ [.closing]) := by
  have hbound (i : Nat) : Piece (idPlaceholder i).toList [.placeholder (idPlaceholder i)] := by
    have hpiece := Piece.numberedPlaceholder (w := "id".toList) (by decide) i
    have hname : String.ofList ('@' :: "id".toList ++ (toString i).toList) = idPlaceholder i := by
      rw [idPlaceholder, String.ofList_append, String.ofList_toList]
      rfl
    rw [hname] at hpiece
    rw [idPlaceholder, String.toList_append]
    exact hpiece
  have hin := Piece.keyword "IN" (by decide)
    (Piece.list hbound (List.range n)).enclosed
  have hpiece := (Piece.reference "id").append hin (.cons rfl _)
  simp only [String.toList_append, List.append_assoc, List.cons_append] at hpiece ⊢
  exact hpiece

/-- The tokens of a statement that selects the documents that fulfil a condition. -/
theorem piece_selectWhere {s : String} {ts : List Token} (hs : Piece s.toList ts) :
    Piece ("SELECT * FROM " ++ documentAlias ++ " WHERE " ++ s).toList
      ([.word "SELECT", .star, .word "FROM", .word documentAlias, .word "WHERE"] ++ ts) := by
  have halias : Piece documentAlias.toList [.word documentAlias] :=
    Piece.word documentAlias (by decide)
  have hwhere := Piece.keyword "WHERE" (by decide) hs
  have hfrom := Piece.keyword "FROM" (by decide)
    (halias.append hwhere (.cons rfl _))
  have hstar := Piece.mark (c := '*') (t := .star) rfl (fun _ => rfl) (by decide) hfrom
  have hselect := Piece.leading "SELECT" (by decide) hstar
  simp only [String.toList_append, List.append_assoc]
  exact hselect

/-- The tokens of a conjunction of two texts. -/
theorem piece_and {s t : String} {ts us : List Token} (hs : Piece s.toList ts)
    (ht : Piece t.toList us) :
    Piece (" AND ".intercalate [s, t]).toList ([.word "AND"].intercalate [ts, us]) := by
  rw [String.toList_intercalate]
  exact Piece.intercalate (by decide)
    (Piece.keyword "AND" (by decide))
    (.cons hs (.cons ht .nil))

/-- The tokens of the statement that selects documents by their ids. -/
theorem piece_ids (ids : List Value) (field : String) (partition : Value) :
    ∃ ts, Piece (idsStatement ids field partition).text.toList ts
      ∧ placeholders ts = (if partition.isNull then [] else [partitionPlaceholder])
        ++ (List.range ids.length).map idPlaceholder := by
  have hmembership := piece_membership ids.length
  -- Apart from the list of the ids there is no placeholder.
  have hnames : placeholders ((routeOf "id").tokens ++ .word "IN" :: .opening
        :: [.comma].intercalate
          ((List.range ids.length).map fun i => [.placeholder (idPlaceholder i)])
        ++ [.closing]) = (List.range ids.length).map idPlaceholder := by
    have hlist : placeholders ([.comma].intercalate
        ((List.range ids.length).map fun i => [.placeholder (idPlaceholder i)]))
        = (List.range ids.length).map idPlaceholder := by
      rw [placeholders_list, List.map_eq_flatMap]
      rfl
    rw [placeholders_append, placeholders_append, placeholders_reference, List.nil_append]
    exact (List.append_nil _).trans hlist
  generalize (routeOf "id").tokens ++ .word "IN" :: .opening
    :: [.comma].intercalate ((List.range ids.length).map fun i => [.placeholder (idPlaceholder i)])
    ++ [.closing] = ts at hmembership hnames
  unfold idsStatement
  cases partition.isNull with
  | true =>
    -- The conjunction has a single part, which is its text.
    refine ⟨_, piece_selectWhere (s := " AND ".intercalate [_]) hmembership, ?_⟩
    exact hnames
  | false =>
    have hpartition := piece_partition field
    have hscope : placeholders ((routeOf field).tokens
        ++ [.comparator .eq, .placeholder partitionPlaceholder]) = [partitionPlaceholder] := by
      rw [placeholders_append, placeholders_reference]
      rfl
    refine ⟨_, piece_selectWhere (piece_and hpartition hmembership), ?_⟩
    rw [placeholders_append, placeholders_intercalate rfl, List.flatMap_cons,
      List.flatMap_singleton, hscope, hnames]
    rfl

theorem parameters_idsStatement (ids : List Value) (field : String) (partition : Value) :
    (idsStatement ids field partition).parameters
      = (if partition.isNull then [] else [⟨partitionPlaceholder, partition⟩])
        ++ ids.zipIdx.map fun (v, i) => ⟨idPlaceholder i, v⟩ := by
  unfold idsStatement
  cases partition.isNull <;> rfl

/-- **Placeholders and parameters correspond.**  What is made of a filter whose logical operators
are known binds `@p0`, `@p1`, and so on, to the operands of what survives of it, be it the text of
the filter alone or the statements that select and count the documents of a query.  The statement
that selects documents by their ids binds `@pKey` to the partition value, if that is there, and
then `@id0`, `@id1`, and so on, to the ids. -/
theorem binds_statements :
    (∀ v f, Filter.ofWire v = .ok f → (∀ g, v = .filter g → g.Boolean) →
      (filterFrom documentAlias 0 f).Binds (boundNames f.survivors.length) f.survivors)
    ∧ (∀ q : Query, (∀ s, q.filter = .scalar s → s = .null) →
        (∀ g, q.filter = .filter g → g.Boolean) →
        (∃ s, selectStatement q = .ok s ∧ s.Binds (boundNames q.survivors.length) q.survivors)
        ∧ ∃ s, countStatement q = .ok s ∧ s.Binds (boundNames q.survivors.length) q.survivors)
    ∧ ∀ ids field partition, (idsStatement ids field partition).Binds
        ((if partition.isNull then [] else ["@pKey"])
          ++ (List.range ids.length).map fun i => "@id" ++ toString i)
        ((if partition.isNull then [] else [partition]) ++ ids) := by
  refine ⟨?_, ?_, ?_⟩
  · -- A filter on its own,
    intro v f hv hb
    have hf := Filter.boolean_ofWire hv hb
    rcases spelled_filterFrom 0 f with ⟨htext, hnone⟩ | ⟨c, hsome, hc⟩
    · have hpiece : Piece (filterFrom documentAlias 0 f).text.toList [] := by
        rw [htext]
        exact Piece.nil
      exact binds_survivors hf hpiece (by rw [hnone]; rfl)
    · obtain ⟨ts, _, hpiece, -, -, hplaceholders⟩ := hc.read
      refine binds_survivors hf hpiece ?_
      rw [hplaceholders, hsome, Option.toList_some, Formula.placeholdersOfParts,
        Formula.placeholdersOfParts, List.append_nil]
  · -- a query, selected or counted,
    intro q hq hb
    obtain ⟨w, hw⟩ := exists_whereText hq
    constructor
    · obtain ⟨ts, hpiece, hts⟩ := placeholders_select hw
      refine ⟨_, ?_, binds_query hb hw hpiece hts⟩
      rw [selectStatement, hw]
      rfl
    · obtain ⟨ts, _, hwhere, hstarts, hplaceholders, -⟩ := piece_where (spelled_whereText hw)
      refine ⟨_, ?_, binds_query hb hw (piece_count hwhere hstarts) hplaceholders⟩
      rw [countStatement, hw]
      rfl
  · -- and a read of several ids.
    intro ids field partition
    obtain ⟨ts, hpiece, hts⟩ := piece_ids ids field partition
    have hids := zipWith_names idPlaceholder ids
    have honce : ((List.range ids.length).map idPlaceholder).Nodup :=
      List.Nodup.map (numbered_injective "@id") List.nodup_range
    refine ⟨?_, ?_, ?_, ?_⟩
    · rw [parameters_idsStatement]
      cases partition.isNull with
      | true => exact hids.symm
      | false => exact congrArg (_ :: ·) hids.symm
    · cases partition.isNull <;> simp
    · rw [hpiece.lex_eq, Option.map_some, hts]
      rfl
    · cases partition.isNull with
      | true => exact honce
      | false =>
        refine List.nodup_cons.2 ⟨?_, honce⟩
        intro h
        obtain ⟨i, -, hi⟩ := List.mem_map.1 h
        exact partitionPlaceholder_ne i hi.symm

/-- A comparison without an operand has no placeholder, and a tuple is bound as a list. -/
theorem binds_statements_tuple :
    let v : Value := .object [("a", .object [("$in", .tuple [.int 1])]),
      ("@p7", .object [("$regex", .null)]), ("b", .str "t")]
    ∃ f, Filter.ofWire v = .ok f
      ∧ (filterFrom documentAlias 0 f).Binds ["@p0", "@p1"] [.list [.int 1], .str "t"] := by
  intro v
  have hobject (g : Filter) (h : v = .filter g) : g.Boolean := Value.noConfusion h
  exact ⟨_, rfl, binds_statements.1 v _ rfl hobject⟩

end Sql

end EntityStore
