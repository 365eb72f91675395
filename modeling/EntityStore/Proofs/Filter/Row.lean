import EntityStore.Proofs.Filter.Conjunction
import EntityStore.Proofs.Sql.Meaning
import Mathlib.Algebra.Ring.Nat

/-!
# Rows of filters

A row of filters has the texts of those filters that say something, joined by `AND`, and binds the
values of all of them.  When filters are taken out of the row, the statement stays as it is exactly
when these say nothing (`filterFrom_filter_iff`).

For one direction the sizes are compared.  As many values are bound only when the filters that are
taken out bind none.  The others then have the numbers that they had, and so the texts that they had,
and there is no room for the texts of those that are taken out.
-/

namespace EntityStore.Filter

open Sql (documentAlias filterFrom)
open Sql.Condition (textsFrom valuesOfParts joinAll)

/-! ### Texts and values -/

/-- The texts of a row of filters whose first value is the `n`-th that is bound. -/
def rowTexts (n : Nat) (fs : List Filter) : List String := textsFrom documentAlias n (conditions fs)

/-- The values that a row of filters binds. -/
def rowValues (fs : List Filter) : List Value := valuesOfParts (conditions fs)

theorem filterFrom_row (n : Nat) (fs : List Filter) :
    filterFrom documentAlias n (conjunction fs)
      = ⟨joinAll (rowTexts n fs), Sql.numbered n (rowValues fs)⟩ := by
  rw [filterFrom, textFrom_conjunction, values_conjunction]
  rfl

theorem rowValues_cons (f : Filter) (fs : List Filter) :
    rowValues (f :: fs) = f.condition.values ++ rowValues fs := rfl

theorem rowTexts_cons (n : Nat) (f : Filter) (fs : List Filter) :
    rowTexts n (f :: fs)
      = if (f.condition.textFrom documentAlias n).isEmpty then
          rowTexts (n + f.condition.values.length) fs
        else f.condition.textFrom documentAlias n :: rowTexts (n + f.condition.values.length) fs :=
  rfl

theorem rowValues_append (fs gs : List Filter) :
    rowValues (fs ++ gs) = rowValues fs ++ rowValues gs := by
  rw [rowValues, conditions_append, Sql.Condition.valuesOfParts_append]
  rfl

theorem rowTexts_append (n : Nat) (fs gs : List Filter) :
    rowTexts n (fs ++ gs) = rowTexts n fs ++ rowTexts (n + (rowValues fs).length) gs := by
  rw [rowTexts, conditions_append, Sql.Condition.textsFrom_append]
  rfl

/-! ### Sizes -/

/-- How many characters a row of texts has, when all of them are followed by an `AND`. -/
def rowSize (ts : List String) : Nat := (ts.map fun t => t.length + 5).sum

theorem length_joinAll (t : String) (ts : List String) :
    (joinAll (t :: ts)).length + 5 = rowSize (t :: ts) := by
  induction ts generalizing t with
  | nil =>
    rw [joinAll, String.intercalate_singleton]
    rfl
  | cons u ts ih =>
    have hrest := ih u
    have hseparator : " AND ".length = 5 := by decide
    rw [joinAll] at hrest ⊢
    rw [String.intercalate_cons_cons, String.length_append, String.length_append, hseparator,
      rowSize, List.map_cons, List.sum_cons, ← rowSize, ← hrest]
    omega

/-- Rows of texts that are the same when joined are of the same size. -/
theorem rowSize_eq_of_joinAll {ss ts : List String} (hs : ∀ s ∈ ss, s ≠ "") (ht : ∀ t ∈ ts, t ≠ "")
    (h : joinAll ss = joinAll ts) : rowSize ss = rowSize ts := by
  cases ss with
  | nil =>
    cases ts with
    | nil => rfl
    | cons t ts =>
      exact absurd h.symm (Sql.Condition.joinAll_ne_empty (ht t List.mem_cons_self) ts)
  | cons s ss =>
    cases ts with
    | nil => exact absurd h (Sql.Condition.joinAll_ne_empty (hs s List.mem_cons_self) ss)
    | cons t ts => rw [← length_joinAll, ← length_joinAll, h]

theorem rowSize_append (ss ts : List String) : rowSize (ss ++ ts) = rowSize ss + rowSize ts := by
  rw [rowSize, List.map_append, List.sum_append_nat]
  rfl

/-! ### Filters that are left out -/

/-- **A filter that nothing survives of** says nothing, and binds nothing. -/
theorem silent_iff {f : Filter} (h : Boolean f) (n : Nat) :
    f.prune = none ↔ f.condition.textFrom documentAlias n = "" := by
  rw [← surviving?_eq_none_iff h n]
  rcases Sql.spelled_filterFrom n f with ⟨htext, hnone⟩ | ⟨c, hsome, hc⟩
  · exact iff_of_true hnone htext
  · refine iff_of_false (by rw [hsome]; exact Option.some_ne_none c) fun htext => ?_
    have hempty : (filterFrom documentAlias n f).text = "" := htext
    rw [hempty, String.toList_empty] at hc
    exact hc.ne_nil rfl

theorem values_of_prune {f : Filter} (h : Boolean f) (hprune : f.prune = none) :
    f.condition.values = [] := by
  rw [values_condition, ← operands_prune h, hprune]
  rfl

section

variable (p : Filter → Bool)

theorem length_rowValues_filter (fs : List Filter) :
    (rowValues (fs.filter p)).length ≤ (rowValues fs).length := by
  induction fs with
  | nil => exact Nat.le_refl 0
  | cons f fs ih =>
    rw [rowValues_cons, List.length_append]
    cases hf : p f with
    | true =>
      rw [List.filter_cons_of_pos hf, rowValues_cons, List.length_append]
      exact Nat.add_le_add_left ih _
    | false =>
      rw [List.filter_cons_of_neg (by rw [hf]; exact Bool.false_ne_true)]
      exact Nat.le_add_left_of_le ih

/-- **A row is no shorter than what is left of it**, if the filters that are left out bind nothing, and
as long only when these have no text. -/
theorem rowSize_filter {fs : List Filter}
    (h : (rowValues fs).length = (rowValues (fs.filter p)).length) (n : Nat) :
    rowSize (rowTexts n (fs.filter p)) ≤ rowSize (rowTexts n fs)
      ∧ (rowSize (rowTexts n fs) = rowSize (rowTexts n (fs.filter p)) →
        ∀ f ∈ fs, p f = false → ∃ m, f.condition.textFrom documentAlias m = "") := by
  induction fs generalizing n with
  | nil => exact ⟨Nat.le_refl _, fun _ f hf => absurd hf List.not_mem_nil⟩
  | cons f fs ih =>
    have hshorter := length_rowValues_filter p fs
    -- A filter adds to the size of the row unless its text is empty.
    have hsize (ts : List String) : rowSize
        (if (f.condition.textFrom documentAlias n).isEmpty then ts
          else f.condition.textFrom documentAlias n :: ts)
        = rowSize (if (f.condition.textFrom documentAlias n).isEmpty then []
          else [f.condition.textFrom documentAlias n]) + rowSize ts := by
      split
      · exact (Nat.zero_add _).symm
      · exact rowSize_append [_] ts
    rw [rowValues_cons, List.length_append] at h
    rw [rowTexts_cons, hsize]
    cases hf : p f with
    -- The filter is kept in both rows.
    | true =>
      rw [List.filter_cons_of_pos hf, rowValues_cons, List.length_append] at h
      obtain ⟨hle, hsilent⟩ := ih (by omega) (n + f.condition.values.length)
      rw [List.filter_cons_of_pos hf, rowTexts_cons, hsize]
      refine ⟨by omega, fun heq => List.forall_mem_cons.2 ⟨fun hnot => ?_, hsilent (by omega)⟩⟩
      rw [hf] at hnot
      contradiction
    | false =>
      have hneg : ¬ p f = true := by
        rw [hf]
        exact Bool.false_ne_true
      rw [List.filter_cons_of_neg hneg] at h ⊢
      -- A filter that is left out binds nothing, since the numbers of values agree.
      have hnone : f.condition.values.length = 0 := by omega
      obtain ⟨hle, hsilent⟩ := ih (by omega) n
      rw [hnone, Nat.add_zero]
      refine ⟨by omega, fun heq => List.forall_mem_cons.2 ⟨fun _ => ⟨n, ?_⟩, hsilent (by omega)⟩⟩
      -- With a text of its own it would make the first row larger.
      by_contra htext
      have hown : (f.condition.textFrom documentAlias n).isEmpty = false :=
        String.isEmpty_eq_false_iff.2 htext
      rw [hown, if_neg Bool.false_ne_true] at heq
      have hpositive : 0 < rowSize [f.condition.textFrom documentAlias n] := Nat.succ_pos _
      omega

/-- Filters that say nothing leave no trace in a row. -/
theorem row_filter {fs : List Filter} (h : ∀ f ∈ fs, Boolean f)
    (hsilent : ∀ f ∈ fs, p f = false → f.prune = none) (n : Nat) :
    rowTexts n fs = rowTexts n (fs.filter p) ∧ rowValues fs = rowValues (fs.filter p) := by
  induction fs generalizing n with
  | nil => exact ⟨rfl, rfl⟩
  | cons f fs ih =>
    obtain ⟨hboolean, h⟩ := List.forall_mem_cons.1 h
    obtain ⟨hfirst, hsilent⟩ := List.forall_mem_cons.1 hsilent
    obtain ⟨htexts, hvalues⟩ := ih h hsilent (n + f.condition.values.length)
    rw [rowTexts_cons, rowValues_cons, htexts, hvalues]
    cases hf : p f with
    | true =>
      rw [List.filter_cons_of_pos hf, rowTexts_cons, rowValues_cons]
      exact ⟨rfl, rfl⟩
    | false =>
      have hprune := hfirst hf
      rw [List.filter_cons_of_neg (by rw [hf]; exact Bool.false_ne_true),
        (silent_iff hboolean n).1 hprune, values_of_prune hboolean hprune]
      exact ⟨rfl, rfl⟩

/-- **Filters can be left out of a row** exactly when they say nothing. -/
theorem filterFrom_filter_iff (fs : List Filter) {gs : List Filter} (h : ∀ g ∈ gs, Boolean g) :
    filterFrom documentAlias 0 (conjunction (fs ++ gs))
        = filterFrom documentAlias 0 (conjunction (fs ++ gs.filter p))
      ↔ ∀ g ∈ gs, p g = false → g.prune = none := by
  rw [filterFrom_row, filterFrom_row]
  constructor
  · intro heq
    have hvalues := congrArg (·.parameters.length) heq
    have hsizes := rowSize_eq_of_joinAll (fun t => Sql.Condition.ne_empty_of_mem_textsFrom)
      (fun t => Sql.Condition.ne_empty_of_mem_textsFrom) (congrArg Statement.text heq)
    dsimp only at hvalues
    rw [Sql.length_numbered, Sql.length_numbered, rowValues_append, rowValues_append,
      List.length_append, List.length_append] at hvalues
    -- Equal statements have as many values, and rows of the same size.
    have hbound : (rowValues gs).length = (rowValues (gs.filter p)).length := by omega
    obtain ⟨-, hsilent⟩ := rowSize_filter p hbound (0 + (rowValues fs).length)
    intro g hg hnot
    have hsame := hsilent (by
      change rowSize (rowTexts 0 (fs ++ gs)) = rowSize (rowTexts 0 (fs ++ gs.filter p)) at hsizes
      rw [rowTexts_append, rowTexts_append, rowSize_append, rowSize_append] at hsizes
      omega)
    obtain ⟨m, htext⟩ := hsame g hg hnot
    exact (silent_iff (h g hg) m).2 htext
  · intro hsilent
    -- Filters that are pruned away leave neither a text nor a value.
    obtain ⟨htexts, hvalues⟩ := row_filter p h hsilent (0 + (rowValues fs).length)
    rw [rowTexts_append, rowTexts_append, rowValues_append, rowValues_append, htexts, hvalues]

end

end EntityStore.Filter
