import EntityStore.Proofs.Filter.WireForm
import Mathlib.Data.List.Range

/-!
# Pruned filters

`Filter.prune` takes away the comparisons that do not survive, the conjunctions and disjunctions
that are left without parts, and the negations that are left without the filter that they negate.

Where all logical operators are known (`Boolean`), what is left of a filter is true exactly when the
pruned filter is (`holds_surviving?`), and its placeholders are numbered without gaps, one for each
operand of the pruned filter (`placeholders_surviving?`, `operands_prune`).  Filters that are read
from wire form are such (`boolean_ofWire`).
-/

namespace EntityStore.Filter

open Sql (Formula Probe placeholder unlessNone)

/-! ### Pruning -/

mutual

/-- **What is left of a filter, as a filter**; `none` when nothing is left. -/
def prune : Filter → Option Filter
  | .compare path operator operand =>
    if (probe? 0 path operator operand).isSome then some (.compare path operator operand) else none
  | .combine _ [] => none
  | .combine operator (f :: r) =>
    if operator = notOp then f.prune.map .not
    else unlessNone (.combine operator) (f.prune.toList ++ pruneEach r)
  | .bare => none

/-- What is left of each of a list of filters. -/
def pruneEach : List Filter → List Filter
  | [] => []
  | f :: r => f.prune.toList ++ pruneEach r

end

/-! ### Truth -/

/-- The truth of a combination, given that of its parts. -/
def combined (operator : String) (parts : List Bool) : Bool :=
  if operator = notOp then !parts.all id
  else if operator = orOp then parts.any id
  else parts.all id

mutual

/-- **The truth of a filter** whose first operand is the `n`-th that is bound, given that of the
probes that begin with no `NOT`. -/
def holds (truth : Probe → Bool) (n : Nat) : Filter → Bool
  | .compare path operator operand => (probe? n path operator operand).all (·.holds truth)
  | .combine operator children => combined operator (truths truth n children)
  | .bare => true

/-- The truths of a list of filters. -/
def truths (truth : Probe → Bool) (n : Nat) : List Filter → List Bool
  | [] => []
  | f :: r => f.holds truth n :: truths truth (n + f.operands.length) r

end

/-! ### Filters with known operators -/

/-- **A filter whose logical operators are all known.** -/
inductive Boolean : Filter → Prop
  | compare (path operator : String) (operand : Value) : Boolean (.compare path operator operand)
  | bare : Boolean .bare
  | conjunction {fs : List Filter} (h : ∀ f ∈ fs, Boolean f) : Boolean (.combine andOp fs)
  | disjunction {fs : List Filter} (h : ∀ f ∈ fs, Boolean f) : Boolean (.combine orOp fs)
  | negation {fs : List Filter} (h : ∀ f ∈ fs, Boolean f) : Boolean (.combine notOp fs)

theorem Expressible.boolean {f : Filter} (h : f.Expressible) : Boolean f := by
  induction h with
  | compare _ operator operand => exact .compare _ operator operand
  | conjunction _ ih => exact .conjunction ih
  | disjunction _ ih => exact .disjunction ih
  | negation _ ih =>
    refine .negation fun g hg => ?_
    rw [List.mem_singleton.1 hg]
    exact ih

/-- **A filter that is read from wire form** has known operators only, unless it was a filter
already. -/
theorem boolean_ofWire {v : Value} {f : Filter} (h : ofWire v = .ok f)
    (hv : ∀ g, v = .filter g → Boolean g) : Boolean f := by
  by_cases hfilter : ∃ g, v = .filter g
  · obtain ⟨g, rfl⟩ := hfilter
    cases h
    exact hv f rfl
  · exact (expressible_ofWire h (not_exists.1 hfilter)).boolean

/-- **A filter that is read from an object or a list, or put together** from comparisons. -/
inductive Obtained : Filter → Prop
  | wire {v : Value} {f : Filter} (hv : (v.isObject || v.isSequence) = true)
    (h : ofWire v = .ok f) : Obtained f
  | compare (path operator : String) (operand : Value) : Obtained (.compare path operator operand)
  | and {f g : Filter} (hf : Obtained f) (hg : Obtained g) : Obtained (f.and g)
  | or {f g : Filter} (hf : Obtained f) (hg : Obtained g) : Obtained (f.or g)
  | not {f : Filter} (hf : Obtained f) : Obtained f.not

theorem Obtained.boolean {f : Filter} (h : Obtained f) : Boolean f := by
  have hpair {f g : Filter} (hf : Boolean f) (hg : Boolean g) : ∀ h ∈ [f, g], Boolean h := by
    intro h hh
    rcases List.mem_cons.1 hh with rfl | hh
    · exact hf
    · rw [List.mem_singleton.1 hh]
      exact hg
  induction h with
  | wire hv h =>
    refine boolean_ofWire h ?_
    rintro g rfl
    contradiction
  | compare => exact .compare ..
  | and _ _ hf hg => exact .conjunction (hpair hf hg)
  | or _ _ hf hg => exact .disjunction (hpair hf hg)
  | not _ hf =>
    refine .negation fun g hg => ?_
    rw [List.mem_singleton.1 hg]
    exact hf

/-! ### Combinations that are not negations -/

theorem operandsOfEach_singleton (f : Filter) : operandsOfEach [f] = f.operands := by
  rw [operandsOfEach, operandsOfEach, List.append_nil]

section

variable {operator : String} (hop : operator ≠ notOp) (fs : List Filter)

include hop

theorem condition_combine :
    condition (.combine operator fs) = Sql.combination operator (conditions fs) := by
  cases fs with
  | nil => rw [condition, if_neg hop, conditions]
  | cons f r => rw [condition, if_neg hop, conditions]

theorem operands_combine : operands (.combine operator fs) = operandsOfEach fs := by
  cases fs with
  | nil => rfl
  | cons f r => rw [operands, if_neg hop, operandsOfEach]

theorem surviving?_combine (n : Nat) :
    surviving? n (.combine operator fs) = combined? operator (survivingOfEach n fs) := by
  cases fs with
  | nil =>
    rw [surviving?, survivingOfEach, combined?]
    split_ifs <;> rfl
  | cons f r => rw [surviving?, if_neg hop, survivingOfEach]

theorem prune_combine :
    prune (.combine operator fs) = unlessNone (.combine operator) (pruneEach fs) := by
  cases fs with
  | nil => rfl
  | cons f r => rw [prune, if_neg hop, pruneEach]

/-- The operands of a combination that is left out are none. -/
theorem operands_unlessNone :
    operandsOfEach (unlessNone (Filter.combine operator) fs).toList = operandsOfEach fs := by
  cases fs with
  | nil => rfl
  | cons f r =>
    rw [Sql.unlessNone_cons, Option.toList_some, operandsOfEach_singleton, operands_combine hop]

end

/-! ### The operands that are left -/

theorem operands_not (f : Filter) : f.not.operands = f.operands := by
  rw [Filter.not, operands, if_pos rfl]

theorem operandsOfEach_append (fs gs : List Filter) :
    operandsOfEach (fs ++ gs) = operandsOfEach fs ++ operandsOfEach gs := by
  induction fs with
  | nil => rfl
  | cons f fs ih => rw [List.cons_append, operandsOfEach, operandsOfEach, ih, List.append_assoc]

theorem operands_pruneEach {fs : List Filter}
    (h : ∀ f ∈ fs, operandsOfEach f.prune.toList = f.operands) :
    operandsOfEach (pruneEach fs) = operandsOfEach fs := by
  induction fs with
  | nil => rfl
  | cons f fs ih =>
    rw [pruneEach, operandsOfEach_append, operandsOfEach, h f List.mem_cons_self,
      ih fun g hg => h g (List.mem_cons_of_mem f hg)]

/-- **The operands of a filter are those of the pruned filter.** -/
theorem operands_prune {f : Filter} (h : Boolean f) :
    operandsOfEach f.prune.toList = f.operands := by
  induction h with
  | compare path operator operand =>
    rw [prune, operands]
    split_ifs with hsome
    · rw [Option.toList_some, operandsOfEach_singleton, operands, if_pos hsome]
    · rfl
  | bare => rfl
  | conjunction _ ih | disjunction _ ih =>
    rw [prune_combine (by decide), operands_unlessNone (by decide), operands_pruneEach ih,
      operands_combine (by decide)]
  | @negation fs _ ih =>
    cases fs with
    | nil => rfl
    | cons f r =>
      have hfirst := ih f List.mem_cons_self
      rw [prune, if_pos rfl, operands, if_pos rfl, ← hfirst]
      cases f.prune with
      | none => rfl
      | some g =>
        rw [Option.map_some, Option.toList_some, Option.toList_some, operandsOfEach_singleton,
          operandsOfEach_singleton, operands_not]

/-! ### The placeholders that are left -/

/-- A comparison that binds its operand has the placeholder of its number. -/
theorem placeholders_probe? {n : Nat} {path operator : String} {operand : Value} {p : Probe}
    (h : probe? n path operator operand = some p) :
    p.placeholders = (bound operator operand).map fun _ => placeholder n := by
  rw [probe?_eq] at h
  obtain ⟨t, ht, rfl⟩ := Option.map_eq_some_iff.1 h
  rw [← values_of_test? ht]
  cases t <;> rfl

theorem placeholders_survivingOfEach {fs : List Filter}
    (h : ∀ f ∈ fs, ∀ n, Formula.placeholdersOfParts (f.surviving? n).toList
      = (List.range' n f.operands.length).map placeholder) (n : Nat) :
    Formula.placeholdersOfParts (survivingOfEach n fs)
      = (List.range' n (operandsOfEach fs).length).map placeholder := by
  induction fs generalizing n with
  | nil => rfl
  | cons f fs ih =>
    have hfirst := h f List.mem_cons_self n
    have hrest := ih (fun g hg => h g (List.mem_cons_of_mem f hg)) (n + f.operands.length)
    rw [Formula.placeholdersOfParts_eq] at hfirst hrest ⊢
    rw [survivingOfEach, List.flatMap_append, hfirst, hrest, operandsOfEach, List.length_append,
      ← List.range'_append_1, List.map_append]

/-- A conjunction or disjunction adds no placeholders to those of its parts. -/
theorem placeholders_combined? {operator : String} (hop : operator = andOp ∨ operator = orOp)
    (parts : List Formula) :
    Formula.placeholdersOfParts (combined? operator parts).toList
      = Formula.placeholdersOfParts parts := by
  have hone (f : Formula) : Formula.placeholdersOfParts [f] = f.placeholders := by
    rw [Formula.placeholdersOfParts, Formula.placeholdersOfParts, List.append_nil]
  cases parts with
  | nil => rcases hop with rfl | rfl <;> rfl
  | cons f r =>
    rcases hop with rfl | rfl
    · rw [combined?, if_pos rfl, Sql.unlessNone_cons, Option.toList_some, hone, Formula.placeholders]
    · rw [combined?, if_neg (by decide), if_pos rfl, Sql.unlessNone_cons, Option.toList_some, hone,
        Formula.placeholders]

/-- **The placeholders of what is left of a filter** are numbered without gaps, one for each
operand. -/
theorem placeholders_surviving? {f : Filter} (h : Boolean f) (n : Nat) :
    Formula.placeholdersOfParts (f.surviving? n).toList
      = (List.range' n f.operands.length).map placeholder := by
  induction h generalizing n with
  | compare path operator operand =>
    -- Whether a comparison survives does not depend on its number.
    have hnumber : (probe? n path operator operand).isSome
        = (probe? 0 path operator operand).isSome := by
      rw [isSome_probe?, isSome_probe?]
    rw [surviving?, operands, ← hnumber]
    cases hprobe : probe? n path operator operand with
    | none => rfl
    | some p =>
      have hplaceholders := placeholders_probe? hprobe
      rw [Option.map_some, Option.toList_some, Formula.placeholdersOfParts, Formula.placeholders,
        hplaceholders, Option.isSome_some, if_pos rfl, bound]
      split_ifs <;> rfl
  | bare => rfl
  | conjunction _ ih | disjunction _ ih =>
    rw [surviving?_combine (by decide), operands_combine (by decide),
      ← placeholders_survivingOfEach ih]
    exact placeholders_combined? (by decide) _
  | @negation fs _ ih =>
    -- Of a negation only the first part is read.
    cases fs with
    | nil => rfl
    | cons f r =>
      have hfirst := ih f List.mem_cons_self n
      rw [surviving?, if_pos rfl, operands, if_pos rfl, ← hfirst]
      cases f.surviving? n with
      | none => rfl
      | some F => rfl

/-! ### Truth is kept -/

theorem truths_append (truth : Probe → Bool) (n : Nat) (fs gs : List Filter) :
    truths truth n (fs ++ gs)
      = truths truth n fs ++ truths truth (n + (operandsOfEach fs).length) gs := by
  induction fs generalizing n with
  | nil => rfl
  | cons f fs ih =>
    rw [List.cons_append, truths, truths, ih, operandsOfEach, List.length_append, Nat.add_assoc,
      List.cons_append]

theorem holds_survivingOfEach (truth : Probe → Bool) {fs : List Filter}
    (hfs : ∀ f ∈ fs, Boolean f)
    (h : ∀ f ∈ fs, ∀ n, (f.surviving? n).toList.map (Formula.holds truth)
      = truths truth n f.prune.toList) (n : Nat) :
    (survivingOfEach n fs).map (Formula.holds truth) = truths truth n (pruneEach fs) := by
  induction fs generalizing n with
  | nil => rfl
  | cons f fs ih =>
    have hrest := ih (fun g hg => hfs g (List.mem_cons_of_mem f hg))
      (fun g hg => h g (List.mem_cons_of_mem f hg)) (n + f.operands.length)
    rw [survivingOfEach, pruneEach, List.map_append, h f List.mem_cons_self, hrest, truths_append,
      operands_prune (hfs f List.mem_cons_self)]

/-- A combination of parts that are true when those of a filter are. -/
theorem holds_combined? (truth : Probe → Bool) {operator : String}
    (hop : operator = andOp ∨ operator = orOp) {parts : List Formula} {fs : List Filter} {n : Nat}
    (h : parts.map (Formula.holds truth) = truths truth n fs) :
    (combined? operator parts).toList.map (Formula.holds truth)
      = truths truth n (unlessNone (Filter.combine operator) fs).toList := by
  cases parts with
  | nil =>
    cases fs with
    | nil => rcases hop with rfl | rfl <;> rfl
    | cons g gs => contradiction
  | cons F Fs =>
    cases fs with
    | nil => contradiction
    | cons g gs =>
      rw [Sql.unlessNone_cons, Option.toList_some, truths, holds, ← h, truths]
      -- All parts of a conjunction hold, or some part of a disjunction.
      rcases hop with rfl | rfl
      · rw [combined?, if_pos rfl, Sql.unlessNone_cons, Option.toList_some, List.map_singleton,
          Formula.holds, Formula.allHold_eq, combined, if_neg (by decide), if_neg (by decide),
          List.all_map]
        rfl
      · rw [combined?, if_neg (by decide), if_pos rfl, Sql.unlessNone_cons, Option.toList_some,
          List.map_singleton, Formula.holds, Formula.anyHolds_eq, combined, if_neg (by decide),
          if_pos rfl, List.any_map]
        rfl

theorem holds_not (truth : Probe → Bool) (n : Nat) (f : Filter) :
    f.not.holds truth n = !f.holds truth n := by
  rw [Filter.not, holds, combined, if_pos rfl, truths, truths, List.all_cons, List.all_nil,
    Bool.and_true, id_eq]

theorem holds_and (truth : Probe → Bool) (n : Nat) (f g : Filter) :
    (f.and g).holds truth n = (f.holds truth n && g.holds truth (n + f.operands.length)) := by
  rw [Filter.and, holds, combined, if_neg (by decide), if_neg (by decide), truths, truths, truths,
    List.all_cons, List.all_cons, List.all_nil, Bool.and_true, id_eq, id_eq]

theorem holds_or (truth : Probe → Bool) (n : Nat) (f g : Filter) :
    (f.or g).holds truth n = (f.holds truth n || g.holds truth (n + f.operands.length)) := by
  rw [Filter.or, holds, combined, if_neg (by decide), if_pos rfl, truths, truths, truths,
    List.any_cons, List.any_cons, List.any_nil, Bool.or_false, id_eq, id_eq]

/-- **What is left of a filter is true exactly when the pruned filter is.**  Both are there or
neither is, so the truths are compared as lists of at most one. -/
theorem holds_surviving? (truth : Probe → Bool) {f : Filter} (h : Boolean f) (n : Nat) :
    (f.surviving? n).toList.map (Formula.holds truth) = truths truth n f.prune.toList := by
  induction h generalizing n with
  | compare path operator operand =>
    rw [surviving?, prune, isSome_probe?, ← isSome_probe? n path]
    cases hprobe : probe? n path operator operand with
    | none => rfl
    | some p =>
      rw [Option.map_some, Option.toList_some, List.map_singleton, Formula.holds,
        Option.isSome_some, if_pos rfl, Option.toList_some, truths, holds, hprobe, truths]
      rfl
  | bare => rfl
  | @conjunction fs hfs ih | @disjunction fs hfs ih =>
    rw [surviving?_combine (by decide), prune_combine (by decide)]
    exact holds_combined? truth (by decide) (holds_survivingOfEach truth hfs ih n)
  | @negation fs hfs ih =>
    cases fs with
    | nil => rfl
    | cons f r =>
      -- The part survives when it is not pruned away, so the mixed cases contradict.
      have hfirst := ih f List.mem_cons_self n
      rw [surviving?, if_pos rfl, prune, if_pos rfl]
      cases hF : f.surviving? n with
      | none =>
        cases hg : f.prune with
        | none => rfl
        | some g => rw [hF, hg] at hfirst; contradiction
      | some F =>
        cases hg : f.prune with
        | none => rw [hF, hg] at hfirst; contradiction
        | some g =>
          rw [hF, hg, Option.toList_some, Option.toList_some, List.map_singleton, truths] at hfirst
          rw [Option.map_some, Option.map_some, Option.toList_some, Option.toList_some,
            List.map_singleton, Formula.holds, truths, holds_not, (List.cons.inj hfirst).1, truths]

end EntityStore.Filter
