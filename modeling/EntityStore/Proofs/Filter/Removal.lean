import EntityStore.Proofs.Filter.Pruned
import EntityStore.Proofs.Sql.Renumbering

/-!
# Filters without the nodes that are dropped

Some nodes of a filter are dropped when it is compiled: a comparison that does not survive, a bare
node, a combination under an unknown operator with all that is below it, and a negation whose filter
is dropped.  `Filter.removed` takes these nodes away beforehand and leaves the rest as it is.

A filter compiles to what is left of it, in text and parameters, exactly when its dropped nodes have
bound nothing (`filterFrom_removed`).  A comparison that is dropped is seen to be so before its
operand is bound.  A combination under an unknown operator is seen to be so only after all the
filters below it have been compiled, and then their operands are bound: `Filter.strays` lists them.
What comes behind in the filter has its placeholders numbered from there on.
-/

namespace EntityStore

open Sql (Condition documentAlias filterFrom numbered)

namespace Filter

/-! ### Removal -/

/-- Whether an operator joins the texts of its parts. -/
def joins (operator : String) : Bool := operator = andOp || operator = orOp

mutual

/-- **What is left of a filter when its dropped nodes are taken away**; `none` when it is dropped
itself.  A negation is of its first part, so it is dropped with that one. -/
def removed : Filter → Option Filter
  | .compare path operator operand =>
    if (probe? 0 path operator operand).isSome then some (.compare path operator operand) else none
  | .combine operator [] =>
    if joins operator ∨ operator = notOp then some (.combine operator []) else none
  | .combine operator (f :: r) =>
    if operator = notOp then f.removed.map fun g => .combine notOp (g :: removedEach r)
    else if joins operator then some (.combine operator (f.removed.toList ++ removedEach r))
    else none
  | .bare => none

/-- What is left of each of a list of filters. -/
def removedEach : List Filter → List Filter
  | [] => []
  | f :: r => f.removed.toList ++ removedEach r

end

mutual

/-- **The operands that are bound below unknown operators**, from left to right. -/
def strays : Filter → List Value
  | .combine operator (f :: r) =>
    if operator = notOp then f.strays
    else if joins operator then f.strays ++ straysOfEach r
    else f.operands ++ operandsOfEach r
  | _ => []

/-- The operands that are bound below unknown operators in a list of filters. -/
def straysOfEach : List Filter → List Value
  | [] => []
  | f :: r => f.strays ++ straysOfEach r

end

/-! ### Combinations by their operator -/

theorem ne_notOp_of_joins {operator : String} (h : joins operator = true) : operator ≠ notOp := by
  rintro rfl
  contradiction

section

variable {operator : String} (fs : List Filter)

theorem removed_joined (h : joins operator = true) :
    removed (.combine operator fs) = some (.combine operator (removedEach fs)) := by
  cases fs with
  | nil => rw [removed, if_pos (.inl h), removedEach]
  | cons f r => rw [removed, if_neg (ne_notOp_of_joins h), if_pos h, removedEach]

theorem strays_joined (h : joins operator = true) :
    strays (.combine operator fs) = straysOfEach fs := by
  cases fs with
  | nil => rfl
  | cons f r => rw [strays, if_neg (ne_notOp_of_joins h), if_pos h, straysOfEach]

variable (hop : operator ≠ notOp) (h : joins operator = false)

include hop h

theorem removed_unknown : removed (.combine operator fs) = none := by
  cases fs with
  | nil => rw [removed, if_neg (by simp [hop, h])]
  | cons f r => rw [removed, if_neg hop, if_neg (by simp [h])]

theorem strays_unknown : strays (.combine operator fs) = operandsOfEach fs := by
  cases fs with
  | nil => rfl
  | cons f r => rw [strays, if_neg hop, if_neg (by simp [h]), operandsOfEach]

/-- A combination under an unknown operator has no text. -/
theorem textFrom_unknown (alias_ : String) (n : Nat) :
    (condition (.combine operator fs)).textFrom alias_ n = "" := by
  simp only [joins, Bool.or_eq_false_iff, decide_eq_false_iff_not] at h
  rw [condition_combine hop, Sql.combination, if_neg h.1, if_neg h.2, Condition.textFrom]

end

/-! ### The operands that are bound -/

theorem length_operandsOfEach_removedEach {fs : List Filter}
    (h : ∀ f ∈ fs,
      f.operands.length = (operandsOfEach f.removed.toList).length + f.strays.length) :
    (operandsOfEach fs).length
      = (operandsOfEach (removedEach fs)).length + (straysOfEach fs).length := by
  induction fs with
  | nil => rfl
  | cons f fs ih =>
    have hfirst := h f List.mem_cons_self
    have hrest := ih fun g hg => h g (List.mem_cons_of_mem f hg)
    rw [operandsOfEach, removedEach, straysOfEach, operandsOfEach_append, List.length_append,
      List.length_append, List.length_append]
    omega

/-- **The operands that a filter binds** are as many as those of what is left of it and the strays
together. -/
theorem length_operands_removed (f : Filter) :
    f.operands.length = (operandsOfEach f.removed.toList).length + f.strays.length := by
  induction f using induction with
  | compare path operator operand =>
    rw [operands, removed]
    split_ifs with hsome
    · rw [Option.toList_some, operandsOfEach_singleton, operands, if_pos hsome]
      rfl
    · rfl
  | combine operator fs ih =>
    -- A negation keeps its first part; other operators keep all parts or, when unknown, none.
    by_cases hnot : operator = notOp
    · subst hnot
      cases fs with
      | nil => rfl
      | cons f r =>
        have hfirst := ih f List.mem_cons_self
        rw [operands, if_pos rfl, removed, if_pos rfl, strays, if_pos rfl, hfirst]
        cases f.removed with
        | none => rfl
        | some g =>
          rw [Option.map_some, Option.toList_some, Option.toList_some, operandsOfEach_singleton,
            operandsOfEach_singleton, operands, if_pos rfl]
    · have heach := length_operandsOfEach_removedEach ih
      rw [operands_combine hnot]
      cases hjoins : joins operator with
      | true =>
        rw [removed_joined fs hjoins, strays_joined fs hjoins, Option.toList_some,
          operandsOfEach_singleton, operands_combine hnot, heach]
      | false =>
        rw [removed_unknown fs hnot hjoins, strays_unknown fs hnot hjoins]
        exact (Nat.zero_add _).symm
  | bare => rfl

/-! ### Filters whose dropped nodes leave no trace -/

/-- **A filter that compiles to what is left of it**: it has the text of that, or none, and binds the
same operands. -/
structure Traceless (f : Filter) : Prop where
  text : ∀ alias_ n,
    f.condition.textFrom alias_ n = f.removed.elim "" fun g => g.condition.textFrom alias_ n
  bound : f.operands = operandsOfEach f.removed.toList

theorem operandsOfEach_removedEach {fs : List Filter} (h : ∀ f ∈ fs, f.Traceless) :
    operandsOfEach fs = operandsOfEach (removedEach fs) := by
  induction fs with
  | nil => rfl
  | cons f fs ih =>
    rw [operandsOfEach, removedEach, operandsOfEach_append, (h f List.mem_cons_self).bound,
      ih fun g hg => h g (List.mem_cons_of_mem f hg)]

/-- The texts of filters that leave no trace are those of what is left of them. -/
theorem textsFrom_removedEach {fs : List Filter} (h : ∀ f ∈ fs, f.Traceless) (alias_ : String)
    (n : Nat) :
    Condition.textsFrom alias_ n (conditions fs)
      = Condition.textsFrom alias_ n (conditions (removedEach fs)) := by
  induction fs generalizing n with
  | nil => rfl
  | cons f fs ih =>
    have hfirst := h f List.mem_cons_self
    have hrest := ih fun g hg => h g (List.mem_cons_of_mem f hg)
    have htext := hfirst.text alias_ n
    have hoperands := hfirst.bound
    rw [conditions, Condition.textsFrom, values_condition, removedEach]
    cases hf : f.removed with
    | none =>
      rw [hf] at htext hoperands
      rw [htext, hoperands, hrest]
      rfl
    | some g =>
      rw [hf, Option.toList_some, operandsOfEach_singleton] at hoperands
      rw [hf, Option.elim_some] at htext
      rw [Option.toList_some, List.singleton_append, conditions, Condition.textsFrom,
        values_condition, htext, hoperands, hrest]

/-- A conjunction or disjunction leaves no trace when its parts do not. -/
theorem traceless_joined {operator : String} (hjoins : joins operator = true) {fs : List Filter}
    (h : ∀ f ∈ fs, f.Traceless) : Traceless (.combine operator fs) := by
  have hnot := ne_notOp_of_joins hjoins
  constructor
  case text =>
    intro alias_ n
    rw [removed_joined fs hjoins, Option.elim_some, condition_combine hnot,
      condition_combine hnot]
    unfold Sql.combination
    split_ifs <;> simp only [Condition.textFrom, textsFrom_removedEach h]
  case bound =>
    rw [removed_joined fs hjoins, Option.toList_some, operandsOfEach_singleton,
      operands_combine hnot, operands_combine hnot, operandsOfEach_removedEach h]

/-- A negation leaves no trace when the filter that it negates does not. -/
theorem Traceless.negation {f : Filter} (h : f.Traceless) (r : List Filter) :
    Traceless (.combine notOp (f :: r)) := by
  have htext := h.text
  have hoperands := h.bound
  constructor
  case text =>
    intro alias_ n
    rw [condition, if_pos rfl, Condition.textFrom, htext alias_ n, removed, if_pos rfl]
    cases f.removed with
    | none => rfl
    | some g =>
      rw [Option.map_some, Option.elim_some, Option.elim_some, condition, if_pos rfl,
        Condition.textFrom]
  case bound =>
    rw [operands, if_pos rfl, removed, if_pos rfl, hoperands]
    cases f.removed with
    | none => rfl
    | some g =>
      rw [Option.map_some, Option.toList_some, Option.toList_some, operandsOfEach_singleton,
        operandsOfEach_singleton, operands, if_pos rfl]

theorem strays_of_straysOfEach {fs : List Filter} (h : straysOfEach fs = []) :
    ∀ f ∈ fs, f.strays = [] := by
  induction fs with
  | nil => simp
  | cons f fs ih =>
    rw [straysOfEach, List.append_eq_nil_iff] at h
    exact List.forall_mem_cons.2 ⟨h.1, ih h.2⟩

/-- A comparison leaves no trace: it is dropped before its operand is bound. -/
theorem traceless_compare (path operator : String) (operand : Value) :
    Traceless (.compare path operator operand) := by
  cases hsome : (probe? 0 path operator operand).isSome with
  | true =>
    have hremoved : removed (.compare path operator operand)
        = some (.compare path operator operand) := by rw [removed, if_pos hsome]
    constructor
    case text =>
      intro alias_ n
      rw [hremoved, Option.elim_some]
    case bound => rw [hremoved, Option.toList_some, operandsOfEach_singleton]
  | false =>
    have hremoved : removed (.compare path operator operand) = none := by
      rw [removed, if_neg (by simp [hsome])]
    rw [isSome_probe?, Option.isSome_eq_false_iff, Option.isNone_iff_eq_none] at hsome
    constructor
    case text =>
      intro alias_ n
      rw [hremoved, condition, Sql.comparison, hsome]
      rfl
    case bound =>
      rw [hremoved, operands, isSome_probe?, hsome]
      rfl

/-- **A filter without strays leaves no trace** of the nodes that are dropped. -/
theorem traceless_of_strays {f : Filter} (h : f.strays = []) : f.Traceless := by
  induction f using induction with
  | compare path operator operand => exact traceless_compare path operator operand
  | combine operator fs ih =>
    by_cases hnot : operator = notOp
    · subst hnot
      cases fs with
      | nil =>
        constructor
        case text => intro alias_ n; rfl
        case bound => rfl
      | cons f r =>
        rw [strays, if_pos rfl] at h
        exact (ih f List.mem_cons_self h).negation r
    · cases hjoins : joins operator with
      | true =>
        rw [strays_joined fs hjoins] at h
        exact traceless_joined hjoins fun f hf => ih f hf (strays_of_straysOfEach h f hf)
      -- An unknown operator has no text, and here nothing has been bound below it.
      | false =>
        rw [strays_unknown fs hnot hjoins] at h
        have hremoved := removed_unknown fs hnot hjoins
        constructor
        case text =>
          intro alias_ n
          rw [hremoved, textFrom_unknown fs hnot hjoins]
          rfl
        case bound =>
          rw [hremoved, operands_combine hnot, h]
          rfl
  | bare =>
    constructor
    case text => intro alias_ n; rfl
    case bound => rfl

end Filter

namespace Sql

/-! ### Compiling what is left -/

/-- The text and the parameters of a filter that may have been dropped. -/
def filterFrom? (alias_ : String) (n : Nat) : Option Filter → Statement
  | none => ⟨"", []⟩
  | some f => filterFrom alias_ n f

theorem length_parameters_filterFrom? (alias_ : String) (n : Nat) (f? : Option Filter) :
    (filterFrom? alias_ n f?).parameters.length = (Filter.operandsOfEach f?.toList).length := by
  cases f? with
  | none => rfl
  | some f =>
    rw [Option.toList_some, Filter.operandsOfEach_singleton, ← Filter.values_condition]
    exact length_numbered n _

/-- **A filter compiles to what is left of it** without the nodes that are dropped exactly when no
operand is bound below an unknown operator. -/
theorem filterFrom_removed (alias_ : String) (n : Nat) (f : Filter) :
    filterFrom alias_ n f = filterFrom? alias_ n f.removed ↔ f.strays = [] := by
  constructor
  · -- Without the dropped nodes there are as many parameters fewer as there are strays.
    intro heq
    have hlength := congrArg (·.parameters.length) heq
    have hbound := Filter.length_operands_removed f
    rw [length_parameters_filterFrom?, filterFrom, length_numbered, Filter.values_condition]
      at hlength
    apply List.eq_nil_of_length_eq_zero
    omega
  · intro hstrays
    obtain ⟨htext, hoperands⟩ := Filter.traceless_of_strays hstrays
    rw [filterFrom, htext, Filter.values_condition, hoperands]
    cases f.removed with
    | none => rfl
    | some g =>
      rw [Option.toList_some, Filter.operandsOfEach_singleton, ← Filter.values_condition]
      rfl

/-- **An unknown operator leaves a trace**: the operand below it is bound, and the comparison behind
it has the placeholder of the second value. -/
theorem unknown_operator_binds :
    let f : Filter := .combine Filter.andOp
      [.combine "XOR" [.compare "a" "$eq" (.int 1)], .compare "b" "$eq" (.int 2)]
    f.removed = some (.combine Filter.andOp [.compare "b" "$eq" (.int 2)])
      ∧ filterFrom documentAlias 0 f = ⟨"c.b = @p1", [⟨"@p0", .int 1⟩, ⟨"@p1", .int 2⟩]⟩
      ∧ filterFrom? documentAlias 0 f.removed = ⟨"c.b = @p0", [⟨"@p0", .int 2⟩]⟩
      ∧ f.strays = [.int 1] := by
  refine ⟨rfl, ?_, ?_, rfl⟩
  · rfl
  · rfl

end Sql

end EntityStore
