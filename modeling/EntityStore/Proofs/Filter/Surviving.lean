import EntityStore.Proofs.Sql.Condition

/-!
# What survives of a filter

A comparison survives when its operator is known and has a use for the operand (`Filter.probe?`).
`Filter.surviving?` says what is left of a filter, as a formula in which the operands are numbered
in the order in which they are bound.

It is what the condition of the filter says (`formula?_condition`), whatever the operators in the
filter are; and the operands are those that the condition binds (`values_condition`).
-/

namespace EntityStore.Filter

open Sql (Condition Formula Probe placeholder routeOf unlessNone)

/-- What holds of a filter whenever it holds of its parts holds of every filter. -/
@[elab_as_elim]
theorem induction {motive : Filter → Prop}
    (compare : ∀ path operator operand, motive (.compare path operator operand))
    (combine : ∀ operator fs, (∀ f ∈ fs, motive f) → motive (.combine operator fs))
    (bare : motive .bare) (f : Filter) : motive f :=
  Filter.rec (motive_1 := fun _ => True) (motive_2 := motive) (motive_3 := fun _ => True)
    (motive_4 := fun _ => True) (motive_5 := fun fs => ∀ f ∈ fs, motive f) (motive_6 := fun _ => True)
    (fun _ => trivial) (fun _ _ => trivial) (fun _ _ => trivial) (fun _ _ => trivial)
    (fun _ _ => trivial) (fun path operator operand _ => compare path operator operand) combine bare
    trivial (fun _ _ _ _ => trivial) trivial (fun _ _ _ _ => trivial)
    (fun _ hf => absurd hf List.not_mem_nil)
    (fun _ _ hf hfs g hg => (List.mem_cons.1 hg).elim (fun h => h ▸ hf) (hfs g))
    (fun _ _ _ => trivial) f

/-! ### Comparisons -/

/-- **What a comparison asks** of the field at a path, when its operand is the `n`-th bound one;
`none` when the operator is unknown or has no use for the operand. -/
def probe? (n : Nat) (path operator : String) (operand : Value) : Option Probe :=
  if operand.isNull then none
  else
    match operator with
    | "$eq" => some (.compare .eq (routeOf path) (placeholder n))
    | "$ne" => some (.compare .ne (routeOf path) (placeholder n))
    | "$gt" => ordered .gt
    | "$gte" => ordered .ge
    | "$lt" => ordered .lt
    | "$lte" => ordered .le
    | "$in" => member false
    | "$nin" => member true
    | "$exists" => presence operand
    | "$regex" => onText .matchesRegex
    | "$sw" => onText .startsWith
    | "$nsw" => onText .notStartsWith
    | _ => none
where
  /-- An order needs an operand without parts. -/
  ordered (c : Sql.Comparator) : Option Probe :=
    if operand.isObject || operand.isSequence then none
    else some (.compare c (routeOf path) (placeholder n))
  /-- A membership needs a list. -/
  member (negated : Bool) : Option Probe :=
    if operand.isSequence then some (.member negated (routeOf path) (placeholder n)) else none
  /-- A presence needs a truth value. -/
  presence : Value → Option Probe
    | .bool b => some (.presence b (routeOf path))
    | _ => none
  /-- A test on texts needs a text. -/
  onText (t : Sql.TextTest) : Option Probe :=
    if operand.text?.isSome then some (.onText t (routeOf path) (placeholder n)) else none

/-- An operand as it is bound: a tuple becomes a list, and nothing else changes. -/
def listed : Value → Value
  | .tuple items => .list items
  | v => v

/-- The operand that a comparison binds.  A comparison for presence binds none. -/
def bound (operator : String) (operand : Value) : List Value :=
  if operator = "$exists" then [] else [listed operand]

/-- No operator has a use for the absent value. -/
theorem test?_null (o : Sql.Operator) : o.test? .null = none := by
  cases o <;> rfl

section

variable {operand : Value} (hne : operand ≠ .null) (n : Nat) (path : String)

include hne

/-- An operand that is there can be compared, for an order only when it has no parts. -/
theorem test?_compare (c : Sql.Comparator) :
    ((Sql.Operator.compare c).test? operand).map (·.probe path n)
      = if c.isOrder then probe?.ordered n path operand c
        else some (.compare c (routeOf path) (placeholder n)) := by
  rw [Sql.Operator.test?, probe?.ordered]
  · cases c.isOrder with
    | true =>
      rw [Bool.true_and, if_pos rfl, apply_ite (Option.map _)]
      rfl
    | false => rfl
  · exact hne

theorem test?_member (negated : Bool) :
    ((Sql.Operator.member negated).test? operand).map (·.probe path n)
      = probe?.member n path operand negated := by
  rw [Sql.Operator.test?, probe?.member, apply_ite (Option.map _)]
  · rfl
  · exact hne

theorem test?_presence :
    (Sql.Operator.presence.test? operand).map (·.probe path n) = probe?.presence path operand := by
  unfold Sql.Operator.test? probe?.presence
  cases operand with
  | scalar s => cases s <;> rfl
  | list | tuple | object | filter => rfl

theorem test?_onText (t : Sql.TextTest) :
    ((Sql.Operator.onText t).test? operand).map (·.probe path n)
      = probe?.onText n path operand t := by
  rw [Sql.Operator.test?, probe?.onText]
  · cases operand.text? <;> rfl
  · exact hne

end

/-- A comparison asks what the test that is made of it asks. -/
theorem probe?_eq (n : Nat) (path operator : String) (operand : Value) :
    probe? n path operator operand
      = ((Sql.Operator.ofName? operator).bind (·.test? operand)).map (·.probe path n) := by
  rw [probe?.eq_def]
  split_ifs with hnull
  · -- Of null no operator makes a test.
    have hvalue : operand = .null := by
      unfold Value.isNull at hnull
      split at hnull
      · rfl
      · contradiction
    rw [hvalue]
    cases Sql.Operator.ofName? operator with
    | none => rfl
    | some o => rw [Option.bind_some, test?_null, Option.map_none]
  · -- Of anything else each operator has its own.
    have hne : operand ≠ .null := by
      rintro rfl
      contradiction
    split
    · exact (test?_compare hne n path .eq).symm
    · exact (test?_compare hne n path .ne).symm
    · exact (test?_compare hne n path .gt).symm
    · exact (test?_compare hne n path .ge).symm
    · exact (test?_compare hne n path .lt).symm
    · exact (test?_compare hne n path .le).symm
    · exact (test?_member hne n path false).symm
    · exact (test?_member hne n path true).symm
    · exact (test?_presence hne n path).symm
    · exact (test?_onText hne n path .matchesRegex).symm
    · exact (test?_onText hne n path .startsWith).symm
    · exact (test?_onText hne n path .notStartsWith).symm
    · have hunknown : Sql.Operator.ofName? operator = none := by
        rw [Sql.Operator.ofName?] <;> assumption
      rw [hunknown, Option.bind_none, Option.map_none]

theorem boundValue_eq (operand : Value) : Sql.boundValue operand = listed operand := by
  cases operand <;> rfl

/-- Only the operator for presence binds nothing. -/
theorem values_of_test? {operator : String} {operand : Value} {t : Sql.Test}
    (h : (Sql.Operator.ofName? operator).bind (·.test? operand) = some t) :
    t.values = bound operator operand := by
  obtain ⟨o, ho, ht⟩ := Option.bind_eq_some_iff.1 h
  have hpresence : o = .presence ↔ operator = "$exists" := by
    unfold Sql.Operator.ofName? at ho
    split at ho <;> cases ho <;> simp
  -- Only the test for presence binds nothing.
  by_cases hexists : operator = "$exists"
  · obtain rfl := hpresence.2 hexists
    rw [bound, if_pos hexists]
    unfold Sql.Operator.test? at ht
    split at ht
    · contradiction
    · contradiction
    · contradiction
    · cases ht
      rfl
    · contradiction
    · contradiction
  · rw [bound, if_neg hexists, ← boundValue_eq]
    unfold Sql.Operator.test? at ht
    split at ht
    · contradiction
    · split_ifs at ht
      cases ht
      rfl
    · split_ifs at ht
      cases ht
      rfl
    · exact absurd (hpresence.1 rfl) hexists
    · exact absurd (hpresence.1 rfl) hexists
    · obtain ⟨_, -, rfl⟩ := Option.map_eq_some_iff.1 ht
      rfl

/-! ### Any filter -/

mutual

/-- **The operands that are bound** for a filter, from left to right.  Those inside a negation are
those of the filter that it negates, the first. -/
def operands : Filter → List Value
  | .compare path operator operand =>
    if (probe? 0 path operator operand).isSome then bound operator operand else []
  | .combine _ [] => []
  | .combine operator (f :: r) =>
    if operator = notOp then f.operands else f.operands ++ operandsOfEach r
  | .bare => []

/-- The operands that are bound for a list of filters. -/
def operandsOfEach : List Filter → List Value
  | [] => []
  | f :: r => f.operands ++ operandsOfEach r

end

/-- What is left of a combination of which these parts are left. -/
def combined? (operator : String) (parts : List Formula) : Option Formula :=
  if operator = andOp then unlessNone .all parts
  else if operator = orOp then unlessNone .any parts
  else none

mutual

/-- **What is left of a filter** whose first operand is the `n`-th that is bound; `none` when
nothing is left. -/
def surviving? (n : Nat) : Filter → Option Formula
  | .compare path operator operand => (probe? n path operator operand).map .probe
  | .combine _ [] => none
  | .combine operator (f :: r) =>
    if operator = notOp then (f.surviving? n).map .negation
    else
      combined? operator
        ((f.surviving? n).toList ++ survivingOfEach (n + f.operands.length) r)
  | .bare => none

/-- What is left of each of a list of filters. -/
def survivingOfEach (n : Nat) : List Filter → List Formula
  | [] => []
  | f :: r => (f.surviving? n).toList ++ survivingOfEach (n + f.operands.length) r

end

/-- Whether a comparison survives does not depend on its number. -/
theorem isSome_probe? (n : Nat) (path operator : String) (operand : Value) :
    (probe? n path operator operand).isSome
      = ((Sql.Operator.ofName? operator).bind (·.test? operand)).isSome := by
  rw [probe?_eq, Option.isSome_map]

theorem values_combination (operator : String) (parts : List Condition) :
    (Sql.combination operator parts).values = Condition.valuesOfParts parts := by
  unfold Sql.combination
  split_ifs <;> rw [Condition.values]

theorem formula?_combination (n : Nat) (operator : String) (parts : List Condition) :
    (Sql.combination operator parts).formula? n
      = combined? operator (Condition.formulas n parts) := by
  unfold Sql.combination combined?
  split_ifs <;> rw [Condition.formula?]

theorem valuesOfParts_conditions {fs : List Filter}
    (h : ∀ f ∈ fs, f.condition.values = f.operands) :
    Condition.valuesOfParts (conditions fs) = operandsOfEach fs := by
  induction fs with
  | nil => rfl
  | cons f fs ih =>
    rw [conditions, Condition.valuesOfParts, operandsOfEach, h f List.mem_cons_self,
      ih fun g hg => h g (List.mem_cons_of_mem f hg)]

/-- **The operands that a filter binds** are those of its condition. -/
theorem values_condition (f : Filter) : f.condition.values = f.operands := by
  induction f using induction with
  | compare path operator operand =>
    rw [condition, operands, isSome_probe?, Sql.comparison]
    cases htest : (Sql.Operator.ofName? operator).bind (·.test? operand) with
    | none => rfl
    | some t => exact values_of_test? htest
  | combine operator fs ih =>
    cases fs with
    | nil =>
      rw [condition, operands]
      split_ifs
      · rfl
      · rw [values_combination, Condition.valuesOfParts]
    | cons f r =>
      rw [condition, operands]
      split_ifs
      · rw [Condition.values, ih f List.mem_cons_self]
      · rw [values_combination, ← conditions, valuesOfParts_conditions ih, operandsOfEach]
  | bare => rfl

theorem formulas_conditions {fs : List Filter}
    (h : ∀ f ∈ fs, ∀ n, f.condition.formula? n = f.surviving? n) (n : Nat) :
    Condition.formulas n (conditions fs) = survivingOfEach n fs := by
  induction fs generalizing n with
  | nil => rfl
  | cons f fs ih =>
    rw [conditions, Condition.formulas, survivingOfEach, h f List.mem_cons_self, values_condition,
      ih fun g hg => h g (List.mem_cons_of_mem f hg)]

/-- **What is left of a filter is what its condition says.** -/
theorem formula?_condition (n : Nat) (f : Filter) : f.condition.formula? n = f.surviving? n := by
  induction f using induction generalizing n with
  | compare path operator operand =>
    rw [condition, surviving?, probe?_eq, Sql.comparison]
    cases (Sql.Operator.ofName? operator).bind (·.test? operand) <;> rfl
  | combine operator fs ih =>
    cases fs with
    | nil =>
      rw [condition, surviving?]
      split_ifs
      · rfl
      · rw [formula?_combination, combined?]
        split_ifs <;> rfl
    | cons f r =>
      rw [condition, surviving?]
      split_ifs
      · rw [Condition.formula?, ih f List.mem_cons_self]
      · rw [formula?_combination, ← conditions, formulas_conditions ih, survivingOfEach]
  | bare => rfl

end EntityStore.Filter
