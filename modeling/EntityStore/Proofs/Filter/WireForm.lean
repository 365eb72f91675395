import EntityStore.Proofs.Filter.Surviving
import EntityStore.Sql.Statement

/-!
# Wire form and back

A filter is expressible when every combination in it is a conjunction, a disjunction or the negation
of one filter, and no comparison in it is at a path that reads as the name of an operator.

The expressible filters are the ones that have a wire form (`expressible_iff`).  A wire form is an
object with a single field, and where a reader puts the filters of an object together, a single one
stands for itself, so what is written for a filter reads back as that filter and not as a
conjunction of it (`reads_toWire?`).  Conversely whatever is read from an object or a list is
expressible (`expressible_ofWire`): a name that begins with `$` and is not that of one of the three
operators is passed over.
-/

namespace EntityStore.Filter

/-- **A filter that can be written in wire form.** -/
inductive Expressible : Filter → Prop
  | compare {path : String} (hpath : isOperatorName path = false) (operator : String)
    (operand : Value) : Expressible (.compare path operator operand)
  | conjunction {fs : List Filter} (h : ∀ f ∈ fs, Expressible f) : Expressible (.combine andOp fs)
  | disjunction {fs : List Filter} (h : ∀ f ∈ fs, Expressible f) : Expressible (.combine orOp fs)
  | negation {f : Filter} (h : Expressible f) : Expressible (.combine notOp [f])

/-! ### Writing -/

/-- The wire forms of a list of filters are those of the filters, one by one. -/
theorem toWireList?_eq_some_iff {fs : List Filter} {ws : List Value} :
    toWireList? fs = some ws ↔ List.Forall₂ (fun f w => f.toWire? = some w) fs ws := by
  induction fs generalizing ws with
  | nil =>
    rw [toWireList?, List.forall₂_nil_left_iff, Option.some_inj]
    exact eq_comm
  | cons f fs ih =>
    rw [toWireList?, List.forall₂_cons_left_iff]
    constructor
    · intro h
      split at h
      · rename_i w ws' hw hws
        cases h
        exact ⟨w, ws', hw, ih.1 hws, rfl⟩
      · contradiction
    · rintro ⟨w, ws', hw, hws, rfl⟩
      rw [hw, ih.2 hws]

theorem exists_toWireList? {fs : List Filter} (h : ∀ f ∈ fs, ∃ w, f.toWire? = some w) :
    ∃ ws, toWireList? fs = some ws := by
  induction fs with
  | nil => exact ⟨[], rfl⟩
  | cons f fs ih =>
    obtain ⟨w, hw⟩ := h f List.mem_cons_self
    obtain ⟨ws, hws⟩ := ih fun g hg => h g (List.mem_cons_of_mem f hg)
    refine ⟨w :: ws, ?_⟩
    rw [toWireList?, hw, hws]

/-- **An expressible filter has a wire form.** -/
theorem Expressible.exists_toWire? {f : Filter} (h : f.Expressible) : ∃ v, f.toWire? = some v := by
  induction h with
  | compare hpath operator operand =>
    rw [toWire?, hpath]
    exact ⟨_, rfl⟩
  | conjunction _ ih | disjunction _ ih =>
    obtain ⟨ws, hws⟩ := exists_toWireList? ih
    rw [toWire?, hws]
    exact ⟨_, rfl⟩
  | negation _ ih =>
    obtain ⟨w, hw⟩ := ih
    rw [toWire?, toWireList?, hw, toWireList?]
    exact ⟨_, rfl⟩

/-! ### Reading what was written -/

/-- A value is an object, and reads as a filter. -/
def Reads (v : Value) (f : Filter) : Prop :=
  ∃ fields, v = .object fields ∧ Filter.conjunction (ofFields fields) = f

theorem ofItems_of_forall₂ {ws : List Value} {fs : List Filter} (h : List.Forall₂ Reads ws fs) :
    ofItems ws = fs := by
  induction h with
  | nil => rfl
  | cons hfirst _ ih =>
    obtain ⟨fields, rfl, hfields⟩ := hfirst
    rw [ofItems, hfields, ih]

/-- The wire forms of filters that read back read back. -/
theorem reads_toWireList? {fs : List Filter} (h : ∀ f ∈ fs, ∀ v, f.toWire? = some v → Reads v f)
    {ws : List Value} (hws : toWireList? fs = some ws) : List.Forall₂ Reads ws fs := by
  have hforms := toWireList?_eq_some_iff.1 hws
  induction hforms with
  | nil => exact .nil
  | @cons f w fs ws hw hrest ih =>
    refine .cons (h f List.mem_cons_self w hw) ?_
    exact ih (fun g hg => h g (List.mem_cons_of_mem f hg)) (toWireList?_eq_some_iff.2 hrest)

/-- **What is written for a filter reads as the filter.** -/
theorem reads_toWire? (f : Filter) {v : Value} (hv : f.toWire? = some v) : Reads v f := by
  induction f using Filter.induction generalizing v with
  | compare path operator operand =>
    rw [toWire?] at hv
    split_ifs at hv with hpath
    cases hv
    -- A path that is written is no operator's name, so it is read as a path.
    have hnot : path ≠ "$not" := by
      rintro rfl
      exact hpath rfl
    refine ⟨_, rfl, ?_⟩
    rw [ofFields, ofField, if_neg hnot, if_neg hpath]
    rfl
  | combine operator fs ih =>
    rw [toWire?] at hv
    split at hv
    · contradiction
    · rename_i ws hws
      have hreads := reads_toWireList? (fun f hf _ => ih f hf) hws
      have hitems := ofItems_of_forall₂ hreads
      split_ifs at hv with hand hor hnot
      · -- `$and`, then `$or`: the parts are read back one by one.
        cases hv
        refine ⟨_, rfl, ?_⟩
        rw [ofFields, ofField, hitems, hand]
        rfl
      · cases hv
        refine ⟨_, rfl, ?_⟩
        rw [ofFields, ofField, hitems, hor]
        rfl
      · -- A negation is written as a field that holds the wire form of the negated filter.
        split at hv
        · cases hv
          obtain ⟨f, fs, ⟨fields, rfl, hfields⟩, hnone, rfl⟩ := List.forall₂_cons_left_iff.1 hreads
          cases hnone
          refine ⟨_, rfl, ?_⟩
          rw [ofFields, ofField, if_pos rfl, hfields, hnot]
          rfl
        · contradiction
  | bare => contradiction

/-! ### Whatever is read -/

theorem expressible_conjunction {fs : List Filter} (h : ∀ f ∈ fs, Expressible f) :
    Expressible (Filter.conjunction fs) := by
  unfold Filter.conjunction
  split
  · exact h _ List.mem_cons_self
  · exact .conjunction h

theorem expressible_comparisons {path : String} (hpath : isOperatorName path = false) (v : Value) :
    ∀ f ∈ comparisons path v, Expressible f := by
  intro f hf
  unfold comparisons at hf
  split at hf
  · contradiction
  · contradiction
  · contradiction
  · obtain ⟨p, -, rfl⟩ := List.mem_map.1 hf
    exact .compare hpath ..
  · rw [List.mem_singleton] at hf
    subst hf
    exact .compare hpath ..

/-- A field that does not hold filters. -/
theorem expressible_literal (name : String) (v : Value) :
    ∀ f ∈ (if isOperatorName name then [] else comparisons name v), Expressible f := by
  intro f hf
  split_ifs at hf with hname
  · contradiction
  · exact expressible_comparisons (eq_false_of_ne_true hname) v f hf

theorem expressible_ofSequence (name : String) {fs : List Filter} (h : ∀ f ∈ fs, Expressible f)
    (v : Value) : ∀ f ∈ ofField.ofSequence name fs v, Expressible f := by
  intro f hf
  unfold ofField.ofSequence at hf
  split_ifs at hf with hand hor hname
  · rw [List.mem_singleton] at hf
    subst hf
    exact .conjunction h
  · rw [List.mem_singleton] at hf
    subst hf
    exact .disjunction h
  · contradiction
  · exact expressible_comparisons (eq_false_of_ne_true hname) v f hf

mutual

theorem expressible_ofFields :
    (fields : List (String × Value)) → ∀ f ∈ ofFields fields, Expressible f
  | [], f, hf => absurd hf List.not_mem_nil
  | (name, v) :: r, f, hf => by
    rw [ofFields, List.mem_append] at hf
    rcases hf with hf | hf
    · exact expressible_ofField name v f hf
    · exact expressible_ofFields r f hf

theorem expressible_ofField (name : String) : (v : Value) → ∀ f ∈ ofField name v, Expressible f
  | .object fields, f, hf => by
    rw [ofField] at hf
    split_ifs at hf with hnot hname
    · rw [List.mem_singleton] at hf
      subst hf
      exact .negation (expressible_conjunction (expressible_ofFields fields))
    · contradiction
    · exact expressible_comparisons (eq_false_of_ne_true hname) _ f hf
  | .list items, f, hf => expressible_ofSequence name (expressible_ofItems items) (.list items) f hf
  | .tuple items, f, hf =>
    expressible_ofSequence name (expressible_ofItems items) (.tuple items) f hf
  | .scalar s, f, hf => expressible_literal name (.scalar s) f hf
  | .filter g, f, hf => expressible_literal name (.filter g) f hf

theorem expressible_ofItems : (items : List Value) → ∀ f ∈ ofItems items, Expressible f
  | [], f, hf => absurd hf List.not_mem_nil
  | .object fields :: r, f, hf => by
    rw [ofItems] at hf
    rcases List.mem_cons.1 hf with rfl | hf
    · exact expressible_conjunction (expressible_ofFields fields)
    · exact expressible_ofItems r f hf
  | .list _ :: r, f, hf => expressible_ofItems r f hf
  | .tuple _ :: r, f, hf => expressible_ofItems r f hf
  | .scalar _ :: r, f, hf => expressible_ofItems r f hf
  | .filter _ :: r, f, hf => expressible_ofItems r f hf

end

/-- **A filter that is read from an object or a list** is expressible.  One that was a filter
already stays what it was. -/
theorem expressible_ofWire {v : Value} {f : Filter} (h : ofWire v = .ok f)
    (hv : ∀ g, v ≠ .filter g) : f.Expressible := by
  unfold ofWire at h
  split at h
  · contradiction
  · rename_i g
    exact absurd rfl (hv g)
  · cases h
    exact expressible_conjunction (expressible_ofFields _)
  · cases h
    exact expressible_conjunction (expressible_ofItems _)
  · cases h
    exact expressible_conjunction (expressible_ofItems _)
  · contradiction

/-- **The filters that have a wire form** are the expressible ones. -/
theorem expressible_iff {f : Filter} : f.Expressible ↔ ∃ v, f.toWire? = some v := by
  constructor
  · exact Expressible.exists_toWire?
  · rintro ⟨v, hv⟩
    obtain ⟨fields, rfl, rfl⟩ := reads_toWire? f hv
    exact expressible_conjunction (expressible_ofFields fields)

/-! ### The two forms of a filter -/

/-- A value that reads as a filter has the statements of that filter. -/
theorem whereText_eq {v : Value} {f : Filter} (h : ofWire v = .ok f) :
    Sql.whereText v = Sql.whereText (.filter f) := by
  cases hnull : v.isNull with
  | true =>
    unfold Value.isNull at hnull
    split at hnull
    · contradiction
    · contradiction
  | false =>
    rw [Sql.whereText, hnull, h]
    rfl

/-- **Wire form and filters are one language.**  An expressible filter has a wire form, an object,
that reads back as the filter, and with either of the two a query has the same statements.
Conversely whatever an object or a list reads as is expressible. -/
theorem expressible_round_trip :
    (∀ f : Filter, f.Expressible →
      ∃ fields, f.toWire? = some (.object fields) ∧ ofWire (.object fields) = .ok f
        ∧ Sql.whereText (.object fields) = .ok (Sql.filterFrom Sql.documentAlias 0 f)
        ∧ ∀ q : Query,
          Sql.selectStatement { q with filter := .object fields }
            = Sql.selectStatement { q with filter := .filter f }
          ∧ Sql.countStatement { q with filter := .object fields }
            = Sql.countStatement { q with filter := .filter f })
      ∧ ∀ (v : Value) (f : Filter), (v.isObject || v.isSequence) = true → ofWire v = .ok f →
        f.Expressible := by
  constructor
  · intro f hf
    obtain ⟨v, hv⟩ := hf.exists_toWire?
    obtain ⟨fields, rfl, hfields⟩ := reads_toWire? f hv
    have hreads : ofWire (.object fields) = .ok f := by rw [ofWire, hfields]
    -- Statements are made from the text, so all of them agree.
    have htext := whereText_eq hreads
    refine ⟨fields, hv, hreads, htext, fun q => ⟨?_, ?_⟩⟩
    · rw [Sql.selectStatement, Sql.selectStatement, htext]
    · rw [Sql.countStatement, Sql.countStatement, htext]
  · intro v f hv h
    refine expressible_ofWire h ?_
    rintro g rfl
    contradiction

/-- The negation of a disjunction one part of which has no parts. -/
theorem expressible_round_trip_not_or :
    let f := ((Filter.compare "a" "$gt" (.int 1)).or (.combine andOp [])).not
    let v := Value.object [("$not", .object [("$or", .list
      [.object [("a", .object [("$gt", .int 1)])], .object [("$and", .list [])]])])]
    f.toWire? = some v ∧ ofWire v = .ok f ∧ f.Expressible := by
  intro f v
  have hparts : ∀ g ∈ [Filter.compare "a" "$gt" (.int 1), .combine andOp []], Expressible g := by
    intro g hg
    rcases List.mem_cons.1 hg with rfl | hg
    · exact .compare rfl ..
    · rw [List.mem_singleton.1 hg]
      exact .conjunction fun _ h => absurd h List.not_mem_nil
  have hf : f.Expressible := .negation (.disjunction hparts)
  have hv : f.toWire? = some v := rfl
  obtain ⟨fields, hwire, hread, -⟩ := expressible_round_trip.1 f hf
  rw [hv, Option.some_inj] at hwire
  rw [← hwire] at hread
  exact ⟨hv, hread, expressible_round_trip.2 v f rfl hread⟩

end EntityStore.Filter
