import EntityStore.Proofs.Filter.Surviving
import EntityStore.Sql.Statement

/-!
# Outlines of filters

The outline of a filter in wire form is what is left of it when every operand gives way to an
empty value of its kind (`Value.outline`).  Names and their order, the nesting of logical
operators and the flags of tests for presence stay.  Two filters have the same outline when they
ask the same of the same fields, of operands of the same kinds.

The filter that an outline stands for is the outline of the filter (`ofWire_outline`), and a filter
has the text of its outline, with as many bound values (`sameWords_outline`).  So the words of a
statement, its text and the names of its parameters, are the same for all filters with one outline
(`selectStatement_of_outline`): whatever a caller puts into an operand, none of it comes to stand in
the text.
-/

namespace EntityStore

/-! ### Kinds of operands -/

/-- **An empty value of the same kind.**  Numbers of all sorts, times and days are one kind, and so
are lists and tuples. -/
def Value.kind : Value → Value
  | .null => .null
  | .bool _ => .bool false
  | .str _ => .str ""
  | .scalar (.bytes _) => .scalar (.bytes [])
  | .scalar _ => .int 0
  | .list _ | .tuple _ => .list []
  | .object _ => .object []
  | .filter _ => .filter .bare

namespace Filter

/-! ### Outlines -/

/-- The outline of an operand.  The flag of a test for presence is no operand, and stays. -/
def outlineOperand (operator : String) (operand : Value) : Value :=
  match operand with
  | .bool b => if operator = "$exists" then .bool b else .bool false
  | v => v.kind

mutual

/-- The outline of a filter. -/
def outline : Filter → Filter
  | .compare path operator operand => .compare path operator (outlineOperand operator operand)
  | .combine operator children => .combine operator (outlineEach children)
  | .bare => .bare

/-- The outlines of a list of filters. -/
def outlineEach : List Filter → List Filter
  | [] => []
  | f :: r => f.outline :: outlineEach r

end

/-- Whether a list of filters can stand under a name. -/
def isJunction (name : String) : Bool := name = "$and" || name = "$or"

mutual

/-- The outlines of the fields of an object, each under its name. -/
def outlineFields : List (String × Value) → List (String × Value)
  | [] => []
  | (name, v) :: r => (name, outlineField name v) :: outlineFields r

/-- The outline of what stands under a name: a filter, a list of filters, operators with their
operands, or an operand. -/
def outlineField (name : String) : Value → Value
  | .object fields =>
    if name = "$not" then .object (outlineFields fields)
    else if isOperatorName name then .object []
    else .object (fields.map fun (operator, v) => (operator, outlineOperand operator v))
  | .list items | .tuple items => if isJunction name then .list (outlineItems items) else .list []
  | v => v.kind

/-- The outlines of the items of a list of filters. -/
def outlineItems : List Value → List Value
  | [] => []
  | .object fields :: r => .object (outlineFields fields) :: outlineItems r
  | v :: r => v.kind :: outlineItems r

end

end Filter

/-- **The outline of a filter in wire form.** -/
def Value.outline : Value → Value
  | .object fields => .object (Filter.outlineFields fields)
  | .list items | .tuple items => .list (Filter.outlineItems items)
  | v => v

namespace Filter

open Sql (Condition)

/-! ### The filter of an outline -/

theorem outlineEach_eq_map (fs : List Filter) : outlineEach fs = fs.map outline := by
  induction fs with
  | nil => rfl
  | cons f r ih => rw [outlineEach, ih, List.map_cons]

theorem outline_conjunction (fs : List Filter) :
    (conjunction fs).outline = conjunction (fs.map outline) := by
  rcases fs with _ | ⟨f, _ | ⟨g, r⟩⟩ <;> simp [conjunction, outline, outlineEach_eq_map]

/-- Comparing with the outline of a literal. -/
theorem comparisons_kind (name : String) (s : Scalar) :
    comparisons name (Value.scalar s).kind = (comparisons name (.scalar s)).map outline := by
  cases s <;> simp [comparisons, Value.kind, outline, outlineOperand]

theorem comparisons_operators (name : String) (operators : Fields) :
    comparisons name
        (.object (operators.map fun (operator, v) => (operator, outlineOperand operator v)))
      = (comparisons name (.object operators)).map outline := by
  simp [comparisons, outline, Function.comp_def]

/-- A list of filters under a name. -/
theorem ofSequence_outline_junction {name : String} (hname : isJunction name = true)
    (fs : List Filter) (v w : Value) :
    ofField.ofSequence name (fs.map outline) w = (ofField.ofSequence name fs v).map outline := by
  have hcases : name = "$and" ∨ name = "$or" := by simpa [isJunction] using hname
  rcases hcases with rfl | rfl <;>
    simp [ofField.ofSequence, outline, outlineEach_eq_map]

/-- A sequence that is an operand, or stands under a name that asks for nothing. -/
theorem ofSequence_outline_operand {name : String} (hname : isJunction name = false) {v : Value}
    (hv : v.isSequence = true) (fs gs : List Filter) :
    ofField.ofSequence name gs (.list []) = (ofField.ofSequence name fs v).map outline := by
  have hother : name ≠ "$and" ∧ name ≠ "$or" := by simpa [isJunction] using hname
  have hoperand : comparisons name v = [.compare name "$eq" v] := by
    cases v with
    | list | tuple => rfl
    | scalar | object | filter => cases hv
  have hkind : outlineOperand "$eq" v = .list [] := by
    cases v with
    | list | tuple => rfl
    | scalar | object | filter => cases hv
  rw [ofField.ofSequence, ofField.ofSequence, if_neg hother.1, if_neg hother.2, if_neg hother.1,
    if_neg hother.2, hoperand]
  split
  · rfl
  · simp [comparisons, outline, hkind]

/-- What is no object is no filter of a list, and neither is its outline. -/
theorem ofItems_cons_of_not_object {v : Value} (hv : v.isObject = false) (r : List Value) :
    ofItems (v :: r) = ofItems r ∧ ofItems (outlineItems (v :: r)) = ofItems (outlineItems r) := by
  have hitems {w : Value} (hw : w.isObject = false) (l : List Value) :
      ofItems (w :: l) = ofItems l := by
    cases w with
    | object fields => cases hw
    | scalar | list | tuple | filter => rw [ofItems]; simp
  have houtline : outlineItems (v :: r) = v.kind :: outlineItems r := by
    cases v with
    | object fields => cases hv
    | scalar | list | tuple | filter => rw [outlineItems]; simp
  have hkind : v.kind.isObject = false := by
    cases v with
    | object fields => cases hv
    | scalar s => cases s <;> rfl
    | list | tuple | filter => rfl
  exact ⟨hitems hv r, houtline ▸ hitems hkind _⟩

mutual

/-- **What the outlines of fields ask for** are the outlines of what the fields ask for. -/
theorem ofFields_outline : (fields : List (String × Value)) →
    ofFields (outlineFields fields) = (ofFields fields).map outline
  | [] => rfl
  | (name, v) :: r => by
    rw [outlineFields, ofFields, ofFields, ofField_outline name v, ofFields_outline r,
      List.map_append]

theorem ofField_outline (name : String) : (v : Value) →
    ofField name (outlineField name v) = (ofField name v).map outline
  | .object fields => by
    rw [outlineField]
    split
    · -- Under `$not` the fields are a filter of their own.
      next hnot =>
      rw [ofField, ofField, if_pos hnot, if_pos hnot, ofFields_outline fields,
        ← outline_conjunction]
      rfl
    · next hnot =>
      split
      · next hoperator => simp [ofField, hnot, hoperator]
      · next hoperator =>
        rw [ofField, ofField, if_neg hnot, if_neg hnot, if_neg hoperator, if_neg hoperator]
        exact comparisons_operators name fields
  | .list items => by
    rw [outlineField]
    split
    · -- Under `$and` and `$or` the items are filters; under any other name the list is the
      -- operand.
      next hname =>
      rw [ofField, ofField, ofItems_outline items]
      exact ofSequence_outline_junction hname _ _ _
    · next hname =>
      rw [ofField, ofField]
      exact ofSequence_outline_operand (Bool.not_eq_true _ ▸ hname) rfl _ _
  | .tuple items => by
    rw [outlineField]
    split
    · next hname =>
      rw [ofField, ofField, ofItems_outline items]
      exact ofSequence_outline_junction hname _ _ _
    · next hname =>
      rw [ofField, ofField]
      exact ofSequence_outline_operand (Bool.not_eq_true _ ▸ hname) rfl _ _
  | .scalar s => by
    have hfield (t : Scalar) : ofField name (.scalar t)
        = if isOperatorName name then [] else comparisons name (.scalar t) := by
      rw [ofField] <;> simp
    -- A scalar is read by its kind alone.
    have houtline : outlineField name (.scalar s) = (Value.scalar s).kind := by
      rw [outlineField] <;> simp
    obtain ⟨t, ht⟩ : ∃ t, (Value.scalar s).kind = .scalar t := by
      cases s <;> exact ⟨_, rfl⟩
    rw [houtline, ht, hfield, hfield, ← ht, comparisons_kind]
    split <;> rfl
  | .filter f => by
    simp [outlineField, Value.kind, ofField, comparisons]

theorem ofItems_outline : (items : List Value) →
    ofItems (outlineItems items) = (ofItems items).map outline
  | [] => rfl
  | .object fields :: r => by
    rw [outlineItems, ofItems, ofItems, ofFields_outline fields, ofItems_outline r,
      List.map_cons, outline_conjunction]
  | .scalar _ :: r | .list _ :: r | .tuple _ :: r | .filter _ :: r => by
    rw [(ofItems_cons_of_not_object (by rfl) r).2, ofItems_outline r,
      (ofItems_cons_of_not_object (by rfl) r).1]

end

/-- **The filter that an outline stands for** is the outline of the filter. -/
theorem ofWire_outline {v : Value} (hv : v.isObject = true ∨ v.isSequence = true) :
    ∃ f, ofWire v = .ok f ∧ ofWire v.outline = .ok f.outline := by
  cases v with
  | object fields =>
    refine ⟨conjunction (ofFields fields), rfl, ?_⟩
    rw [outline_conjunction, ← ofFields_outline]
    rfl
  | list items | tuple items =>
    refine ⟨conjunction (ofItems items), rfl, ?_⟩
    rw [outline_conjunction, ← ofItems_outline]
    rfl
  | scalar s => rcases hv with h | h <;> cases h
  | filter f => rcases hv with h | h <;> cases h

end Filter

namespace Sql

/-! ### The text of an outline -/

/-- A test of an operand of which only the kind is known. -/
def Test.outline : Test → Test
  | .compare c v => .compare c v.kind
  | .member negated v => .member negated v.kind
  | .presence expected => .presence expected
  | .onText t v => .onText t v.kind

theorem Test.text_outline (t : Test) (ref : String) (n : Nat) :
    t.outline.text ref n = t.text ref n := by
  cases t <;> rfl

theorem Test.length_values_outline (t : Test) : t.outline.values.length = t.values.length := by
  cases t <;> rfl

theorem Operator.eq_presence_iff {name : String} {o : Operator} (h : ofName? name = some o) :
    o = .presence ↔ name = "$exists" := by
  unfold ofName? at h
  split at h <;> cases h <;> simp

/-- Whether an operator has a use for an operand depends on its kind. -/
theorem Operator.test?_kind {o : Operator} (ho : o ≠ .presence) (v : Value) :
    o.test? v.kind = (o.test? v).map Test.outline := by
  cases o with
  | presence => exact absurd rfl ho
  | compare c =>
    cases v with
    | scalar s => cases s <;> simp [test?, Value.kind, Value.isObject, Value.isSequence,
        Value.fields?, Test.outline]
    | list | tuple | object | filter =>
      cases hc : c.isOrder <;> simp [test?, Value.kind, Value.isObject, Value.isSequence,
        Value.fields?, Test.outline, hc]
  | member negated =>
    cases v with
    | scalar s => cases s <;> rfl
    | list | tuple | object | filter => rfl
  | onText t =>
    cases v with
    | scalar s => cases s <;> rfl
    | list | tuple | object | filter => rfl

/-- A test for presence has a use for flags only, and keeps them apart. -/
theorem Operator.test?_flag (v : Value) :
    presence.test? (Filter.outlineOperand "$exists" v) = (presence.test? v).map Test.outline := by
  cases v with
  | scalar s => cases s <;> rfl
  | list | tuple | object | filter => rfl

theorem test?_outlineOperand (operator : String) (v : Value) :
    (Operator.ofName? operator).bind (·.test? (Filter.outlineOperand operator v))
      = ((Operator.ofName? operator).bind (·.test? v)).map Test.outline := by
  cases ho : Operator.ofName? operator with
  | none => rfl
  | some o =>
    rw [Option.bind_some, Option.bind_some]
    -- Only the operand of a test for presence keeps its value in the outline.
    by_cases hpresence : o = .presence
    · obtain rfl := hpresence
      rw [(Operator.eq_presence_iff ho).1 rfl]
      exact Operator.test?_flag v
    · have hname : operator ≠ "$exists" := fun h => hpresence ((Operator.eq_presence_iff ho).2 h)
      have hkind : Filter.outlineOperand operator v = v.kind := by
        unfold Filter.outlineOperand
        split
        · rw [if_neg hname]
          rfl
        · rfl
      rw [hkind, Operator.test?_kind hpresence]

/-- **Two conditions in the same words**: they have the same text, and bind equally many values. -/
structure Condition.SameWords (c d : Condition) : Prop where
  text : ∀ alias_ n, c.textFrom alias_ n = d.textFrom alias_ n
  length : c.values.length = d.values.length

theorem Condition.SameWords.refl (c : Condition) : c.SameWords c := ⟨fun _ _ => rfl, rfl⟩

theorem comparison_outlineOperand (path operator : String) (v : Value) :
    (comparison path operator (Filter.outlineOperand operator v)).SameWords
      (comparison path operator v) := by
  rw [comparison, comparison, test?_outlineOperand]
  cases (Operator.ofName? operator).bind (·.test? v) with
  | none => exact .refl _
  | some t =>
    rw [Option.map_some]
    constructor
    case text =>
      intro alias_ n
      exact t.text_outline _ n
    case length => exact t.length_values_outline

/-- Lists of conditions in the same words. -/
theorem Condition.sameWords_list {cs ds : List Condition}
    (h : List.Forall₂ Condition.SameWords cs ds) :
    (∀ alias_ n, textsFrom alias_ n cs = textsFrom alias_ n ds)
      ∧ (valuesOfParts cs).length = (valuesOfParts ds).length := by
  induction h with
  | nil => exact ⟨fun _ _ => rfl, rfl⟩
  | cons hc _ ih =>
    obtain ⟨htexts, hlength⟩ := ih
    constructor
    · intro alias_ n
      rw [textsFrom, textsFrom, hc.text, hc.length, htexts]
    · rw [valuesOfParts, valuesOfParts, List.length_append, List.length_append, hc.length, hlength]

theorem sameWords_combination (operator : String) {cs ds : List Condition}
    (h : List.Forall₂ Condition.SameWords cs ds) :
    (combination operator cs).SameWords (combination operator ds) := by
  obtain ⟨htexts, hlength⟩ := Condition.sameWords_list h
  unfold combination
  split_ifs <;> constructor <;> simp [Condition.textFrom, Condition.values, htexts, hlength]

end Sql

namespace Filter

open Sql (Condition)

theorem forall₂_outlineEach {fs : List Filter}
    (h : ∀ f ∈ fs, f.outline.condition.SameWords f.condition) :
    List.Forall₂ Condition.SameWords (conditions (outlineEach fs)) (conditions fs) := by
  induction fs with
  | nil => exact .nil
  | cons f r ih =>
    exact .cons (h f List.mem_cons_self) (ih fun g hg => h g (List.mem_cons_of_mem f hg))

/-- **A filter has the text of its outline**, and binds as many values. -/
theorem sameWords_outline (f : Filter) : f.outline.condition.SameWords f.condition := by
  induction f using induction with
  | compare path operator operand => exact Sql.comparison_outlineOperand path operator operand
  | combine operator fs ih =>
    have hparts := forall₂_outlineEach ih
    cases fs with
    | nil => exact .refl _
    | cons f r =>
      rw [outline, outlineEach, condition, condition]
      split_ifs with hnot
      · have hf := ih f List.mem_cons_self
        constructor
        · intro alias_ n
          rw [Condition.textFrom, Condition.textFrom, hf.text]
        · rw [Condition.values, Condition.values, hf.length]
      · exact Sql.sameWords_combination operator hparts
  | bare => exact .refl _

end Filter

/-! ### Statements -/

/-- **Two statements in the same words**: they have the same text and the same names of parameters,
and differ in the values of the parameters at most. -/
structure Statement.SameWords (s t : Statement) : Prop where
  text : s.text = t.text
  names : s.parameters.map (·.name) = t.parameters.map (·.name)

namespace Sql

/-- The names of the parameters of a list of values depend on how many there are. -/
theorem names_numbered (n : Nat) (values : List Value) :
    (numbered n values).map (·.name)
      = (List.range values.length).map fun i => placeholder (n + i) := by
  refine List.ext_getElem (by simp [numbered]) ?_
  intro i _ _
  simp [numbered]

theorem sameWords_filterFrom {f g : Filter} (h : f.outline = g.outline) (alias_ : String)
    (n : Nat) : (filterFrom alias_ n f).SameWords (filterFrom alias_ n g) := by
  have hf := f.sameWords_outline
  have hg := g.sameWords_outline
  rw [h] at hf
  constructor
  case text =>
    show f.condition.textFrom alias_ n = g.condition.textFrom alias_ n
    rw [← hf.text, hg.text]
  case names =>
    show (numbered n f.condition.values).map (·.name) = (numbered n g.condition.values).map (·.name)
    rw [names_numbered, names_numbered, ← hf.length, hg.length]

/-- A filter in wire form has an outline in wire form. -/
theorem wire_of_outline {v w : Value} (hv : v.isObject = true ∨ v.isSequence = true)
    (h : v.outline = w.outline) : w.isObject = true ∨ w.isSequence = true := by
  cases w with
  | object => exact .inl rfl
  | list | tuple => exact .inr rfl
  | scalar | filter => cases v with
    | object | list | tuple => simp [Value.outline] at h
    | scalar | filter => simp [Value.isObject, Value.isSequence, Value.fields?] at hv

theorem isNull_of_wire {v : Value} (hv : v.isObject = true ∨ v.isSequence = true) :
    v.isNull = false := by
  cases v with
  | object | list | tuple | filter => rfl
  | scalar s => rcases hv with h | h <;> cases h

/-- The conditions of two filters with one outline. -/
theorem sameWords_whereText {v w : Value} (hv : v.isObject = true ∨ v.isSequence = true)
    (h : v.outline = w.outline) :
    ∃ s t, whereText v = .ok s ∧ whereText w = .ok t ∧ s.SameWords t := by
  have hw := wire_of_outline hv h
  obtain ⟨f, hf, hvf⟩ := Filter.ofWire_outline hv
  obtain ⟨g, hg, hwg⟩ := Filter.ofWire_outline hw
  have houtline : f.outline = g.outline := by
    rw [h, hwg] at hvf
    exact (Except.ok.inj hvf).symm
  refine ⟨_, _, ?_, ?_, sameWords_filterFrom houtline documentAlias 0⟩
  · rw [whereText, isNull_of_wire hv, hf]
    rfl
  · rw [whereText, isNull_of_wire hw, hg]
    rfl

/-- **The words of a statement do not depend on the operands of its filter.**  For two filters with
one outline a query has, whatever its sort keys, fields and page, statements with the same text and
the same names of parameters, both the one that selects documents and the one that counts them. -/
theorem selectStatement_of_outline (q : Query) {v w : Value}
    (hv : v.isObject = true ∨ v.isSequence = true) (h : v.outline = w.outline) :
    (∃ s t, selectStatement { q with filter := v } = .ok s
        ∧ selectStatement { q with filter := w } = .ok t ∧ s.SameWords t)
      ∧ ∃ s t, countStatement { q with filter := v } = .ok s
        ∧ countStatement { q with filter := w } = .ok t ∧ s.SameWords t := by
  obtain ⟨s, t, hs, ht, hwords⟩ := sameWords_whereText hv h
  have hselect {u : Value} {r : Statement} (hr : whereText u = .ok r) :
      selectStatement { q with filter := u } = .ok ⟨"SELECT " ++ selection q.fields ++ " FROM "
        ++ documentAlias ++ optionalClause "WHERE" r.text
        ++ optionalClause "ORDER BY" (sortText documentAlias q.sort), r.parameters⟩ := by
    rw [selectStatement, hr]
    rfl
  have hcount {u : Value} {r : Statement} (hr : whereText u = .ok r) :
      countStatement { q with filter := u } = .ok ⟨"SELECT VALUE COUNT(1) FROM " ++ documentAlias
        ++ optionalClause "WHERE" r.text, r.parameters⟩ := by
    rw [countStatement, hr]
    rfl
  constructor
  · refine ⟨_, _, hselect hs, hselect ht, ?_, hwords.names⟩
    rw [hwords.text]
  · refine ⟨_, _, hcount hs, hcount ht, ?_, hwords.names⟩
    rw [hwords.text]

/-- Two filters with one outline: the names, the nesting and the flags of the tests for presence
agree, and the operands are other texts, numbers, lists and objects. -/
def outlineSample (name : String) (age : Int) (groups : List Value) (home : Fields) : Value :=
  .object [("$or", .list [.object [("name", .str name)],
      .object [("age", .object [("$gt", .int age), ("$exists", .bool true)])]]),
    ("$not", .object [("groups", .object [("$in", .list groups)])]),
    ("home", .object [("$eq", .object home)])]

theorem selectStatement_outlineSample :
    let v := outlineSample "Ada" 36 [.str "a", .str "b"] [("city", .str "London")]
    let w := outlineSample "' OR 1=1 --" (-1) [] []
    v.outline = w.outline
      ∧ (∃ s t, selectStatement { filter := v, sort := ["-age"] } = .ok s
        ∧ selectStatement { filter := w, sort := ["-age"] } = .ok t ∧ s.SameWords t)
      ∧ ∃ s t, countStatement { filter := v, sort := ["-age"] } = .ok s
        ∧ countStatement { filter := w, sort := ["-age"] } = .ok t ∧ s.SameWords t :=
  have houtline : (outlineSample "Ada" 36 [.str "a", .str "b"] [("city", .str "London")]).outline
      = (outlineSample "' OR 1=1 --" (-1) [] []).outline := by rfl
  ⟨houtline, selectStatement_of_outline { sort := ["-age"] } (.inl rfl) houtline⟩

end Sql

end EntityStore
