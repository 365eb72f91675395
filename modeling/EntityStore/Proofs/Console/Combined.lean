import EntityStore.Console.Conditions
import EntityStore.Proofs.Filter.Row
import Mathlib.Data.List.Forall2

/-!
# Conditions in the filter

A condition on the command line is written in wire form, as an object whose only field is named for
its path, and read back with the rest of the filter.  Read so, it is the comparison that it stands
for, unless the path begins with `$`: then the field is taken for an operator, and what there is of it
compiles to nothing (`filterFrom_ofFields_condition`).

Otherwise the ways of putting conditions and a given filter together make no difference, as all are
rows of filters in the end.  So the filter compiles to the conjunction of the given one with the
comparisons that have a wire form (`filterOf_compiled`).  That all comparisons reach the statement can
then be seen from its size: those that were left out have to be such that say nothing.
-/

namespace EntityStore.Console

open EntityStore.Filter (conjunction ofFields ofItems ofWire isOperatorName)
open Sql (Fixed documentAlias filterFrom)

/-! ### Conditions in wire form -/

/-- **What a condition stands for**: a comparison under the operator of its word with the operand that
its JSON text spells. -/
inductive Condition.Means (c : Condition) : Filter → Prop
  | compare {operator : String} {v : Value} (hoperator : operatorOf? c.operator = some operator)
    (hv : Json.read c.operand = .ok v) : Means c (.compare c.path operator v)

/-- Whether a filter has a wire form. -/
def hasWireForm (f : Filter) : Bool := f.toWire?.isSome

theorem hasWireForm_compare (path operator : String) (v : Value) :
    hasWireForm (.compare path operator v) = !isOperatorName path := by
  rw [hasWireForm, Filter.toWire?]
  cases isOperatorName path <;> rfl

/-- The operators of conditions are none of the logical ones. -/
theorem operatorOf?_some {word operator : String} (h : operatorOf? word = some operator) :
    isOperatorName operator = true ∧ operator ≠ "$not" ∧ operator ≠ "$and" ∧ operator ≠ "$or" := by
  have hall : ∀ p ∈ operatorWords,
      isOperatorName p.2 = true ∧ p.2 ≠ "$not" ∧ p.2 ≠ "$and" ∧ p.2 ≠ "$or" := by decide
  obtain ⟨l, r, hsplit, -⟩ := List.lookup_eq_some_iff.1 h
  exact hall (word, operator) (hsplit ▸ List.mem_append_right l List.mem_cons_self)

/-- A field with the name of an operator that is none of the logical ones is dropped. -/
theorem ofField_operator {name : String} (hname : isOperatorName name = true)
    (hnot : name ≠ "$not") (hand : name ≠ "$and") (hor : name ≠ "$or") (v : Value) :
    Filter.ofField name v = [] := by
  cases v <;> simp [Filter.ofField, Filter.ofField.ofSequence, hname, hnot, hand, hor]

/-! ### Objects as rows of filters -/

/-- An object that compiles to a row of filters, whatever values have been bound before. -/
def Compiles (w : Value) (fs : List Filter) : Prop :=
  ∃ fields, w = .object fields ∧ ∀ n, filterFrom documentAlias n (conjunction (ofFields fields))
    = filterFrom documentAlias n (conjunction fs)

theorem fixed_documentAlias : Fixed documentAlias.toList := .unmarked (by decide)

/-- The conjunction of any number of filters is a row. -/
theorem filterFrom_all (n : Nat) (fs : List Filter) :
    filterFrom documentAlias n (.combine Filter.andOp fs)
      = filterFrom documentAlias n (conjunction fs) := by
  rw [filterFrom, filterFrom, Filter.textFrom_conjunction, Filter.values_conjunction,
    Filter.condition_combine (by decide), Sql.combination, if_pos rfl, Sql.Condition.textFrom,
    Sql.Condition.values]

/-- **A condition in wire form** compiles to the comparison that it stands for, or to nothing when that
has no wire form. -/
theorem Condition.Means.compiles {c : Condition} {g : Filter} (h : c.Means g) :
    ∃ w, c.toWire = .ok w ∧ Compiles w ([g].filter hasWireForm) := by
  obtain ⟨hoperator, hv⟩ := h
  rename_i operator v
  obtain ⟨hname, hnot, hand, hor⟩ := operatorOf?_some hoperator
  have hwire := hasWireForm_compare c.path operator v
  refine ⟨.object [(c.path, .object [(operator, v)])], ?_, _, rfl, fun n => ?_⟩
  · rw [Condition.toWire, hoperator]
    dsimp only
    rw [hv]
  · cases hpath : isOperatorName c.path with
    -- The path is an operator's name, and the condition is not read as one on a field.
    | true =>
      rw [hpath] at hwire
      rw [List.filter_cons_of_neg (by rw [hwire]; exact Bool.false_ne_true), List.filter_nil]
      by_cases hnegation : c.path = "$not"
      · -- The operator is then read as a field of what is negated, and dropped there.
        have hfields : ofFields [(operator, v)] = [] := by
          rw [ofFields, ofFields, ofField_operator hname hnot hand hor, List.append_nil]
        rw [ofFields, ofFields, Filter.ofField, if_pos hnegation, hfields]
        rfl
      · rw [ofFields, ofFields, Filter.ofField, if_neg hnegation, if_pos hpath]
        rfl
    | false =>
      have hnegation : c.path ≠ "$not" := by
        intro hnegation
        rw [hnegation] at hpath
        contradiction
      rw [hpath] at hwire
      rw [List.filter_cons_of_pos hwire, List.filter_nil, ofFields, ofFields, Filter.ofField,
        if_neg hnegation, if_neg (by rw [hpath]; exact Bool.false_ne_true)]
      rfl

/-- **Objects in a list** compile to their rows, one behind the other. -/
theorem filterFrom_ofItems {ws : List Value} {rows : List (List Filter)}
    (h : List.Forall₂ Compiles ws rows) (n : Nat) :
    filterFrom documentAlias n (conjunction (ofItems ws))
      = filterFrom documentAlias n (conjunction rows.flatten) := by
  induction h with
  | nil => rfl
  | @cons w row ws rows h _ ih =>
    obtain ⟨fields, rfl, hrow⟩ := h
    rw [List.flatten_cons, Sql.filterFrom_conjunction_append fixed_documentAlias, ← hrow, ← ih]
    exact Sql.filterFrom_conjunction_append fixed_documentAlias n [conjunction (ofFields fields)] _

/-- The list under `$and` compiles so as well. -/
theorem compiles_and {ws : List Value} {rows : List (List Filter)}
    (h : List.Forall₂ Compiles ws rows) :
    Compiles (.object [("$and", .list ws)]) rows.flatten := by
  exact ⟨_, rfl, fun n => (filterFrom_all n (ofItems ws)).trans (filterFrom_ofItems h n)⟩

theorem compiles_allOf? {ws : List Value} {rows : List (List Filter)}
    (h : List.Forall₂ Compiles ws rows) {w : Value} (hw : allOf? ws = some w) :
    Compiles w rows.flatten := by
  cases h with
  | nil => contradiction
  | cons hfirst hrest =>
    cases hrest with
    | nil =>
      cases hw
      rw [List.flatten_singleton]
      exact hfirst
    | cons hsecond hrest =>
      cases hw
      exact compiles_and (.cons hfirst (.cons hsecond hrest))

/-- **A part of a conjunction** compiles to the filter that it reads as. -/
theorem compiles_asObject {v : Value} (hv : (v.isObject || v.isSequence) = true) {f : Filter}
    (h : ofWire v = .ok f) : Compiles (asObject v) [f] := by
  cases v with
  | object fields =>
    cases h
    exact ⟨fields, rfl, fun _ => rfl⟩
  | list items | tuple items =>
    cases h
    exact ⟨_, rfl, fun n => filterFrom_all n (ofItems items)⟩
  | _ => contradiction

/-! ### The filter of a command -/

/-- Conditions are written as objects, each for the comparison that it stands for. -/
theorem toWireAll_means {cs : List Condition} {gs : List Filter}
    (h : List.Forall₂ Condition.Means cs gs) :
    ∃ ws rows, toWireAll cs = .ok ws ∧ List.Forall₂ Compiles ws rows
      ∧ rows.flatten = gs.filter hasWireForm := by
  induction h with
  | nil => exact ⟨[], [], rfl, .nil, rfl⟩
  | @cons c g cs gs h _ ih =>
    obtain ⟨w, hw, hcompiles⟩ := h.compiles
    obtain ⟨ws, rows, hws, hrest, hrows⟩ := ih
    refine ⟨w :: ws, [g].filter hasWireForm :: rows, ?_, .cons hcompiles hrest, ?_⟩
    · rw [toWireAll, hw, hws]
      rfl
    · rw [List.flatten_cons, hrows, ← List.filter_append]
      rfl

theorem Compiles.whereText {w : Value} {fs : List Filter} (h : Compiles w fs) :
    Sql.whereText w = .ok (filterFrom documentAlias 0 (conjunction fs)) := by
  obtain ⟨fields, rfl, hfields⟩ := h
  rw [← hfields]
  rfl

/-- **The filters that are given**: none, or the one that an object or a list reads as. -/
inductive Gives : Option Value → List Filter → Prop
  | none : Gives none []
  | some {v : Value} {f : Filter} (hv : (v.isObject || v.isSequence) = true)
    (hf : ofWire v = .ok f) : Gives (some v) [f]

/-- A JSON text gives an object or a list, if it gives a filter. -/
theorem gives_filterOfText {text : Option String} {given : Option Value}
    (h : filterOfText text = .ok given) : ∃ fs, Gives given fs := by
  unfold filterOfText at h
  split at h
  · cases h
    exact ⟨[], .none⟩
  · split at h
    · cases h
      exact ⟨[], .none⟩
    · split at h <;> cases h
      · exact ⟨_, .some rfl rfl⟩
      · exact ⟨_, .some rfl rfl⟩

/-- **The filter of a command** compiles to the filters that are given and those of the conditions, in a
row. -/
theorem whereText_bothOf {given : Option Value} {fs : List Filter} (hgiven : Gives given fs)
    {ws : List Value} {rows : List (List Filter)} (hws : List.Forall₂ Compiles ws rows) :
    Sql.whereText ((bothOf given (allOf? ws)).getD .null)
      = .ok (filterFrom documentAlias 0 (conjunction (fs ++ rows.flatten))) := by
  cases hw : allOf? ws with
  -- No condition is given, and the filter of the text stands alone.
  | none =>
    have hnone : rows = [] := by
      cases hws with
      | nil => rfl
      | cons _ hrest => cases hrest <;> cases hw
    rw [hnone, List.flatten_nil, List.append_nil]
    cases hgiven with
    | none => rfl
    | @some v f hv hf =>
      have hnull : v.isNull = false := by
        cases v <;> first | rfl | contradiction
      show Sql.whereText v = _
      rw [Sql.whereText, hnull, hf]
      rfl
  | some w =>
    have hcompiles := compiles_allOf? hws hw
    cases hgiven with
    | none => exact hcompiles.whereText
    | @some v f hv hf =>
      -- The conditions have been put into an object, which is taken as it is.
      have hobject : asObject w = w := by
        obtain ⟨fields, rfl, -⟩ := hcompiles
        rfl
      have hparts : List.Forall₂ Compiles [asObject v, asObject w] [[f], rows.flatten] :=
        .cons (compiles_asObject hv hf) (.cons (hobject.symm ▸ hcompiles) .nil)
      have hboth := (compiles_and hparts).whereText
      rwa [List.flatten_cons, List.flatten_singleton] at hboth

/-- Comparisons have known operators, as far as logical ones go. -/
theorem boolean_means {cs : List Condition} {gs : List Filter}
    (h : List.Forall₂ Condition.Means cs gs) : ∀ g ∈ gs, Filter.Boolean g := by
  induction h with
  | nil => exact fun g hg => absurd hg List.not_mem_nil
  | cons h _ ih =>
    refine List.forall_mem_cons.2 ⟨?_, ih⟩
    cases h
    exact .compare ..

/-- **The filter of a command.**  A JSON text that gives an object, a list or nothing, and conditions
with known operators and operands in JSON, always make a filter.  It compiles to the conjunction of
the given filter with the comparisons that the conditions stand for, in order, less those whose paths
begin with `$`, as these have no wire form.  So every condition reaches the statement exactly when each
that has such a path has an operand that its operator has no use for. -/
theorem filterOf_compiled {text : Option String} {given : Option Value} {arguments : List String}
    {cs : List Condition} {gs : List Filter} (htext : filterOfText text = .ok given)
    (harguments : splitConditions arguments = .ok cs)
    (hmeans : List.Forall₂ Condition.Means cs gs) :
    ∃ fs filter, Gives given fs ∧ filterOf text arguments = .ok filter
      ∧ Sql.whereText (filter.getD .null)
        = .ok (filterFrom documentAlias 0 (conjunction (fs ++ gs.filter hasWireForm)))
      ∧ (Sql.whereText (filter.getD .null)
          = .ok (filterFrom documentAlias 0 (conjunction (fs ++ gs)))
        ↔ ∀ g ∈ gs, hasWireForm g = false → g.prune = none) := by
  obtain ⟨fs, hfs⟩ := gives_filterOfText htext
  obtain ⟨ws, rows, hws, hcompiles, hrows⟩ := toWireAll_means hmeans
  have hwhere := whereText_bothOf hfs hcompiles
  rw [hrows] at hwhere
  refine ⟨fs, bothOf given (allOf? ws), hfs, ?_, hwhere, ?_⟩
  · have hconditions : filterOfConditions cs = .ok (allOf? ws) := by
      rw [filterOfConditions, hws]
      rfl
    rw [filterOf, htext, harguments]
    show (filterOfConditions cs >>= fun w => pure (bothOf given w)) = _
    rw [hconditions]
    rfl
  · rw [hwhere, Except.ok.injEq, eq_comm, Filter.filterFrom_filter_iff _ _ (boolean_means hmeans)]

/-- A list with an object in it, as a filter. -/
theorem filterOfText_list : filterOfText (some "[\x7b\"b\": 3\x7d]")
    = .ok (some (.list [.object [("b", .int 3)]])) := by
  -- The readers are followed from the inside out: what the inner ones leave of the text is then given,
  -- and not found again by each of the outer ones.
  have hkey : Json.readKey ['"', 'b', '"', ':', ' ', '3', '\x7d', ']']
      = .ok ("b", ['3', '\x7d', ']']) := rfl
  have hvalue (n : Nat) : Json.readValue (n + 1) ['3', '\x7d', ']']
      = .ok (.int 3, ['\x7d', ']']) := rfl
  have hfields (n : Nat) : Json.readFields (n + 2) ['"', 'b', '"', ':', ' ', '3', '\x7d', ']']
      = .ok ([("b", .int 3)], [']']) := by
    simp only [Json.readFields, hkey, hvalue, bind, Except.bind]
    rfl
  have hobject (n : Nat) : Json.readValue (n + 3)
      ['\x7b', '"', 'b', '"', ':', ' ', '3', '\x7d', ']']
      = .ok (.object [("b", .int 3)], [']']) := by
    simp only [Json.readValue, Json.skipBlanks, List.dropWhile]
    show (Json.readFields (n + 2) ['"', 'b', '"', ':', ' ', '3', '\x7d', ']']).map _ = _
    rw [hfields]
    rfl
  have hitems (n : Nat) : Json.readItems (n + 4)
      ['\x7b', '"', 'b', '"', ':', ' ', '3', '\x7d', ']']
      = .ok ([.object [("b", .int 3)]], []) := by
    simp only [Json.readItems, hobject, bind, Except.bind]
    rfl
  have hlist (n : Nat) : Json.readValue (n + 5)
      ['[', '\x7b', '"', 'b', '"', ':', ' ', '3', '\x7d', ']']
      = .ok (.list [.object [("b", .int 3)]], []) := by
    simp only [Json.readValue, Json.skipBlanks, List.dropWhile]
    show (Json.readItems (n + 4) ['\x7b', '"', 'b', '"', ':', ' ', '3', '\x7d', ']']).map _ = _
    rw [hitems]
    rfl
  have hread : Json.read "[\x7b\"b\": 3\x7d]" = .ok (.list [.object [("b", .int 3)]]) := by
    show (Json.readValue 22 ['[', '\x7b', '"', 'b', '"', ':', ' ', '3', '\x7d', ']'] >>= _) = _
    rw [hlist 17]
    rfl
  have hfull : "[\x7b\"b\": 3\x7d]".isEmpty = false := by decide
  rw [filterOfText, hfull, hread]
  rfl

/-- A list and two conditions, of which the one with such a path says nothing. -/
theorem filterOf_compiled_list :
    ∃ filter, filterOf (some "[\x7b\"b\": 3\x7d]") ["a gt 1", "$x in 5"] = .ok filter
      ∧ Sql.whereText (filter.getD .null)
        = .ok ⟨"c.b = @p0 AND c.a > @p1", [⟨"@p0", .int 3⟩, ⟨"@p1", .int 1⟩]⟩ := by
  obtain ⟨f, hf⟩ : ∃ f : Filter, f = .compare "b" "$eq" (.int 3) := ⟨_, rfl⟩
  obtain ⟨gs, hgs⟩ : ∃ gs : List Filter,
    gs = [.compare "a" "$gt" (.int 1), .compare "$x" "$in" (.int 5)] := ⟨_, rfl⟩
  have harguments : splitConditions ["a gt 1", "$x in 5"]
      = .ok [⟨"a", "gt", "1"⟩, ⟨"$x", "in", "5"⟩] := rfl
  have hmeans : List.Forall₂ Condition.Means [⟨"a", "gt", "1"⟩, ⟨"$x", "in", "5"⟩] gs :=
    hgs ▸ .cons (.compare rfl rfl) (.cons (.compare rfl rfl) .nil)
  -- The second condition has no wire form, and is dropped anyway: its operand is no list.
  have hsilent : ∀ g ∈ gs, hasWireForm g = false → g.prune = none := by
    intro g hg hwire
    rw [hgs] at hg
    rcases List.mem_pair.1 hg with rfl | rfl
    · have hname : isOperatorName "a" = false := by decide
      rw [hasWireForm_compare, hname] at hwire
      exact absurd hwire (by decide)
    · decide
  have hread : ofWire (.list [.object [("b", .int 3)]]) = .ok f := by
    rw [hf]
    rfl
  have hstatement : filterFrom documentAlias 0 (conjunction ([f] ++ gs))
      = ⟨"c.b = @p0 AND c.a > @p1", [⟨"@p0", .int 3⟩, ⟨"@p1", .int 1⟩]⟩ := by
    rw [hf, hgs]
    rfl
  obtain ⟨fs, filter, hgives, hfilter, -, hall⟩ := filterOf_compiled filterOfText_list harguments hmeans
  have hwhere := hall.2 hsilent
  cases hgives with
  | some _ hf' =>
    obtain rfl := Except.ok.inj (hread.symm.trans hf')
    exact ⟨filter, hfilter, hwhere.trans (congrArg Except.ok hstatement)⟩

/-- **A condition is lost**: its path is taken for the name of an operator, and what is selected is not
restricted by it. -/
theorem condition_lost :
    let filter : Value := .object [("$and", .list
      [.object [("$x", .object [("$eq", .int 1)])], .object [("a", .object [("$eq", .int 2)])]])]
    splitConditions ["$x eq 1", "a eq 2"] = .ok [⟨"$x", "eq", "1"⟩, ⟨"a", "eq", "2"⟩]
      ∧ filterOf none ["$x eq 1", "a eq 2"] = .ok (some filter)
      ∧ Sql.whereText filter = .ok ⟨"c.a = @p0", [⟨"@p0", .int 2⟩]⟩
      ∧ filterFrom documentAlias 0
          (conjunction [.compare "$x" "$eq" (.int 1), .compare "a" "$eq" (.int 2)])
        = ⟨"c[\"$x\"] = @p0 AND c.a = @p1", [⟨"@p0", .int 1⟩, ⟨"@p1", .int 2⟩]⟩ := by
  intro filter
  have hsplit : splitConditions ["$x eq 1", "a eq 2"]
      = .ok [⟨"$x", "eq", "1"⟩, ⟨"a", "eq", "2"⟩] := rfl
  have hlost : (⟨"$x", "eq", "1"⟩ : Condition).toWire
      = .ok (.object [("$x", .object [("$eq", .int 1)])]) := rfl
  have hkept : (⟨"a", "eq", "2"⟩ : Condition).toWire
      = .ok (.object [("a", .object [("$eq", .int 2)])]) := rfl
  have hfilter : filterOf none ["$x eq 1", "a eq 2"] = .ok (some filter) := by
    simp only [filterOf, filterOfText, hsplit, filterOfConditions, toWireAll, hlost, hkept, bind,
      Except.bind]
    rfl
  exact ⟨hsplit, hfilter, rfl, rfl⟩

end EntityStore.Console
