import EntityStore.Proofs.Sql.Meaning

/-!
# Filters that say nothing

A filter without comparisons has no text, and a query without a condition finds every document.
Where such a filter stands inside another, it is not true: it is left out.  A conjunction does not
show the difference.  A disjunction does, for it comes to its other parts and not to what is always
true, and so does a negation, which says nothing itself instead of being false.

`Filter.verdict` is the truth of a filter when the parts that say nothing are left out.  It is what
the text of every filter in wire form says (`says_whereText`).  In a filter of which every
disjunction and every negation has only parts that say something (`Filter.Grounded`), it is the
truth of the filter, with what says nothing counted as true.
-/

namespace EntityStore

open Sql (Formula Probe unlessNone)

namespace Filter

/-! ### Speaking and being silent -/

mutual

/-- Whether there is a comparison in a filter. -/
def speaks : Filter → Bool
  | .compare .. => true
  | .combine _ fs => someSpeaks fs
  | .bare => false

/-- Whether there is a comparison in one of a list of filters. -/
def someSpeaks : List Filter → Bool
  | [] => false
  | f :: r => f.speaks || someSpeaks r

end

/-- **A filter whose comparisons all survive**: their operators are known and have a use for their
operands. -/
inductive WellFormed : Filter → Prop
  | compare {path operator : String} {operand : Value}
    (h : (probe? 0 path operator operand).isSome = true) : WellFormed (.compare path operator operand)
  | combine (operator : String) {fs : List Filter} (h : ∀ f ∈ fs, WellFormed f) :
    WellFormed (.combine operator fs)

theorem WellFormed.part {operator : String} {fs : List Filter}
    (h : (Filter.combine operator fs).WellFormed) : ∀ f ∈ fs, f.WellFormed := by
  cases h with
  | combine _ h => exact h

/-- **A filter of which every disjunction has parts, and every part of a disjunction or negation
says something.** -/
inductive Grounded : Filter → Prop
  | compare (path operator : String) (operand : Value) : Grounded (.compare path operator operand)
  | conjunction {fs : List Filter} (h : ∀ f ∈ fs, Grounded f) : Grounded (.combine andOp fs)
  | disjunction {fs : List Filter} (hne : fs ≠ []) (h : ∀ f ∈ fs, Grounded f)
    (hspeaks : ∀ f ∈ fs, f.speaks = true) : Grounded (.combine orOp fs)
  | negation {f : Filter} (h : Grounded f) (hspeaks : f.speaks = true) :
    Grounded (.combine notOp [f])

mutual

/-- **The truth of a filter whose silent parts are left out**, when the first operand is the `n`-th
that is bound; `none` when it says nothing. -/
def verdict (truth : Probe → Bool) (n : Nat) : Filter → Option Bool
  | .compare path operator operand => (probe? n path operator operand).map (·.holds truth)
  | .combine operator fs => unlessNone (combined operator) (verdicts truth n fs)
  | .bare => none

/-- The truths of those of a list of filters that say something. -/
def verdicts (truth : Probe → Bool) (n : Nat) : List Filter → List Bool
  | [] => []
  | f :: r => (f.verdict truth n).toList ++ verdicts truth (n + f.operands.length) r

end

/-! ### What is left of a filter has its verdict -/

section

variable (truth : Probe → Bool)

/-- The truths of what is left of a list of filters. -/
theorem holds_survivingOfEach_eq {fs : List Filter}
    (h : ∀ f ∈ fs, ∀ n, (f.surviving? n).map (Formula.holds truth) = f.verdict truth n) (n : Nat) :
    (survivingOfEach n fs).map (Formula.holds truth) = verdicts truth n fs := by
  induction fs generalizing n with
  | nil => rfl
  | cons f fs ih =>
    have hfirst := h f List.mem_cons_self n
    have hrest := ih (fun g hg => h g (List.mem_cons_of_mem f hg)) (n + f.operands.length)
    rw [survivingOfEach, verdicts, List.map_append, hrest, ← hfirst]
    cases f.surviving? n <;> rfl

/-- A conjunction or disjunction is as true as its operator makes it. -/
theorem holds_combined?_eq {operator : String} (hop : operator = andOp ∨ operator = orOp)
    (parts : List Formula) :
    (combined? operator parts).map (Formula.holds truth)
      = unlessNone (combined operator) (parts.map (Formula.holds truth)) := by
  cases parts with
  | nil => rcases hop with rfl | rfl <;> rfl
  | cons F Fs =>
    rcases hop with rfl | rfl
    · rw [combined?, if_pos rfl, Sql.unlessNone_cons, Option.map_some, Formula.holds,
        Formula.allHold_eq, List.map_cons, Sql.unlessNone_cons, combined, if_neg (by decide),
        if_neg (by decide), ← List.map_cons, List.all_map]
      rfl
    · rw [combined?, if_neg (by decide), if_pos rfl, Sql.unlessNone_cons, Option.map_some,
        Formula.holds, Formula.anyHolds_eq, List.map_cons, Sql.unlessNone_cons, combined,
        if_neg (by decide), if_pos rfl, ← List.map_cons, List.any_map]
      rfl

/-- **What is left of a filter is as true as its verdict**, and something is left exactly when
there is a verdict. -/
theorem holds_surviving?_eq {f : Filter} (h : f.Expressible) (n : Nat) :
    (f.surviving? n).map (Formula.holds truth) = f.verdict truth n := by
  induction h generalizing n with
  | compare _ operator operand =>
    rw [surviving?, verdict, Option.map_map]
    rfl
  | conjunction _ ih | disjunction _ ih =>
    rw [surviving?_combine (by decide), verdict, holds_combined?_eq truth (by decide),
      holds_survivingOfEach_eq truth ih]
  | @negation f _ ih =>
    rw [surviving?, if_pos rfl, verdict, verdicts, verdicts, List.append_nil, ← ih]
    cases f.surviving? n with
    | none => rfl
    | some F => simp [combined, Formula.holds]

end

/-! ### Verdicts and truth -/

section

variable (truth : Probe → Bool)

theorem verdicts_eq_nil_iff {fs : List Filter}
    (h : ∀ f ∈ fs, ∀ n, (f.verdict truth n).isSome = f.speaks) (n : Nat) :
    verdicts truth n fs = [] ↔ someSpeaks fs = false := by
  induction fs generalizing n with
  | nil => exact iff_of_true rfl rfl
  | cons f fs ih =>
    have hfirst := h f List.mem_cons_self n
    have hrest := ih (fun g hg => h g (List.mem_cons_of_mem f hg)) (n + f.operands.length)
    rw [verdicts, someSpeaks, List.append_eq_nil_iff, hrest, ← hfirst, Bool.or_eq_false_iff]
    cases f.verdict truth n <;> simp

/-- **A filter whose comparisons survive has a verdict** exactly when there is a comparison in
it. -/
theorem isSome_verdict {f : Filter} (h : f.WellFormed) (n : Nat) :
    (f.verdict truth n).isSome = f.speaks := by
  induction h generalizing n with
  | @compare path operator operand hsome =>
    rw [verdict, speaks, Option.isSome_map, isSome_probe?, ← isSome_probe? 0 path]
    exact hsome
  | @combine operator fs _ ih =>
    have hnone := verdicts_eq_nil_iff truth ih n
    rw [verdict, speaks]
    cases hverdicts : verdicts truth n fs with
    | nil =>
      rw [hnone.1 hverdicts]
      rfl
    | cons b bs =>
      have hspeaks : someSpeaks fs ≠ false := by
        rw [ne_eq, ← hnone, hverdicts]
        exact List.cons_ne_nil b bs
      rw [eq_true_of_ne_false hspeaks]
      rfl

/-- The parts of a conjunction that say nothing do not count. -/
theorem all_verdicts {fs : List Filter}
    (h : ∀ f ∈ fs, ∀ n, (f.verdict truth n).getD true = f.holds truth n) (n : Nat) :
    (verdicts truth n fs).all id = (truths truth n fs).all id := by
  induction fs generalizing n with
  | nil => rfl
  | cons f fs ih =>
    have hfirst := h f List.mem_cons_self n
    have hrest := ih (fun g hg => h g (List.mem_cons_of_mem f hg)) (n + f.operands.length)
    rw [verdicts, truths, List.all_append, List.all_cons, hrest, ← hfirst]
    cases f.verdict truth n with
    | none => rfl
    | some b => simp

/-- Filters that all say something have as many verdicts. -/
theorem verdicts_eq_truths {fs : List Filter}
    (h : ∀ f ∈ fs, ∀ n, f.verdict truth n = some (f.holds truth n)) (n : Nat) :
    verdicts truth n fs = truths truth n fs := by
  induction fs generalizing n with
  | nil => rfl
  | cons f fs ih =>
    have hrest := ih (fun g hg => h g (List.mem_cons_of_mem f hg)) (n + f.operands.length)
    rw [verdicts, truths, h f List.mem_cons_self, hrest]
    rfl

/-- **Where silence does not reach a disjunction or negation, it is truth.** -/
theorem Grounded.getD_verdict {f : Filter} (h : f.Grounded) (hf : f.WellFormed) (n : Nat) :
    (f.verdict truth n).getD true = f.holds truth n := by
  -- A part that says something has a verdict, which is then its truth.
  have hsome {g : Filter} (hg : g.WellFormed) (hspeaks : g.speaks = true)
      (ih : ∀ n, (g.verdict truth n).getD true = g.holds truth n) (n : Nat) :
      g.verdict truth n = some (g.holds truth n) := by
    obtain ⟨b, hb⟩ := Option.isSome_iff_exists.1 ((isSome_verdict truth hg n).trans hspeaks)
    rw [← ih, hb]
    rfl
  induction h generalizing n with
  | compare path operator operand =>
    rw [verdict, holds]
    cases hprobe : probe? n path operator operand <;> rfl
  -- Silent parts are left out, as true parts might be.
  | @conjunction fs _ ih =>
    have hall := all_verdicts truth (fun f hmem n => ih f hmem (hf.part f hmem) n) n
    rw [verdict, holds, combined, if_neg (by decide), if_neg (by decide), ← hall]
    cases verdicts truth n fs <;> rfl
  -- Here no part may be silent, for a silent part would make it true.
  | @disjunction fs hne _ hspeaks ih =>
    have hverdicts := verdicts_eq_truths truth (fun f hmem n =>
      hsome (hf.part f hmem) (hspeaks f hmem) (fun n => ih f hmem (hf.part f hmem) n) n) n
    rw [verdict, holds, hverdicts]
    cases fs with
    | nil => contradiction
    | cons f fs => rfl
  | @negation f _ hspeaks ih =>
    have hpart := hf.part f List.mem_cons_self
    have hverdict := hsome hpart hspeaks (fun n => ih hpart n) n
    rw [verdict, holds, verdicts, verdicts, hverdict]
    rfl

end

end Filter

namespace Sql

/-! ### What the text of a filter says -/

/-- **A text and the truth of what it says**: the empty text is always true, and any other is read as
a condition, with negation before conjunction before disjunction. -/
def Says (text : String) (value : (Probe → Bool) → Bool) : Prop :=
  (text = "" ∧ ∀ truth, value truth = true)
    ∨ ∃ ts c, Token.lex text.toList = some ts ∧ readCondition ts = some (c, [])
      ∧ ∀ truth, c.holds truth = value truth

/-- The empty text is not read as a condition. -/
theorem not_readCondition_empty {ts : List Token} {c : Formula}
    (hlex : Token.lex "".toList = some ts) : readCondition ts ≠ some (c, []) := by
  rw [String.toList_empty, Piece.nil.lex_eq, Option.some_inj] at hlex
  rw [← hlex]
  intro hread
  contradiction

/-- **What a text says** is one thing. -/
theorem Says.unique {text : String} {a b : (Probe → Bool) → Bool} (ha : Says text a)
    (hb : Says text b) (truth : Probe → Bool) : a truth = b truth := by
  rcases ha with ⟨rfl, ha⟩ | ⟨ts, c, hlex, hread, ha⟩
  · rcases hb with ⟨-, hb⟩ | ⟨ts, c, hlex, hread, -⟩
    · rw [ha, hb]
    · exact absurd hread (not_readCondition_empty hlex)
  · rcases hb with ⟨rfl, -⟩ | ⟨ts', c', hlex', hread', hb⟩
    · exact absurd hread (not_readCondition_empty hlex)
    · rw [hlex, Option.some_inj] at hlex'
      rw [← hlex', hread, Option.some_inj, Prod.mk.injEq] at hread'
      rw [← ha, ← hb, hread'.1]

/-- **The text of a filter says its verdict**; without a verdict there is no text. -/
theorem says_verdict {f : Filter} (h : f.Expressible) :
    Says (filterFrom documentAlias 0 f).text fun truth => (f.verdict truth 0).getD true := by
  rcases spelled_filterFrom 0 f with ⟨htext, hnone⟩ | ⟨c, hsome, hc⟩
  · refine .inl ⟨htext, fun truth => ?_⟩
    beta_reduce
    rw [← Filter.holds_surviving?_eq truth h, hnone]
    rfl
  · obtain ⟨ts, c', hlex, hread, hmeaning⟩ := hc.meaning
    refine .inr ⟨ts, c', hlex, hread, fun truth => ?_⟩
    beta_reduce
    rw [← Filter.holds_surviving?_eq truth h, hsome, hmeaning]
    rfl

/-- A filter whose comparisons survive has no text exactly when there is no comparison in it. -/
theorem text_eq_empty_iff {f : Filter} (h : f.Expressible) (hf : f.WellFormed) :
    (filterFrom documentAlias 0 f).text = "" ↔ f.speaks = false := by
  have hverdict := Filter.holds_surviving?_eq (fun _ => true) h 0
  rw [← Filter.isSome_verdict (fun _ => true) hf 0, ← hverdict, Option.isSome_map]
  rcases spelled_filterFrom 0 f with ⟨htext, hnone⟩ | ⟨c, hsome, hc⟩
  · rw [htext, hnone]
    exact iff_of_true rfl rfl
  · rw [hsome]
    refine iff_of_false ?_ Bool.noConfusion
    intro htext
    rw [htext] at hc
    exact hc.ne_nil String.toList_empty

/-- **What the condition of a query says.**  An object or a list whose comparisons all survive has no
condition exactly when there is no comparison in it.  Its condition says what the filter does when
the parts without comparisons are left out.  That is the truth of the filter itself, in which a
conjunction without parts is true, when no part of a disjunction or negation is without
comparisons. -/
theorem says_whereText {v : Value} {f : Filter} (hv : (v.isObject || v.isSequence) = true)
    (h : Filter.ofWire v = .ok f) (hf : f.WellFormed) :
    ∃ w, whereText v = .ok w ∧ (w.text = "" ↔ f.speaks = false)
      ∧ Says w.text (fun truth => (f.verdict truth 0).getD true)
      ∧ (f.Grounded → Says w.text fun truth => f.holds truth 0) := by
  have hexpressible : f.Expressible := by
    refine Filter.expressible_ofWire h ?_
    rintro g rfl
    contradiction
  have hsays := says_verdict hexpressible
  refine ⟨filterFrom documentAlias 0 f, ?_, text_eq_empty_iff hexpressible hf, hsays, ?_⟩
  · rw [Filter.whereText_eq h]
    rfl
  · intro hgrounded
    have hvalue : (fun truth => (f.verdict truth 0).getD true) = fun truth => f.holds truth 0 :=
      funext fun truth => hgrounded.getD_verdict truth hf 0
    rw [← hvalue]
    exact hsays

/-- A part without comparisons does not show in a conjunction. -/
theorem says_whereText_and :
    ∃ w, whereText (.object [("$and", .list [.object [],
          .object [("$or", .list [.object [("a", .int 1)], .object [("b", .int 2)]])]])]) = .ok w
      ∧ Says w.text fun truth =>
        truth (.compare .eq [.name "a"] "@p0") || truth (.compare .eq [.name "b"] "@p1") := by
  let a : Filter := .compare "a" "$eq" (.int 1)
  let b : Filter := .compare "b" "$eq" (.int 2)
  have ha : Filter.probe? 0 "a" "$eq" (.int 1) = some (.compare .eq [.name "a"] "@p0") := by decide
  have hb : Filter.probe? 1 "b" "$eq" (.int 2) = some (.compare .eq [.name "b"] "@p1") := by decide
  let v : Value := .object [("$and", .list [.object [],
    .object [("$or", .list [.object [("a", .int 1)], .object [("b", .int 2)]])]])]
  let f : Filter := (Filter.combine Filter.andOp []).and (a.or b)
  have hread : Filter.ofWire v = .ok f := rfl
  have hwell : f.WellFormed := by
    have hnone : (Filter.combine Filter.andOp []).WellFormed := .combine _ (by simp)
    have hor : (a.or b).WellFormed := by
      refine .combine _ (List.forall_mem_cons.2 ⟨.compare (by decide), ?_⟩)
      exact List.forall_mem_singleton.2 (.compare (by decide))
    exact .combine _ (List.forall_mem_cons.2 ⟨hnone, List.forall_mem_singleton.2 hor⟩)
  -- The silent part stands in the conjunction, and none in the disjunction.
  have hgrounded : f.Grounded := by
    have hnone : (Filter.combine Filter.andOp []).Grounded := .conjunction (by simp)
    have hor : (a.or b).Grounded := by
      refine .disjunction (by simp) ?_ ?_
      · exact List.forall_mem_cons.2 ⟨.compare .., List.forall_mem_singleton.2 (.compare ..)⟩
      · exact List.forall_mem_cons.2 ⟨rfl, List.forall_mem_singleton.2 rfl⟩
    exact .conjunction (List.forall_mem_cons.2 ⟨hnone, List.forall_mem_singleton.2 hor⟩)
  obtain ⟨w, hw, -, -, hsays⟩ := says_whereText rfl hread hwell
  have hvalue (truth : Probe → Bool) : f.holds truth 0
      = (truth (.compare .eq [.name "a"] "@p0") || truth (.compare .eq [.name "b"] "@p1")) := by
    have hnone : (Filter.combine Filter.andOp []).holds truth 0 = true := by
      rw [Filter.holds, Filter.truths]
      rfl
    rw [Filter.holds_and, hnone, Bool.true_and, Filter.holds_or, Filter.holds, Filter.holds]
    have hfirst : 0 + (Filter.combine Filter.andOp []).operands.length = 0 := rfl
    have hsecond : 0 + a.operands.length = 1 := rfl
    rw [hfirst, hsecond, ha, hb]
    rfl
  have hsays := hsays hgrounded
  simp only [hvalue] at hsays
  exact ⟨w, hw, hsays⟩

/-- **Silence is not truth** in a negation or in a disjunction.  The negation of a filter without
comparisons has no condition, though the filter is false.  The disjunction of one and of a
comparison is that comparison, though the filter is true. -/
theorem silence_not_truth :
    (∃ f w, Filter.ofWire (.object [("$not", .object [])]) = .ok f ∧ f.WellFormed
      ∧ whereText (.object [("$not", .object [])]) = .ok w ∧ w.text = ""
      ∧ ¬ Says w.text fun truth => f.holds truth 0)
    ∧ ∃ f w, Filter.ofWire (.object [("$or", .list [.object [], .object [("a", .int 1)]])]) = .ok f
      ∧ f.WellFormed
      ∧ whereText (.object [("$or", .list [.object [], .object [("a", .int 1)]])]) = .ok w
      ∧ w.text = "(c.a = @p0)" ∧ ¬ Says w.text fun truth => f.holds truth 0 := by
  have hnone : (Filter.combine Filter.andOp []).WellFormed := .combine _ (by simp)
  have hholds (truth : Probe → Bool) : (Filter.combine Filter.andOp []).holds truth 0 = true := by
    rw [Filter.holds, Filter.truths]
    rfl
  constructor
  · -- Negated, the part without conditions would make the text false, but it has none.
    let f : Filter := (Filter.combine Filter.andOp []).not
    have hf : f.Expressible := .negation (.conjunction (by simp))
    refine ⟨f, _, rfl, .combine _ (List.forall_mem_singleton.2 hnone), rfl, by decide, ?_⟩
    intro hsays
    have hvalue : f.holds (fun _ => false) 0 = (f.verdict (fun _ => false) 0).getD true :=
      hsays.unique (says_verdict hf) _
    have hverdict : f.verdict (fun _ => false) 0 = none := rfl
    rw [Filter.holds_not, hholds, hverdict] at hvalue
    contradiction
  · -- In a disjunction it would make the text true, but it is left out.
    let a : Filter := .compare "a" "$eq" (.int 1)
    let f : Filter := (Filter.combine Filter.andOp []).or a
    have hf : f.Expressible := .disjunction (List.forall_mem_cons.2
      ⟨.conjunction (by simp), List.forall_mem_singleton.2 (.compare rfl ..)⟩)
    refine ⟨f, _, rfl, ?_, rfl, by decide, ?_⟩
    · exact .combine _ (List.forall_mem_cons.2
        ⟨hnone, List.forall_mem_singleton.2 (.compare (by decide))⟩)
    · intro hsays
      have hvalue : f.holds (fun _ => false) 0 = (f.verdict (fun _ => false) 0).getD true :=
        hsays.unique (says_verdict hf) _
      have hverdict : f.verdict (fun _ => false) 0 = some false := rfl
      rw [Filter.holds_or, hholds, Bool.true_or, hverdict] at hvalue
      contradiction

end Sql

end EntityStore
