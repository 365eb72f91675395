import EntityStore.Proofs.Sql.Formula

/-!
# The text of a condition is read back

`Condition.formula? n` is what a condition says when its first bound value has the number `n`: the
parts that have no text are left out, and a conjunction or disjunction without parts says nothing.

`Condition.spelled` is the main statement.  A condition that says nothing has the empty text, and
the text of any other is read as a formula with the same normal form and the same placeholders in
the same order (`Spells.read`).  It follows the shape of the condition: `Spells.all`, `Spells.any`
and `Spells.negation` put together what holds of the parts.
-/

namespace EntityStore.Sql

open Token

/-! ### What a condition says -/

/-- What a test of the field at a path says, when its value is the `n`-th bound one. -/
def Test.probe (path : String) (n : Nat) : Test → Probe
  | .compare c _ => .compare c (routeOf path) (placeholder n)
  | .member negated _ => .member negated (routeOf path) (placeholder n)
  | .presence expected => .presence expected (routeOf path)
  | .onText t _ => .onText t (routeOf path) (placeholder n)

/-- What is made of a list, unless there is nothing in it. -/
def unlessNone {α β : Type} (make : List α → β) : List α → Option β
  | [] => none
  | as => some (make as)

@[simp] theorem unlessNone_nil {α β : Type} (make : List α → β) : unlessNone make [] = none := rfl

@[simp] theorem unlessNone_cons {α β : Type} (make : List α → β) (a : α) (as : List α) :
    unlessNone make (a :: as) = some (make (a :: as)) := rfl

namespace Formula

mutual

/-- **The placeholders of a formula**, from left to right. -/
def placeholders : Formula → List String
  | .probe p => p.placeholders
  | .all parts | .any parts => placeholdersOfParts parts
  | .negation part => part.placeholders

/-- The placeholders of a list of formulas. -/
def placeholdersOfParts : List Formula → List String
  | [] => []
  | f :: r => f.placeholders ++ placeholdersOfParts r

end

theorem placeholdersOfParts_eq (fs : List Formula) :
    placeholdersOfParts fs = fs.flatMap placeholders := by
  induction fs with
  | nil => rfl
  | cons f fs ih => rw [placeholdersOfParts, ih, List.flatMap_cons]

end Formula

namespace Condition

mutual

/-- **What a condition says** whose first bound value has the number `n`; `none` when it says
nothing. -/
def formula? (n : Nat) : Condition → Option Formula
  | .test path t => some (.probe (t.probe path n))
  | .all parts => unlessNone .all (formulas n parts)
  | .any parts => unlessNone .any (formulas n parts)
  | .negation part => (part.formula? n).map .negation
  | .silent _ => none

/-- What the conditions of a list say that say something. -/
def formulas (n : Nat) : List Condition → List Formula
  | [] => []
  | c :: r => (c.formula? n).toList ++ formulas (n + c.values.length) r

end

/-- What holds of a condition whenever it holds of its parts holds of every condition. -/
@[elab_as_elim]
theorem induction {motive : Condition → Prop} (test : ∀ path t, motive (.test path t))
    (all : ∀ parts, (∀ c ∈ parts, motive c) → motive (.all parts))
    (any : ∀ parts, (∀ c ∈ parts, motive c) → motive (.any parts))
    (negation : ∀ part, motive part → motive (.negation part))
    (silent : ∀ parts, motive (.silent parts)) (c : Condition) : motive c :=
  Condition.rec (motive_2 := fun cs => ∀ c ∈ cs, motive c) test all any negation
    (fun parts _ => silent parts) (fun _ hc => absurd hc List.not_mem_nil)
    (fun _ _ hc hcs d hd => (List.mem_cons.1 hd).elim (fun h => h ▸ hc) (hcs d)) c

end Condition

/-! ### Texts that are read as formulas -/

/-- The word `NOT` and a blank, in front of a piece. -/
theorem Piece.not {s : List Char} {ts : List Token} (h : Piece s ts) :
    Piece ("NOT ".toList ++ s) (.word "NOT" :: ts) :=
  Piece.leading "NOT" (by decide) h

/-- **A text that is read as a formula**, up to the normal form, and holds its placeholders. -/
def Spells (s : List Char) (f : Formula) : Prop :=
  ∃ tss us, us ≠ [] ∧ Piece s ([.word "AND"].intercalate tss)
    ∧ List.Forall₂ ReadsUnit tss us ∧ us.flatMap Formula.conjuncts = f.conjuncts
    ∧ placeholders ([.word "AND"].intercalate tss) = f.placeholders

/-- Only the tokens between the separators are placeholders. -/
theorem placeholders_intercalate {t : Token} (ht : t.placeholder? = none)
    (tss : List (List Token)) :
    placeholders ([t].intercalate tss) = tss.flatMap placeholders := by
  have hsep : placeholders [t] = [] := List.filterMap_cons_none ht
  induction tss with
  | nil => rfl
  | cons ts tss ih =>
    cases tss with
    | nil => rw [List.intercalate_singleton, List.flatMap_singleton]
    | cons us uss =>
      rw [List.intercalate_cons_cons, placeholders_append, placeholders_append, hsep,
        List.append_nil, ih]
      rfl

/-- Parentheses are no placeholders. -/
theorem placeholders_enclosed (ts : List Token) :
    placeholders (.opening :: ts ++ [.closing]) = placeholders ts := by
  rw [placeholders_append]
  exact List.append_nil (placeholders ts)

/-- Two joined lists, joined, are one joined list. -/
theorem intercalate_append {α : Type} {separator : List α} {xs ys : List (List α)} (hx : xs ≠ [])
    (hy : ys ≠ []) :
    separator.intercalate (xs ++ ys)
      = separator.intercalate xs ++ separator ++ separator.intercalate ys := by
  induction xs with
  | nil => contradiction
  | cons x xs ih =>
    cases xs with
    | nil => rw [List.singleton_append, List.intercalate_cons_of_ne_nil hy,
        List.intercalate_singleton]
    | cons x' xs =>
      rw [List.cons_append, List.cons_append, List.intercalate_cons_cons, ← List.cons_append,
        ih (by simp), List.intercalate_cons_cons]
      simp only [List.append_assoc]

/-- A joined list of joined lists is one joined list. -/
theorem intercalate_flatten {α : Type} (separator : List α) {xss : List (List (List α))}
    (hne : ∀ xs ∈ xss, xs ≠ []) :
    separator.intercalate (xss.map separator.intercalate) = separator.intercalate xss.flatten := by
  induction xss with
  | nil => rfl
  | cons xs xss ih =>
    have hxs : xs ≠ [] := hne xs List.mem_cons_self
    have hrest := ih fun ys h => hne ys (List.mem_cons_of_mem xs h)
    rw [List.map_cons, List.flatten_cons]
    cases xss with
    | nil => rw [List.map_nil, List.intercalate_singleton, List.flatten_nil, List.append_nil]
    | cons ys yss =>
      have hflat : (ys :: yss).flatten ≠ [] := by
        rw [List.flatten_cons]
        exact fun h => hne ys (by simp) (List.append_eq_nil_iff.1 h).1
      rw [List.intercalate_cons_of_ne_nil (by simp), hrest, intercalate_append hxs hflat]

namespace Spells

variable {s : List Char} {f : Formula}

/-- A text that is read as one unit. -/
theorem ofUnit {ts : List Token} {u : Formula} (hp : Piece s ts) (hu : ReadsUnit ts u)
    (hc : u.conjuncts = f.conjuncts) (hn : placeholders ts = f.placeholders) : Spells s f := by
  refine ⟨[ts], [u], by simp, ?_, .cons hu .nil, ?_, ?_⟩
  · rw [List.intercalate_singleton]
    exact hp
  · rw [List.flatMap_singleton, hc]
  · rw [List.intercalate_singleton, hn]

/-- A text that is read as a formula is read as a conjunction. -/
theorem readsAll (h : Spells s f) :
    ∃ ts g, Piece s ts ∧ ReadsAll ts g ∧ g.conjuncts = f.conjuncts
      ∧ placeholders ts = f.placeholders := by
  obtain ⟨tss, us, hne, hp, hunits, hc, hn⟩ := h
  refine ⟨_, _, hp, reads_conjunction hunits hne, ?_, hn⟩
  rw [Formula.conjuncts_conjunction, hc]

/-- **A text that is read as a formula is read as a condition** with the same normal form. -/
theorem readsAny (h : Spells s f) :
    ∃ ts g, Piece s ts ∧ ReadsAny ts g ∧ g.conjuncts = f.conjuncts
      ∧ placeholders ts = f.placeholders := by
  obtain ⟨ts, g, hp, hg, hc, hn⟩ := h.readsAll
  have hany := reads_disjunction (.cons hg .nil) (by simp)
  rw [List.intercalate_singleton] at hany
  exact ⟨ts, g, hp, hany, hc, hn⟩

/-- **What is read of such a text**: its tokens are a condition, whatever follows that does not go
on with one. -/
theorem read (h : Spells s f) :
    ∃ ts g, Piece s ts
      ∧ (∀ r, Follows endsCondition r → readCondition (ts ++ r) = some (g, r))
      ∧ g.normal = f.normal ∧ placeholders ts = f.placeholders := by
  obtain ⟨ts, g, hp, hg, hc, hn⟩ := h.readsAny
  refine ⟨ts, g, hp, fun r hr => readCondition_eq hg hr, ?_, hn⟩
  rw [Formula.normal, Formula.normal, hc]

/-- Such a text is not empty. -/
theorem ne_nil (h : Spells s f) : s ≠ [] := by
  obtain ⟨ts, g, hp, hg, -⟩ := h.readsAny
  refine hp.ne_nil ?_
  rintro rfl
  have hread := hg 0 (Nat.le_refl 0) [] (Follows.nil _)
  contradiction

theorem isEmpty_eq_false {s : String} (h : Spells s.toList f) : s.isEmpty = false := by
  rw [String.isEmpty_eq_false_iff]
  rintro rfl
  exact h.ne_nil String.toList_empty

/-- The texts of the parts of a disjunction or conjunction. -/
theorem readsAll_of_forall₂ {ss : List (List Char)} {fs : List Formula}
    (h : List.Forall₂ Spells ss fs) :
    ∃ tss gs, List.Forall₂ Piece ss tss ∧ List.Forall₂ ReadsAll tss gs
      ∧ gs.map Formula.conjuncts = fs.map Formula.conjuncts
      ∧ tss.flatMap placeholders = fs.flatMap Formula.placeholders := by
  induction h with
  | nil => exact ⟨[], [], .nil, .nil, rfl, rfl⟩
  | cons hf _ ih =>
    obtain ⟨ts, g, hp, hg, hc, hn⟩ := hf.readsAll
    obtain ⟨tss, gs, hps, hgs, hcs, hns⟩ := ih
    refine ⟨ts :: tss, g :: gs, .cons hp hps, .cons hg hgs, ?_, ?_⟩
    · rw [List.map_cons, List.map_cons, hc, hcs]
    · rw [List.flatMap_cons, List.flatMap_cons, hn, hns]

/-- **A disjunction in parentheses.** -/
theorem any {ss : List (List Char)} {fs : List Formula} (h : List.Forall₂ Spells ss fs)
    (hne : fs ≠ []) :
    Spells ('(' :: " OR ".toList.intercalate ss ++ [')']) (.any fs) := by
  obtain ⟨tss, gs, hps, hgs, hcs, hns⟩ := readsAll_of_forall₂ h
  have hgne : gs ≠ [] := by
    rintro rfl
    exact hne (List.map_eq_nil_iff.1 hcs.symm)
  have hjoined : Piece (" OR ".toList.intercalate ss) ([.word "OR"].intercalate tss) :=
    Piece.intercalate (by decide) (Piece.keyword "OR" (by decide)) hps
  refine ofUnit hjoined.enclosed (reads_group (reads_disjunction hgs hgne)) ?_ ?_
  · rw [Formula.conjuncts_disjunction, Formula.conjuncts_any, hcs]
  · rw [placeholders_enclosed, placeholders_intercalate rfl, hns, Formula.placeholders,
      Formula.placeholdersOfParts_eq]

/-- **A negation**, which puts its part in parentheses. -/
theorem negation (h : Spells s f) : Spells ("NOT (".toList ++ s ++ [')']) (.negation f) := by
  obtain ⟨ts, g, hp, hg, hc, hn⟩ := h.readsAny
  have hpiece : Piece ("NOT (".toList ++ s ++ [')'])
      (.word "NOT" :: .opening :: ts ++ [.closing]) := hp.enclosed.not
  refine ofUnit hpiece (reads_negation hg) ?_ ?_
  · rw [Formula.conjuncts, Formula.conjuncts, hc]
  · have hword : placeholders (.word "NOT" :: .opening :: ts ++ [.closing])
        = placeholders (.opening :: ts ++ [.closing]) := List.filterMap_cons_none rfl
    rw [hword, placeholders_enclosed, hn, Formula.placeholders]

/-- The texts of the parts of a conjunction, and the units that they are made of. -/
theorem readsUnits_of_forall₂ {ss : List (List Char)} {fs : List Formula}
    (h : List.Forall₂ Spells ss fs) :
    ∃ tsss : List (List (List Token)), ∃ us,
      List.Forall₂ Piece ss (tsss.map [.word "AND"].intercalate) ∧ (∀ tss ∈ tsss, tss ≠ [])
      ∧ List.Forall₂ ReadsUnit tsss.flatten us
      ∧ us.flatMap Formula.conjuncts = fs.flatMap Formula.conjuncts
      ∧ (tsss.map [.word "AND"].intercalate).flatMap placeholders
        = fs.flatMap Formula.placeholders
      ∧ (fs ≠ [] → us ≠ []) := by
  induction h with
  | nil => exact ⟨[], [], .nil, by simp, .nil, rfl, rfl, id⟩
  | cons hf _ ih =>
    -- The first part is read on its own, and the others behind it.
    obtain ⟨tss, us, hne, hp, hunits, hc, hn⟩ := hf
    obtain ⟨tsss, vs, hps, hnes, hrest, hcs, hns, -⟩ := ih
    refine ⟨tss :: tsss, us ++ vs, .cons hp hps, ?_, ?_, ?_, ?_, ?_⟩
    · intro xs hxs
      rcases List.mem_cons.1 hxs with rfl | hxs
      · rintro rfl
        cases hunits
        exact hne rfl
      · exact hnes xs hxs
    · rw [List.flatten_cons]
      exact List.rel_append hunits hrest
    · rw [List.flatMap_append, List.flatMap_cons, hc, hcs]
    · rw [List.map_cons, List.flatMap_cons, List.flatMap_cons, hn, hns]
    · intro _ hnil
      exact hne (List.append_eq_nil_iff.1 hnil).1

/-- **A conjunction**, which stands bare: the conjunctions among its parts become one with it. -/
theorem all {ss : List (List Char)} {fs : List Formula} (h : List.Forall₂ Spells ss fs)
    (hne : fs ≠ []) : Spells (" AND ".toList.intercalate ss) (.all fs) := by
  obtain ⟨tsss, us, hps, hnes, hunits, hc, hn, hus⟩ := readsUnits_of_forall₂ h
  -- Nothing in the text tells the `AND` between two parts from one inside a part.
  have hjoined : Piece (" AND ".toList.intercalate ss)
      ([.word "AND"].intercalate (tsss.map [.word "AND"].intercalate)) :=
    Piece.intercalate (by decide)
      (Piece.keyword "AND" (by decide)) hps
  have hflat := intercalate_flatten [Token.word "AND"] hnes
  refine ⟨tsss.flatten, us, hus hne, ?_, hunits, ?_, ?_⟩
  · rw [← hflat]
    exact hjoined
  · rw [hc, Formula.conjuncts_all]
  · rw [← hflat, placeholders_intercalate rfl, hn, Formula.placeholders,
      Formula.placeholdersOfParts_eq]

end Spells

/-! ### The text of a test -/

/-- The digits of a number can stand in an identifier. -/
theorem identifierChar_of_mem_toString {n : Nat} {c : Char} (hc : c ∈ (toString n).toList) :
    isIdentifierChar c = true := by
  rw [Nat.toString_eq_ofList_toDigits, String.toList_ofList] at hc
  have hdigit : c.isDigit = true := Nat.isDigit_of_mem_toDigits (by decide) (by decide) hc
  rw [isIdentifierChar, Char.isAlphanum, hdigit, Bool.or_true, Bool.true_or]

/-- A prefix and a number name a placeholder. -/
theorem Piece.numberedPlaceholder {w : List Char} (hw : w.all isIdentifierChar = true) (n : Nat) :
    Piece ('@' :: w ++ (toString n).toList)
      [.placeholder (String.ofList ('@' :: w ++ (toString n).toList))] := by
  refine Piece.placeholder (w := w ++ (toString n).toList) ?_
  intro c hc
  rcases List.mem_append.1 hc with hc | hc
  · exact List.all_eq_true.1 hw c hc
  · exact identifierChar_of_mem_toString hc

/-- The placeholder of a bound value. -/
theorem Piece.bound (n : Nat) :
    Piece (Sql.placeholder n).toList [.placeholder (Sql.placeholder n)] := by
  have hpiece := Piece.numberedPlaceholder (w := ['p']) (by decide) n
  have hname : String.ofList ('@' :: ['p'] ++ (toString n).toList) = Sql.placeholder n := by
    rw [Sql.placeholder, String.ofList_append, String.ofList_toList]
  rw [hname] at hpiece
  rw [Sql.placeholder, String.toList_append]
  exact hpiece

/-- The function of a test on texts. -/
theorem Piece.function (t : TextTest) : Piece t.function.toList t.tokens := by
  have hstartsWith : Piece "STARTSWITH".toList [.word "STARTSWITH"] :=
    Piece.word "STARTSWITH" (by decide)
  cases t with
  | matchesRegex => exact Piece.word "REGEX_MATCH" (by decide)
  | startsWith => exact hstartsWith
  | notStartsWith => exact hstartsWith.not

/-- **The text of a test** is cut into the tokens of its probe. -/
theorem Piece.test (path : String) (n : Nat) (t : Test) :
    Piece (t.text (Sql.reference documentAlias path) n).toList (t.probe path n).tokens := by
  have href := Piece.reference path
  have hbound := Piece.bound n
  cases t with
  | compare c operand =>
    have hafter := Piece.blank (c := ' ') rfl (Piece.comparator c hbound)
    have hpiece := href.append hafter (.cons rfl _)
    simp only [Test.text, String.toList_append, List.append_assoc]
    exact hpiece
  -- In front of `IN` there may be a `NOT`.
  | member negated operand =>
    have hin : Piece (" IN ".toList ++ (Sql.placeholder n).toList)
        [.word "IN", .placeholder (Sql.placeholder n)] :=
      Piece.keyword "IN" (by decide) hbound
    simp only [Test.text, String.toList_append, List.append_assoc]
    cases negated with
    | false => exact href.append hin (.cons rfl _)
    | true =>
      have hnot := (Piece.word "NOT" (by decide)).append hin (.cons rfl _)
      exact href.append (Piece.blank (c := ' ') rfl hnot) (.cons rfl _)
  -- A `NOT` stands in front of the whole call.
  | presence expected =>
    have hcall : "IS_DEFINED(".toList = "IS_DEFINED".toList ++ ['('] := rfl
    have hclose : ")".toList = [')'] := rfl
    have hdefined := (Piece.word "IS_DEFINED" (by decide)).append href.enclosed
      (.cons rfl _)
    simp only [Test.text, String.toList_append, List.append_assoc, hcall, hclose,
      List.singleton_append]
    cases expected with
    | true =>
      rw [if_pos rfl, String.toList_empty, List.nil_append]
      exact hdefined
    | false =>
      rw [if_neg (by decide)]
      exact hdefined.not
  | onText t operand =>
    have hopen : "(".toList = ['('] := rfl
    have hcomma : ", ".toList = [',', ' '] := rfl
    have hclose : ")".toList = [')'] := rfl
    have hargs := (href.append (Piece.comma hbound) (.cons rfl _)).enclosed
    have hpiece := (Piece.function t).append hargs (.cons rfl _)
    simp only [Test.text, String.toList_append, Test.probe, Probe.tokens, hopen, hcomma, hclose,
      List.cons_append, List.nil_append, List.append_assoc]
    simp only [List.cons_append, List.nil_append, List.append_assoc] at hpiece
    exact hpiece

/-- A reference holds no placeholder. -/
theorem placeholders_reference (route : Route) : placeholders route.tokens = [] := by
  rw [placeholders, Route.tokens, List.filterMap_eq_nil_iff]
  intro t ht
  rcases List.mem_cons.1 ht with rfl | ht
  · rfl
  · obtain ⟨a, -, ha⟩ := List.mem_flatMap.1 ht
    cases a <;> simp only [Accessor.tokens, List.mem_cons, List.not_mem_nil, or_false] at ha <;>
      rcases ha with rfl | rfl | rfl <;> rfl

/-- The placeholder among the tokens of a probe is its own. -/
theorem placeholders_probe (p : Probe) : placeholders p.tokens = p.placeholders := by
  cases p with
  | compare c field bound =>
    rw [Probe.tokens, placeholders_append, placeholders_reference]
    rfl
  | member negated field bound =>
    cases negated <;> rw [Probe.tokens, placeholders_append, placeholders_reference] <;> rfl
  | presence expected field =>
    have hgroup := placeholders_enclosed field.tokens
    rw [placeholders_reference] at hgroup
    cases expected <;> exact hgroup
  | onText t field bound =>
    have hfunction : placeholders t.tokens = [] := by cases t <;> rfl
    have hgroup : placeholders (.opening :: field.tokens) = placeholders field.tokens :=
      List.filterMap_cons_none rfl
    rw [Probe.tokens, placeholders_append, placeholders_append, hfunction, hgroup,
      placeholders_reference]
    rfl

namespace Condition

/-- **A text and what it says**: the empty text says nothing. -/
def Spelled (s : String) (f? : Option Formula) : Prop :=
  (s = "" ∧ f? = none) ∨ ∃ f, f? = some f ∧ Spells s.toList f

/-- The texts of the conditions of a list that have one are those of what they say. -/
theorem spells_texts {cs : List Condition}
    (h : ∀ c ∈ cs, ∀ n, Spelled (c.textFrom documentAlias n) (c.formula? n)) (n : Nat) :
    List.Forall₂ Spells ((textsFrom documentAlias n cs).map String.toList) (formulas n cs) := by
  induction cs generalizing n with
  | nil => exact .nil
  | cons c cs ih =>
    have hrest := ih (fun d hd => h d (List.mem_cons_of_mem c hd)) (n + c.values.length)
    rw [textsFrom, formulas]
    rcases h c List.mem_cons_self n with ⟨htext, hnone⟩ | ⟨f, hsome, hf⟩
    · rw [htext, hnone]
      exact hrest
    · rw [hsome]
      simp only [hf.isEmpty_eq_false]
      exact .cons hf hrest

/-- None of a list of conditions has a text exactly when none says anything. -/
theorem textsFrom_eq_nil_iff {cs : List Condition} {n : Nat}
    (h : List.Forall₂ Spells ((textsFrom documentAlias n cs).map String.toList) (formulas n cs)) :
    textsFrom documentAlias n cs = [] ↔ formulas n cs = [] := by
  have hlength := h.length_eq
  rw [List.length_map] at hlength
  rw [← List.length_eq_zero_iff, hlength, List.length_eq_zero_iff]

/-- **The text of a condition says what the condition says.** -/
theorem spelled (c : Condition) (n : Nat) :
    Spelled (c.textFrom documentAlias n) (c.formula? n) := by
  induction c using Condition.induction generalizing n with
  | test path t =>
    refine .inr ⟨.probe (t.probe path n), rfl, ?_⟩
    exact .ofUnit (Piece.test path n t) (reads_probe _) rfl (placeholders_probe _)
  -- Parts without a text are left out, and when no other is there, so is the whole.
  | all parts ih =>
    have htexts := spells_texts ih n
    rw [textFrom, formula?]
    cases hfs : formulas n parts with
    | nil =>
      rw [(textsFrom_eq_nil_iff htexts).2 hfs]
      exact .inl ⟨rfl, rfl⟩
    | cons f fs =>
      refine .inr ⟨.all (f :: fs), rfl, ?_⟩
      rw [joinAll, String.toList_intercalate, ← hfs]
      exact .all htexts (by simp [hfs])
  | any parts ih =>
    have htexts := spells_texts ih n
    rw [textFrom, formula?]
    cases hfs : formulas n parts with
    | nil =>
      rw [(textsFrom_eq_nil_iff htexts).2 hfs]
      exact .inl ⟨rfl, rfl⟩
    | cons f fs =>
      -- There are parentheses, since there is a part with a text.
      have hne : (textsFrom documentAlias n parts).isEmpty = false := by
        rw [List.isEmpty_eq_false_iff, ne_eq, textsFrom_eq_nil_iff htexts, hfs]
        exact List.cons_ne_nil f fs
      refine .inr ⟨.any (f :: fs), rfl, ?_⟩
      rw [joinAny, hne, if_neg (by decide), String.toList_append, String.toList_append,
        String.toList_intercalate, ← hfs]
      exact .any htexts (by simp [hfs])
  | negation part ih =>
    rw [textFrom, formula?]
    rcases ih n with ⟨htext, hnone⟩ | ⟨f, hsome, hf⟩
    · rw [htext, hnone]
      exact .inl ⟨rfl, rfl⟩
    · rw [hsome, negated, hf.isEmpty_eq_false, if_neg (by decide)]
      refine .inr ⟨.negation f, rfl, ?_⟩
      rw [String.toList_append, String.toList_append]
      exact hf.negation
  | silent parts => exact .inl ⟨rfl, rfl⟩

end Condition

end EntityStore.Sql
