import EntityStore.Proofs.Sql.Reference

/-!
# Conditions of a statement

A `Formula` is what the condition of a statement says: probes of single fields, put together by
conjunction, disjunction and negation.  `readCondition` reads one from tokens, where a negation
binds more tightly than a conjunction and a conjunction more tightly than a disjunction.

A probe may begin with `NOT` itself.  So truth is given to the probes that do not (`Probe.holds`).

Two formulas are alike when they differ in nested conjunctions and in conjunctions and disjunctions
of one part.  `Formula.normal` is the same for both, and says the same as the formula
(`holds_normal`).
-/

namespace EntityStore.Sql

open Token

/-- **What one test of a statement says** of a field.  The value that it compares with is bound to
a placeholder. -/
inductive Probe where
  | compare (c : Comparator) (field : Route) (bound : String)
  | member (negated : Bool) (field : Route) (bound : String)
  | presence (expected : Bool) (field : Route)
  | onText (t : TextTest) (field : Route) (bound : String)
deriving DecidableEq, Repr

/-- **What the condition of a statement says.** -/
inductive Formula where
  | probe (p : Probe)
  | all (parts : List Formula)
  | any (parts : List Formula)
  | negation (part : Formula)

/-- The truth of a probe, given that of the probes that begin with no `NOT`. -/
def Probe.holds (truth : Probe → Bool) : Probe → Bool
  | .presence false field => !truth (.presence true field)
  | .onText .notStartsWith field bound => !truth (.onText .startsWith field bound)
  | p => truth p

/-- The placeholder of a probe, if it has one. -/
def Probe.placeholders : Probe → List String
  | .compare _ _ bound | .member _ _ bound | .onText _ _ bound => [bound]
  | .presence .. => []

namespace Formula

/-- What holds of a formula whenever it holds of its parts holds of every formula. -/
@[elab_as_elim]
theorem induction {motive : Formula → Prop} (probe : ∀ p, motive (.probe p))
    (all : ∀ parts, (∀ f ∈ parts, motive f) → motive (.all parts))
    (any : ∀ parts, (∀ f ∈ parts, motive f) → motive (.any parts))
    (negation : ∀ part, motive part → motive (.negation part)) (f : Formula) : motive f :=
  Formula.rec (motive_2 := fun fs => ∀ f ∈ fs, motive f) probe all any negation
    (fun _ hf => absurd hf (List.not_mem_nil))
    (fun _ _ hf hfs g hg => (List.mem_cons.1 hg).elim (fun h => h ▸ hf) (hfs g)) f

/-! ### Truth -/

mutual

/-- **The truth of a formula**, given that of the probes that begin with no `NOT`. -/
def holds (truth : Probe → Bool) : Formula → Bool
  | .probe p => p.holds truth
  | .all parts => allHold truth parts
  | .any parts => anyHolds truth parts
  | .negation part => !part.holds truth

/-- Whether each of a list of formulas is true. -/
def allHold (truth : Probe → Bool) : List Formula → Bool
  | [] => true
  | f :: r => f.holds truth && allHold truth r

/-- Whether one of a list of formulas is true. -/
def anyHolds (truth : Probe → Bool) : List Formula → Bool
  | [] => false
  | f :: r => f.holds truth || anyHolds truth r

end

theorem allHold_eq (truth : Probe → Bool) (fs : List Formula) :
    allHold truth fs = fs.all (holds truth) := by
  induction fs with
  | nil => rfl
  | cons f fs ih => rw [allHold, ih, List.all_cons]

theorem anyHolds_eq (truth : Probe → Bool) (fs : List Formula) :
    anyHolds truth fs = fs.any (holds truth) := by
  induction fs with
  | nil => rfl
  | cons f fs ih => rw [anyHolds, ih, List.any_cons]

/-! ### The normal form -/

/-- The conjunction of a list; a single formula stands for itself. -/
def conjunction : List Formula → Formula
  | [f] => f
  | fs => .all fs

/-- The disjunction of a list; a single formula stands for itself. -/
def disjunction : List Formula → Formula
  | [f] => f
  | fs => .any fs

/-- The conjuncts of a disjunction, given those of its parts. -/
def disjoined : List (List Formula) → List Formula
  | [fs] => fs
  | fss => [.any (fss.map conjunction)]

mutual

/-- What a formula is the conjunction of, in normal form. -/
def conjuncts : Formula → List Formula
  | .probe p => [.probe p]
  | .all parts => (conjunctsOfEach parts).flatten
  | .any parts => disjoined (conjunctsOfEach parts)
  | .negation part => [.negation (conjunction (conjuncts part))]

/-- What each of a list of formulas is the conjunction of. -/
def conjunctsOfEach : List Formula → List (List Formula)
  | [] => []
  | f :: r => conjuncts f :: conjunctsOfEach r

end

/-- **The normal form of a formula**: no conjunction is part of a conjunction, and no conjunction
or disjunction has a single part. -/
def normal (f : Formula) : Formula := conjunction (conjuncts f)

theorem conjunctsOfEach_eq (fs : List Formula) : conjunctsOfEach fs = fs.map conjuncts := by
  induction fs with
  | nil => rfl
  | cons f fs ih => rw [conjunctsOfEach, ih, List.map_cons]

theorem conjuncts_all (fs : List Formula) : conjuncts (.all fs) = fs.flatMap conjuncts := by
  rw [conjuncts, conjunctsOfEach_eq, List.flatMap_def]

theorem conjuncts_any (fs : List Formula) : conjuncts (.any fs) = disjoined (fs.map conjuncts) := by
  rw [conjuncts, conjunctsOfEach_eq]

theorem conjuncts_conjunction (fs : List Formula) :
    conjuncts (conjunction fs) = fs.flatMap conjuncts := by
  unfold conjunction
  split
  · rw [List.flatMap_singleton]
  · exact conjuncts_all fs

theorem conjuncts_disjunction (fs : List Formula) :
    conjuncts (disjunction fs) = disjoined (fs.map conjuncts) := by
  unfold disjunction
  split
  · rfl
  · exact conjuncts_any fs

theorem holds_conjunction (truth : Probe → Bool) (fs : List Formula) :
    (conjunction fs).holds truth = fs.all (holds truth) := by
  unfold conjunction
  split
  · rw [List.all_cons, List.all_nil, Bool.and_true]
  · rw [holds, allHold_eq]

/-- The conjuncts of a formula are all true exactly when the formula is. -/
theorem all_conjuncts (truth : Probe → Bool) (f : Formula) :
    (conjuncts f).all (holds truth) = f.holds truth := by
  induction f using induction with
  | probe p => rw [conjuncts, List.all_cons, List.all_nil, Bool.and_true]
  | all parts ih =>
    rw [conjuncts_all, List.all_flatMap, holds, allHold_eq, Bool.eq_iff_iff, List.all_eq_true,
      List.all_eq_true]
    exact forall₂_congr fun f hf => by rw [ih f hf]
  | any parts ih =>
    have hparts : (disjoined (parts.map conjuncts)).all (holds truth)
        = (parts.map conjuncts).any fun fs => fs.all (holds truth) := by
      unfold disjoined
      split
      · next h => rw [h, List.any_cons, List.any_nil, Bool.or_false]
      · rw [List.all_cons, List.all_nil, Bool.and_true, holds, anyHolds_eq, List.any_map]
        congr 1
        funext fs
        exact holds_conjunction truth fs
    rw [conjuncts_any, hparts, List.any_map, holds, anyHolds_eq, Bool.eq_iff_iff,
      List.any_eq_true, List.any_eq_true]
    exact exists_congr fun f => and_congr_right fun hf => by rw [Function.comp_apply, ih f hf]
  | negation part ih =>
    rw [conjuncts, List.all_cons, List.all_nil, Bool.and_true, holds, holds_conjunction, ih, holds]

/-- **The normal form says the same.** -/
theorem holds_normal (truth : Probe → Bool) (f : Formula) :
    f.normal.holds truth = f.holds truth := by
  rw [normal, holds_conjunction, all_conjuncts]

end Formula

/-! ### Reading -/

/-- The test that follows a reference. -/
def readTest (field : Route) : Reader Probe
  | .comparator c :: .placeholder bound :: r => some (.compare c field bound, r)
  | .word w :: .placeholder bound :: r =>
    if w = "IN" then some (.member false field bound, r) else none
  | .word v :: .word w :: .placeholder bound :: r =>
    if v = "NOT" ∧ w = "IN" then some (.member true field bound, r) else none
  | _ => none

/-- What follows the reference that a function is given. -/
def readArguments (negated : Bool) (function : String) (field : Route) : Reader Probe
  | .closing :: r =>
    if function = "IS_DEFINED" then some (.presence (!negated) field, r) else none
  | .comma :: .placeholder bound :: .closing :: r =>
    if function = "STARTSWITH" then
      some (.onText (if negated then .notStartsWith else .startsWith) field bound, r)
    else if function = "REGEX_MATCH" ∧ negated = false then
      some (.onText .matchesRegex field bound, r)
    else none
  | _ => none

/-- The test that a function makes, behind its opening parenthesis. -/
def readCall (negated : Bool) (function : String) : Reader Probe := fun ts =>
  (readReference ts).bind fun (field, r) => readArguments negated function field r

/-- Reads a conjunction of units. -/
def readAll (unit : Reader Formula) : Reader Formula := fun ts =>
  (joined (.word "AND") unit ts).map fun (fs, r) => (.conjunction fs, r)

/-- Reads a disjunction of conjunctions of units. -/
def readAny (unit : Reader Formula) : Reader Formula := fun ts =>
  (joined (.word "OR") (readAll unit) ts).map fun (fs, r) => (.disjunction fs, r)

/-- Reads the probe that begins with a word: a call of a function, or a test of a reference. -/
def readProbe (w : String) : Reader Probe
  | .opening :: r => readCall false w r
  | r => (readReference (.word w :: r)).bind fun (field, r) => readTest field r

/-- Reads what a `NOT` negates.  A `NOT` before a function belongs to the probe. -/
def readNegation (unit : Reader Formula) : Reader Formula
  | .word w :: .opening :: r => (readCall true w r).map fun (p, r) => (.probe p, r)
  | r => (unit r).map fun (f, r) => (.negation f, r)

/-- Reads a unit: a condition in parentheses, a negation, or a probe. -/
def readUnit : (depth : Nat) → Reader Formula
  | 0, _ => none
  | n + 1, .opening :: r => do
    let (f, r) ← readAny (readUnit n) r
    let r ← expect .closing r
    return (f, r)
  | n + 1, .word w :: r =>
    if w = "NOT" then readNegation (readUnit n) r
    else (readProbe w r).map fun (p, r) => (.probe p, r)
  | _ + 1, _ => none

/-- **Reads a condition.**  Negation binds most tightly, then conjunction, then disjunction. -/
def readCondition : Reader Formula := fun ts => readAny (readUnit ts.length) ts

/-! ### The tokens of a probe are read -/

/-- The tokens of the operator of a test on texts. -/
def TextTest.tokens : TextTest → List Token
  | .matchesRegex => [.word "REGEX_MATCH"]
  | .startsWith => [.word "STARTSWITH"]
  | .notStartsWith => [.word "NOT", .word "STARTSWITH"]

/-- The tokens of a probe. -/
def Probe.tokens : Probe → List Token
  | .compare c field bound => field.tokens ++ [.comparator c, .placeholder bound]
  | .member false field bound => field.tokens ++ [.word "IN", .placeholder bound]
  | .member true field bound => field.tokens ++ [.word "NOT", .word "IN", .placeholder bound]
  | .presence true field => .word "IS_DEFINED" :: .opening :: field.tokens ++ [.closing]
  | .presence false field =>
    .word "NOT" :: .word "IS_DEFINED" :: .opening :: field.tokens ++ [.closing]
  | .onText t field bound =>
    t.tokens ++ .opening :: field.tokens ++ [.comma, .placeholder bound, .closing]

/-- Any token may follow. -/
def always (_ : Token) : Prop := True

/-- A probe that begins with a reference. -/
theorem readProbe_reference (field : Route) {t : Token} (hend : endsRoute t) (hopen : t ≠ .opening)
    (r : List Token) :
    readProbe documentAlias (field.flatMap Accessor.tokens ++ t :: r) = readTest field (t :: r) := by
  have hread := reads_reference field (t :: r) (Follows.cons hend r)
  rw [Route.tokens, List.cons_append] at hread
  rw [readProbe, hread, Option.bind_some]
  intro q h
  cases field with
  | nil => exact hopen (List.cons.inj h).1
  | cons a field => cases a <;> simp [Accessor.tokens] at h

/-- A function and the reference that it is given. -/
theorem readCall_reference (negated : Bool) (function : String) (field : Route) {t : Token}
    (hend : endsRoute t) (r : List Token) :
    readCall negated function (field.tokens ++ t :: r)
      = readArguments negated function field (t :: r) := by
  rw [readCall, reads_reference field (t :: r) (Follows.cons hend r), Option.bind_some]

/-- A probe has tokens. -/
theorem Probe.tokens_pos (p : Probe) : 0 < p.tokens.length := by
  cases p with
  | compare => simp [Probe.tokens]
  | member negated => cases negated <;> simp [Probe.tokens]
  | presence expected => cases expected <;> simp [Probe.tokens]
  | onText =>
    simp only [Probe.tokens, List.length_append, List.length_cons]
    omega

/-- **The tokens of a probe are read as that probe**, whatever follows. -/
theorem reads_probe (p : Probe) : ReadsWithin always readUnit p.tokens (.probe p) := by
  intro n hn r _
  obtain ⟨n, rfl⟩ : ∃ m, n = m + 1 :=
    Nat.exists_eq_succ_of_ne_zero (Nat.ne_of_gt (Nat.lt_of_lt_of_le p.tokens_pos hn))
  cases p with
  | compare c field bound =>
    -- What comes behind the reference does not continue it; so in all cases.
    have hend : endsRoute (.comparator c) := by simp [endsRoute]
    simp only [Probe.tokens, Route.tokens, List.cons_append, List.append_assoc, List.nil_append]
    rw [readUnit, if_neg (by decide), readProbe_reference field hend (by simp)]
    rfl
  | member negated field bound =>
    have hend (w : String) : endsRoute (.word w) := by simp [endsRoute]
    cases negated with
    | false =>
      simp only [Probe.tokens, Route.tokens, List.cons_append, List.append_assoc, List.nil_append]
      rw [readUnit, if_neg (by decide), readProbe_reference field (hend "IN") (by simp)]
      rfl
    | true =>
      simp only [Probe.tokens, Route.tokens, List.cons_append, List.append_assoc, List.nil_append]
      rw [readUnit, if_neg (by decide), readProbe_reference field (hend "NOT") (by simp)]
      rfl
  -- The probe begins with a function, or with a negation in front of it.
  | presence expected field =>
    have hend : endsRoute .closing := by simp [endsRoute]
    cases expected with
    | true =>
      simp only [Probe.tokens, List.cons_append, List.append_assoc, List.nil_append]
      rw [readUnit, if_neg (by decide), readProbe, readCall_reference _ _ field hend]
      rfl
    | false =>
      simp only [Probe.tokens, List.cons_append, List.append_assoc, List.nil_append]
      rw [readUnit, if_pos rfl, readNegation, readCall_reference _ _ field hend]
      rfl
  | onText t field bound =>
    have hend : endsRoute .comma := by simp [endsRoute]
    cases t with
    | matchesRegex | startsWith =>
      simp only [Probe.tokens, TextTest.tokens, List.cons_append, List.append_assoc,
        List.nil_append]
      rw [readUnit, if_neg (by decide), readProbe, readCall_reference _ _ field hend]
      rfl
    | notStartsWith =>
      simp only [Probe.tokens, TextTest.tokens, List.cons_append, List.append_assoc,
        List.nil_append]
      rw [readUnit, if_pos rfl, readNegation, readCall_reference _ _ field hend]
      rfl

/-! ### Conditions are read -/

/-- Tokens that are read as a unit. -/
def ReadsUnit : List Token → Formula → Prop := ReadsWithin always readUnit

/-- Tokens that are read as a conjunction of units. -/
def ReadsAll : List Token → Formula → Prop :=
  ReadsWithin (fun t => always t ∧ t ≠ .word "AND") fun n => readAll (readUnit n)

/-- What does not go on with a condition. -/
def endsCondition (t : Token) : Prop := (always t ∧ t ≠ .word "AND") ∧ t ≠ .word "OR"

/-- Tokens that are read as a disjunction of conjunctions of units. -/
def ReadsAny : List Token → Formula → Prop :=
  ReadsWithin endsCondition fun n => readAny (readUnit n)

theorem reads_conjunction {tss : List (List Token)} {fs : List Formula}
    (h : List.Forall₂ ReadsUnit tss fs) (hne : fs ≠ []) :
    ReadsAll ([.word "AND"].intercalate tss) (.conjunction fs) :=
  (ReadsWithin.joined trivial h hne).map Formula.conjunction

theorem reads_disjunction {tss : List (List Token)} {fs : List Formula}
    (h : List.Forall₂ ReadsAll tss fs) (hne : fs ≠ []) :
    ReadsAny ([.word "OR"].intercalate tss) (.disjunction fs) :=
  (ReadsWithin.joined ⟨trivial, by decide⟩ h hne).map Formula.disjunction

/-- A condition in parentheses is a unit. -/
theorem reads_group {ts : List Token} {f : Formula} (h : ReadsAny ts f) :
    ReadsUnit (.opening :: ts ++ [.closing]) f := by
  intro n hn r _
  obtain ⟨n, rfl⟩ : ∃ m, n = m + 1 := Nat.exists_eq_succ_of_ne_zero (by
    rintro rfl
    exact absurd hn (by simp))
  simp only [List.length_cons, List.length_append, List.length_nil] at hn
  -- The parentheses are two tokens, so one step of depth less is enough inside of them.
  have hread : readAny (readUnit n) (ts ++ .closing :: r) = some (f, .closing :: r) :=
    h n (by omega) (.closing :: r) (Follows.cons ⟨⟨trivial, by decide⟩, by decide⟩ r)
  rw [List.cons_append, List.cons_append, List.append_assoc, List.singleton_append, readUnit, hread]
  rfl

/-- The negation of a condition in parentheses is a unit. -/
theorem reads_negation {ts : List Token} {f : Formula} (h : ReadsAny ts f) :
    ReadsUnit (.word "NOT" :: .opening :: ts ++ [.closing]) (.negation f) := by
  intro n hn r hr
  obtain ⟨n, rfl⟩ : ∃ m, n = m + 1 := Nat.exists_eq_succ_of_ne_zero (by
    rintro rfl
    exact absurd hn (by simp))
  simp only [List.length_cons, List.length_append, List.length_nil] at hn
  have hread := reads_group h n
    (by simp only [List.length_cons, List.length_append, List.length_nil]; omega) r hr
  rw [List.cons_append, List.cons_append, readUnit, if_pos rfl, readNegation, hread]
  · rfl
  · rintro w q ⟨⟩

/-- **Tokens that are read as a condition** are read as it in front of others. -/
theorem readCondition_eq {ts r : List Token} {f : Formula} (h : ReadsAny ts f)
    (hr : Follows endsCondition r) : readCondition (ts ++ r) = some (f, r) :=
  h (ts ++ r).length (by rw [List.length_append]; exact Nat.le_add_right _ _) r hr

end EntityStore.Sql
