import EntityStore.Console.Conditions
import Mathlib.Data.List.TakeWhile

/-!
# Two ways to spell conditions

A condition is given in one argument, its three parts with a blank between them, or in three
arguments.  `splitConditions` has to guess which of the two it is looking at, from the number of
arguments and from the number of words in each.

An argument with all three parts is never a single word, so conditions in one argument each are
always told apart, and they come out as they went in: only the first two runs of blanks cut an
argument, and the operand keeps its own.  Arguments by threes are told apart as long as each of
them is a single word.  An operand with a blank inside, such as a text of two words, makes the guess
go wrong: all arguments are then taken for whole conditions, and the first of them, which is a path,
is refused (`splitConditions_spellings`).
-/

namespace EntityStore.Text

/-! ### Words -/

/-- A text has no word exactly when it is blank. -/
theorem firstWord?_eq_none_iff {s : List Char} : firstWord? s = none ↔ s.all isBlank = true := by
  have hdrop : s.dropWhile isBlank = [] ↔ s.all isBlank = true := by
    rw [List.dropWhile_eq_nil_iff, List.all_eq_true]
  rw [← hdrop, firstWord?]
  cases s.dropWhile isBlank <;> simp

/-- The first word of a text that begins with one. -/
theorem firstWord?_cons {c : Char} (hc : isBlank c = false) (r : List Char) :
    firstWord? (c :: r)
      = some (c :: r.takeWhile (!isBlank ·), r.dropWhile (!isBlank ·)) := by
  rw [firstWord?, List.dropWhile_cons_of_neg (by simp [hc])]
  simp [hc]

/-- A blank in front does not change the words. -/
theorem firstWord?_blank {c : Char} (hc : isBlank c = true) (s : List Char) :
    firstWord? (c :: s) = firstWord? s := by
  rw [firstWord?, List.dropWhile_cons_of_pos hc, ← firstWord?]

/-- **A word in front of a text** that is empty or begins with a blank. -/
theorem firstWord?_append {w r : List Char} (hne : w ≠ []) (hw : ∀ c ∈ w, isBlank c = false)
    (hr : ∀ c ∈ r.head?, isBlank c = true) : firstWord? (w ++ r) = some (w, r) := by
  cases w with
  | nil => contradiction
  | cons c w =>
    have hrest : ∀ d ∈ w, (!isBlank d) = true := by
      intro d hd
      simp [hw d (List.mem_cons_of_mem c hd)]
    have hend : r.takeWhile (!isBlank ·) = [] ∧ r.dropWhile (!isBlank ·) = r := by
      cases r with
      | nil => simp
      | cons d r => simp [hr d rfl]
    rw [List.cons_append, firstWord?_cons (hw c List.mem_cons_self),
      List.takeWhile_append_of_pos hrest, List.dropWhile_append_of_pos hrest, hend.1, hend.2,
      List.append_nil]

end EntityStore.Text

namespace EntityStore.Console

open Text

/-! ### Spelling -/

/-- Whether a text can be the path or the operator of a condition in one argument: it is there, and
holds no blank. -/
def isUnbroken (s : String) : Bool := !s.isEmpty && s.toList.all (!isBlank ·)

/-- **A condition that can be spelled.**  Its path and its operator hold no blank, and its operand
begins with none, as every JSON text does that has no blanks in front. -/
structure Condition.Spellable (c : Condition) : Prop where
  path : isUnbroken c.path = true
  operator : isUnbroken c.operator = true
  operand : ∃ d r, c.operand.toList = d :: r ∧ isBlank d = false

/-- A condition in one argument. -/
def Condition.inOne (c : Condition) : String := c.path ++ " " ++ c.operator ++ " " ++ c.operand

/-- A condition in three arguments. -/
def Condition.inThree (c : Condition) : List String := [c.path, c.operator, c.operand]

/-- Whether a blank stands between two words of a text that begins with a word. -/
def hasInnerBlank (s : String) : Bool := !(s.toList.dropWhile (!isBlank ·)).all isBlank

/-! ### One argument -/

theorem isUnbroken_iff {s : String} :
    isUnbroken s = true ↔ s.toList ≠ [] ∧ ∀ c ∈ s.toList, isBlank c = false := by
  simp [isUnbroken, String.toList_eq_nil_iff]

/-- **An argument is cut into the three parts** of the condition that it spells. -/
theorem splitThree_inOne {c : Condition} (h : c.Spellable) :
    splitThree c.inOne = [c.path, c.operator, c.operand] := by
  obtain ⟨hpathNe, hpath⟩ := isUnbroken_iff.1 h.path
  obtain ⟨hoperatorNe, hoperator⟩ := isUnbroken_iff.1 h.operator
  obtain ⟨d, r, hoperand, hd⟩ := h.operand
  have hblank : isBlank ' ' = true := rfl
  have htext : c.inOne.toList
      = c.path.toList ++ ' ' :: (c.operator.toList ++ ' ' :: c.operand.toList) := by
    have hspace : " ".toList = [' '] := rfl
    simp [Condition.inOne, hspace]
  -- The path and the operator end at the first blank, since they hold none.
  have hfirst := firstWord?_append (r := ' ' :: (c.operator.toList ++ ' ' :: c.operand.toList))
    hpathNe hpath (by simp [hblank])
  have hsecond := firstWord?_append (r := ' ' :: c.operand.toList) hoperatorNe hoperator
    (by simp [hblank])
  -- Only the blank in front of the operand is dropped, for the operand begins with none.
  have hthird : (' ' :: c.operand.toList).dropWhile isBlank = d :: r := by
    rw [List.dropWhile_cons_of_pos hblank, hoperand, List.dropWhile_cons_of_neg (by simp [hd])]
  rw [splitThree, htext, hfirst]
  dsimp only
  rw [firstWord?_blank hblank, hsecond]
  dsimp only
  rw [hthird]
  dsimp only
  rw [← hoperand, String.ofList_toList, String.ofList_toList, String.ofList_toList]

theorem conditions_inOne {cs : List Condition} (h : ∀ c ∈ cs, c.Spellable) :
    conditions (cs.map Condition.inOne) = .ok cs := by
  induction cs with
  | nil => rfl
  | cons c cs ih =>
    have hfirst : condition c.inOne = .ok c := by
      rw [condition, splitThree_inOne (h c List.mem_cons_self)]
    have hrest := ih fun d hd => h d (List.mem_cons_of_mem c hd)
    rw [List.map_cons, conditions, hfirst, hrest]
    rfl

/-! ### Three arguments -/

theorem inThrees_inThree (cs : List Condition) : inThrees (cs.flatMap Condition.inThree) = cs := by
  induction cs with
  | nil => rfl
  | cons c cs ih =>
    rw [List.flatMap_cons, Condition.inThree]
    simp only [List.cons_append, List.nil_append, inThrees, ih]

theorem length_inThree (cs : List Condition) :
    (cs.flatMap Condition.inThree).length = 3 * cs.length := by
  induction cs with
  | nil => rfl
  | cons c cs ih =>
    rw [List.flatMap_cons, List.length_append, ih, Condition.inThree]
    simp only [List.length_cons, List.length_nil]
    omega

/-- What holds no blank is cut into itself. -/
theorem splitThree_unbroken {s : String} (h : isUnbroken s = true) : splitThree s = [s] := by
  obtain ⟨hne, hs⟩ := isUnbroken_iff.1 h
  have hword := firstWord?_append (r := []) hne hs (by simp)
  rw [List.append_nil] at hword
  have hend : firstWord? [] = none := rfl
  rw [splitThree, hword]
  dsimp only
  rw [hend]
  dsimp only
  rw [String.ofList_toList]

theorem isWord_unbroken {s : String} (h : isUnbroken s = true) : isWord s = true := by
  rw [isWord, splitThree_unbroken h]
  rfl

/-- **A text that begins with a word is a single word** exactly when no blank stands inside. -/
theorem isWord_eq {s : String} {c : Char} {r : List Char} (hs : s.toList = c :: r)
    (hc : isBlank c = false) : isWord s = !hasInnerBlank s := by
  have hrest : s.toList.dropWhile (!isBlank ·) = r.dropWhile (!isBlank ·) := by
    rw [hs, List.dropWhile_cons_of_pos (by simp [hc])]
  rw [hasInnerBlank, Bool.not_not, hrest, isWord, splitThree, hs, firstWord?_cons hc]
  dsimp only
  cases hnext : firstWord? (r.dropWhile (!isBlank ·)) with
  | none =>
    have hall := firstWord?_eq_none_iff.1 hnext
    rw [hall]
    rfl
  | some p =>
    have hall : (r.dropWhile (!isBlank ·)).all isBlank = false := by
      apply eq_false_of_ne_true
      intro hall
      rw [firstWord?_eq_none_iff.2 hall] at hnext
      contradiction
    rw [hall]
    dsimp only
    -- A second word makes two parts or three.
    cases p.2.dropWhile isBlank <;> rfl

/-- The arguments of conditions are single words as long as no operand has a blank inside. -/
theorem all_isWord_inThree {cs : List Condition} (h : ∀ c ∈ cs, c.Spellable) :
    (cs.flatMap Condition.inThree).all isWord = !cs.any (hasInnerBlank ·.operand) := by
  induction cs with
  | nil => rfl
  | cons c cs ih =>
    have hrest := ih fun d hd => h d (List.mem_cons_of_mem c hd)
    obtain ⟨hpath, hoperator, d, r, hoperand, hd⟩ := h c List.mem_cons_self
    rw [List.flatMap_cons, List.all_append, hrest, Condition.inThree]
    simp only [List.all_cons, List.all_nil, Bool.and_true, isWord_unbroken hpath,
      isWord_unbroken hoperator, isWord_eq hoperand hd, Bool.true_and, List.any_cons, Bool.not_or]

/-! ### Which of the two -/

/-- An argument with all three parts of a condition is no single word. -/
theorem isWord_inOne {c : Condition} (h : c.Spellable) : isWord c.inOne = false := by
  rw [isWord, splitThree_inOne h]
  rfl

/-- **The two ways to spell conditions.**  Conditions in one argument each are read as they are.  So
are conditions in three arguments each, unless an operand has a blank inside: then the first path is
taken for a whole condition, and refused. -/
theorem splitConditions_spellings {c : Condition} {cs : List Condition}
    (h : ∀ d ∈ c :: cs, d.Spellable) :
    splitConditions ((c :: cs).map Condition.inOne) = .ok (c :: cs)
      ∧ splitConditions ((c :: cs).flatMap Condition.inThree)
        = if (c :: cs).any (hasInnerBlank ·.operand) then .error (.notThreeParts c.path)
          else .ok (c :: cs) := by
  constructor
  · have hfirst := isWord_inOne (h c List.mem_cons_self)
    have hall : ((c :: cs).map Condition.inOne).all isWord = false := by
      rw [List.map_cons, List.all_cons, hfirst, Bool.false_and]
    rw [splitConditions, hall, if_neg (by simp), conditions_inOne h]
  · have hlength : ((c :: cs).flatMap Condition.inThree).length % 3 = 0 := by
      rw [length_inThree]
      omega
    rw [splitConditions, all_isWord_inThree h]
    cases (c :: cs).any (hasInnerBlank ·.operand) with
    | false => rw [if_pos ⟨hlength, rfl⟩, inThrees_inThree, if_neg (by decide)]
    | true =>
      have hpath : condition c.path = .error (.notThreeParts c.path) := by
        rw [condition, splitThree_unbroken (h c List.mem_cons_self).path]
      rw [if_neg (by simp), if_pos rfl, List.flatMap_cons, Condition.inThree, List.cons_append,
        conditions, hpath]
      rfl

/-- Two conditions, of which the second has an operand with blanks in it. -/
theorem splitConditions_spellings_list :
    let cs : List Condition := [⟨"age", "gt", "25"⟩, ⟨"tags", "in", "[1, 2] "⟩]
    splitConditions ["age gt 25", "tags in [1, 2] "] = .ok cs
      ∧ splitConditions ["age", "gt", "25", "tags", "in", "[1, 2] "]
        = .error (.notThreeParts "age") := by
  have h : ∀ d ∈ [⟨"age", "gt", "25"⟩, ⟨"tags", "in", "[1, 2] "⟩], Condition.Spellable d := by
    intro d hd
    simp only [List.mem_cons, List.not_mem_nil, or_false] at hd
    rcases hd with rfl | rfl
    · exact ⟨by decide, by decide, '2', ['5'], rfl, by decide⟩
    · exact ⟨by decide, by decide, '[', "1, 2] ".toList, rfl, by decide⟩
  obtain ⟨hone, hthree⟩ := splitConditions_spellings h
  rw [if_pos (by decide)] at hthree
  exact ⟨hone, hthree⟩

/-- **An operand of two words** can be given in one argument, and not in an argument of its own. -/
theorem operand_two_words :
    Json.read "\"Ann Lee\"" = .ok (.str "Ann Lee")
      ∧ splitConditions ["name eq \"Ann Lee\""] = .ok [⟨"name", "eq", "\"Ann Lee\""⟩]
      ∧ splitConditions ["name", "eq", "\"Ann Lee\""] = .error (.notThreeParts "name") :=
  ⟨rfl, rfl, rfl⟩

end EntityStore.Console
