import EntityStore.Proofs.Sql.Condition
import EntityStore.Sql.Statement

/-!
# Renumbered statements

`renamed f` renames the placeholders of a text: outside of quoted names every `@` and the identifier
behind it give way to what `f` makes of them, and all other characters stay.  `shifted k` adds `k` to
the number of a placeholder.

A filter that is compiled after `k` values have been bound has the text and the parameters that it
has alone, with its placeholders shifted by `k` (`filterFrom_add`).  The proof goes along the text.
What holds no placeholder outside of quotes is left as it is (`Fixed`), and that is all of a
condition but its placeholders; a placeholder ends where no identifier can go on (`Renames`).
-/

namespace EntityStore

namespace Sql

open Token

/-! ### Renaming -/

/-- What is behind a quoted text is shorter. -/
theorem length_scan {s w rest : List Char} (h : Text.scan s = some (w, rest)) :
    rest.length ≤ s.length := by
  obtain ⟨⟨ns, q⟩, hunits, heq⟩ := Option.map_eq_some_iff.1 h
  cases heq
  exact length_scanUnits hunits

/-- **A text whose placeholders are renamed.**  A quoted text is copied, and so is a quote that is
not closed with what is behind it. -/
def renamed (f : String → String) : List Char → List Char
  | [] => []
  | c :: r =>
    if c = '"' then
      match _h : Text.scan r with
      | some (_, rest) => c :: (r.take (r.length - rest.length) ++ renamed f rest)
      | none => c :: r
    else if c = '@' then
      (f (String.ofList (c :: r.takeWhile isIdentifierChar))).toList
        ++ renamed f (r.dropWhile isIdentifierChar)
    else c :: renamed f r
termination_by s => s.length
decreasing_by
  · exact Nat.lt_succ_of_le (length_scan _h)
  · exact Nat.lt_succ_of_le (List.dropWhile_sublist _).length_le
  · exact Nat.lt_succ_self _

/-- Whether a character begins neither a quoted text nor a placeholder. -/
def isUnmarked (c : Char) : Bool := c != '"' && c != '@'

variable {f : String → String}

theorem renamed_cons {c : Char} (hc : isUnmarked c = true) (r : List Char) :
    renamed f (c :: r) = c :: renamed f r := by
  simp only [isUnmarked, Bool.and_eq_true, bne_iff_ne] at hc
  rw [renamed, if_neg hc.1, if_neg hc.2]

/-- A quoted text is left as it is, whatever stands in it. -/
theorem renamed_quoted (w r : List Char) :
    renamed f ('"' :: Text.escape w ++ '"' :: r)
      = '"' :: Text.escape w ++ '"' :: renamed f r := by
  have htake : (Text.escape w ++ '"' :: r).take ((Text.escape w ++ '"' :: r).length - r.length)
      = Text.escape w ++ ['"'] := by
    have hsplit : Text.escape w ++ '"' :: r = Text.escape w ++ ['"'] ++ r := by simp
    rw [hsplit, List.length_append, Nat.add_sub_cancel, List.take_left]
  rw [List.cons_append, renamed, if_pos rfl]
  -- The text is closed where its escapes say, so the quotes in it do not end it.
  split
  · next s rest hscan =>
    rw [Text.scan_escape, Option.some_inj, Prod.mk.injEq] at hscan
    obtain ⟨-, rfl⟩ := hscan
    rw [htake]
    simp
  · next hscan =>
    rw [Text.scan_escape] at hscan
    contradiction

theorem renamed_placeholder {w r : List Char} (hw : ∀ c ∈ w, isIdentifierChar c = true)
    (hr : Breaks r) :
    renamed f ('@' :: w ++ r) = (f (String.ofList ('@' :: w))).toList ++ renamed f r := by
  obtain ⟨htake, hdrop⟩ := span_eq hw hr.identifierChar
  rw [List.cons_append, renamed, if_neg (by decide), if_pos rfl, htake, hdrop]

/-- A name that is not renamed to nothing leaves no text empty. -/
theorem renamed_eq_nil_iff (hf : ∀ w, f (String.ofList ('@' :: w)) ≠ "") {s : List Char} :
    renamed f s = [] ↔ s = [] := by
  cases s with
  | nil => rw [renamed]
  | cons c r =>
    refine iff_of_false ?_ (List.cons_ne_nil c r)
    rw [renamed]
    split_ifs with hquote hat
    · split <;> simp
    · subst hat
      intro h
      exact hf _ (String.toList_eq_nil_iff.1 (List.append_eq_nil_iff.1 h).1)
    · simp

/-! ### Texts without placeholders -/

/-- **A text that is left as it is**, whatever the new names are and whatever is put behind it. -/
def Fixed (s : List Char) : Prop := ∀ f r, renamed f (s ++ r) = s ++ renamed f r

namespace Fixed

variable {s t : List Char}

theorem append (hs : Fixed s) (ht : Fixed t) : Fixed (s ++ t) := by
  intro f r
  rw [List.append_assoc, hs, ht, List.append_assoc]

theorem unmarked (hs : s.all isUnmarked = true) : Fixed s := by
  intro f r
  induction s with
  | nil => rfl
  | cons c s ih =>
    rw [List.all_cons, Bool.and_eq_true] at hs
    rw [List.cons_append, renamed_cons hs.1, ih hs.2, List.cons_append]

theorem quoted (w : List Char) : Fixed ('"' :: Text.escape w ++ ['"']) := by
  intro f r
  have hquoted := renamed_quoted (f := f) w r
  simp only [List.cons_append, List.append_assoc, List.nil_append] at hquoted ⊢
  exact hquoted

end Fixed

/-! ### References -/

theorem isUnmarked_of_identifierChar {c : Char} (hc : isIdentifierChar c = true) :
    isUnmarked c = true := by
  simp only [isUnmarked, Bool.and_eq_true, bne_iff_ne]
  constructor <;> (rintro rfl; revert hc; decide)

theorem isUnmarked_of_decimalDigit {c : Char} (hc : Text.isDecimalDigit c = true) :
    isUnmarked c = true := by
  simp only [isUnmarked, Bool.and_eq_true, bne_iff_ne]
  constructor <;> (rintro rfl; revert hc; decide)

theorem isUnmarked_of_areIndexes {state : IndexState} {s : List Char}
    (h : areIndexes state s = true) : s.all isUnmarked = true := by
  rw [List.all_eq_true]
  intro c hc
  rcases mem_indexes h hc with rfl | rfl | rfl | hdigit
  · rfl
  · rfl
  · rfl
  · exact isUnmarked_of_decimalDigit hdigit

/-- **What a path holds is no placeholder**: its segments are identifiers, indexes or quoted. -/
theorem Fixed.accessor (segment : List Char) : Fixed (Sql.accessor segment) := by
  unfold Sql.accessor
  split_ifs with hdot hindex
  · obtain ⟨w, r, rfl, -, hchars, -, hr⟩ := followsDot_spec hdot
    apply Fixed.unmarked
    rw [List.all_cons, List.all_append, isUnmarked_of_areIndexes hr, Bool.and_true]
    exact List.all_eq_true.2 fun c hc => isUnmarked_of_identifierChar (hchars c hc)
  · obtain ⟨d, ds, r, rfl, hds, hr⟩ := isIndex_spec hindex
    have hdigits : (d :: ds).all isUnmarked = true :=
      List.all_eq_true.2 fun c hc => isUnmarked_of_decimalDigit (hds c hc)
    apply Fixed.unmarked
    rcases hr with rfl | rfl <;>
      rw [List.all_append, List.all_cons, List.all_append, hdigits] <;> rfl
  · have hquoted := (Fixed.quoted segment).append (Fixed.unmarked (s := [']']) rfl)
    rw [List.append_assoc] at hquoted
    exact (Fixed.unmarked (s := ['[']) rfl).append hquoted

theorem Fixed.reference {alias_ : String} (halias : Fixed alias_.toList) (path : String) :
    Fixed (reference alias_ path).toList := by
  rw [Sql.reference, String.toList_append, String.toList_ofList]
  refine halias.append ?_
  induction path.toList.splitOn '.' with
  | nil => exact .unmarked rfl
  | cons segment segments ih =>
    rw [List.flatMap_cons]
    exact (Fixed.accessor segment).append ih

/-! ### Texts with placeholders -/

/-- **A text and what comes of it under new names**, whatever is put behind it, as long as that
cannot belong to a placeholder at its end. -/
def Renames (f : String → String) (s s' : List Char) : Prop :=
  ∀ r, Breaks r → renamed f (s ++ r) = s' ++ renamed f r

theorem Fixed.renames {s : List Char} (hs : Fixed s) : Renames f s s := fun r _ => hs f r

namespace Renames

variable {s s' t t' : List Char}

/-- The text that stands alone. -/
theorem eq (h : Renames f s s') : renamed f s = s' := by
  have hs := h [] Breaks.nil
  rw [List.append_nil, renamed, List.append_nil] at hs
  exact hs

theorem placeholder {w : List Char} (hw : ∀ c ∈ w, isIdentifierChar c = true) :
    Renames f ('@' :: w) (f (String.ofList ('@' :: w))).toList :=
  fun _ hr => renamed_placeholder hw hr

theorem append (h : Renames f s s') (h' : Renames f t t') (hb : Piece.Starts t) :
    Renames f (s ++ t) (s' ++ t') := by
  intro r hr
  rw [List.append_assoc, h _ (hb.breaks hr), h' r hr, List.append_assoc]

/-- A text without placeholders in front. -/
theorem behind (hs : Fixed s) (h : Renames f t t') : Renames f (s ++ t) (s ++ t') := by
  intro r hr
  rw [List.append_assoc, hs, h r hr, List.append_assoc]

/-- A text between a prefix and a closing parenthesis. -/
theorem enclosed (hs : Fixed s) (h : Renames f t t') :
    Renames f (s ++ t ++ [')']) (s ++ t' ++ [')']) :=
  (behind hs h).append (Fixed.unmarked rfl).renames (.cons (by decide) _)

/-- Joined texts. -/
theorem intercalate {c : Char} {separator : List Char} (hbreak : isBreak c = true)
    (hsep : (c :: separator).all isUnmarked = true) {ss ss' : List (List Char)}
    (h : List.Forall₂ (Renames f) ss ss') :
    Renames f ((c :: separator).intercalate ss) ((c :: separator).intercalate ss') := by
  induction h with
  | nil => exact (Fixed.unmarked rfl).renames
  | cons hs hss ih =>
    cases hss with
    | nil =>
      rw [List.intercalate_singleton, List.intercalate_singleton]
      exact hs
    | cons _ _ =>
      rw [List.intercalate_cons_cons, List.intercalate_cons_cons, List.append_assoc,
        List.append_assoc]
      exact hs.append (behind (.unmarked hsep) ih) (.cons hbreak _)

end Renames

/-! ### Greater numbers -/

/-- **The placeholder whose number is greater by `k`.**  Other names stay. -/
def shifted (k : Nat) (name : String) : String :=
  match name.toList with
  | '@' :: 'p' :: d :: ds =>
    if (d :: ds).all Char.isDigit then placeholder (Nat.ofDigitChars 10 (d :: ds) 0 + k) else name
  | _ => name

theorem shifted_placeholder (k n : Nat) : shifted k (placeholder n) = placeholder (n + k) := by
  have hnumeral : (toString n).toList = Nat.toDigits 10 n := by
    rw [Nat.toString_eq_ofList_toDigits, String.toList_ofList]
  have hchars : (placeholder n).toList = '@' :: 'p' :: Nat.toDigits 10 n := by
    rw [placeholder, String.toList_append, hnumeral]
    rfl
  have hdigits : (Nat.toDigits 10 n).all Char.isDigit = true :=
    List.all_eq_true.2 fun c hc => Nat.isDigit_of_mem_toDigits (by decide) (by decide) hc
  have hvalue : Nat.ofDigitChars 10 (Nat.toDigits 10 n) 0 = n :=
    Nat.ofDigitChars_toDigits (by decide) (by decide)
  rw [shifted, hchars]
  cases hcons : Nat.toDigits 10 n with
  | nil => exact absurd hcons Nat.toDigits_ne_nil
  | cons d ds =>
    rw [hcons] at hdigits hvalue
    show (if (d :: ds).all Char.isDigit then placeholder (Nat.ofDigitChars 10 (d :: ds) 0 + k)
      else placeholder n) = placeholder (n + k)
    rw [if_pos hdigits, hvalue]

theorem shifted_ne_empty (k : Nat) (w : List Char) : shifted k (String.ofList ('@' :: w)) ≠ "" := by
  have hname : String.ofList ('@' :: w) ≠ "" := by simp
  unfold shifted
  split
  · split_ifs
    · simp [placeholder]
    · exact hname
  · exact hname

theorem Renames.bound (k n : Nat) :
    Renames (shifted k) (Sql.placeholder n).toList (Sql.placeholder (n + k)).toList := by
  have hname := Renames.placeholder (f := shifted k) (w := 'p' :: (toString n).toList) ?_
  · have hchars : (Sql.placeholder n).toList = '@' :: 'p' :: (toString n).toList := by
      rw [Sql.placeholder, String.toList_append]
      rfl
    rw [← hchars, String.ofList_toList, shifted_placeholder] at hname
    exact hname
  · intro c hc
    rcases List.mem_cons.1 hc with rfl | hc
    · decide
    · exact identifierChar_of_mem_toString hc

/-- A text and what comes of it with greater numbers are both empty, or neither is. -/
theorem Renames.isEmpty_eq {k : Nat} {s s' : String}
    (h : Renames (shifted k) s.toList s'.toList) : s'.isEmpty = s.isEmpty := by
  rw [Bool.eq_iff_iff, String.isEmpty_iff, String.isEmpty_iff, ← String.toList_eq_nil_iff,
    ← String.toList_eq_nil_iff, ← h.eq, renamed_eq_nil_iff (shifted_ne_empty k)]

/-! ### Conditions -/

/-- The text of a test. -/
theorem Renames.test {alias_ : String} (halias : Fixed alias_.toList) (k : Nat) (path : String)
    (n : Nat) (t : Test) :
    Renames (shifted k) (t.text (Sql.reference alias_ path) n).toList
      (t.text (Sql.reference alias_ path) (n + k)).toList := by
  have href := halias.reference path
  have hbound := Renames.bound k n
  cases t with
  -- The placeholder stands at the end of the text, or in front of a parenthesis, and nothing else
  -- is renamed.
  | compare c operand =>
    have hsymbol : Fixed (" " ++ c.symbol ++ " ").toList := by cases c <;> exact .unmarked (by decide)
    have htext := Renames.behind (href.append hsymbol) hbound
    simp only [Test.text, String.toList_append, List.append_assoc] at htext ⊢
    exact htext
  | member negated operand =>
    have hkeyword : Fixed (if negated then " NOT IN " else " IN ").toList := by
      cases negated <;> exact .unmarked (by decide)
    have htext := Renames.behind (href.append hkeyword) hbound
    simp only [Test.text, String.toList_append, List.append_assoc] at htext ⊢
    exact htext
  | presence expected =>
    have hfront : Fixed ((if expected then "" else "NOT ") ++ "IS_DEFINED(").toList := by
      cases expected <;> exact .unmarked (by decide)
    have htext := Renames.enclosed hfront (href.renames (f := shifted k))
    simp only [Test.text, String.toList_append, List.append_assoc] at htext ⊢
    exact htext
  | onText t operand =>
    have hfront : Fixed (t.function ++ "(").toList := by cases t <;> exact .unmarked (by decide)
    have hcomma : Fixed ", ".toList := .unmarked (by decide)
    have htext := Renames.enclosed (hfront.append (href.append hcomma)) hbound
    simp only [Test.text, String.toList_append, List.append_assoc] at htext ⊢
    exact htext

namespace Condition

/-- The texts of the conditions of a list that have one.  Both lists leave out the same. -/
theorem renames_textsFrom {alias_ : String} {k : Nat} {cs : List Condition}
    (h : ∀ c ∈ cs, ∀ n, Renames (shifted k) (c.textFrom alias_ n).toList
      (c.textFrom alias_ (n + k)).toList) (n : Nat) :
    List.Forall₂ (Renames (shifted k)) ((textsFrom alias_ n cs).map String.toList)
      ((textsFrom alias_ (n + k) cs).map String.toList) := by
  induction cs generalizing n with
  | nil => exact .nil
  | cons c cs ih =>
    have hfirst := h c List.mem_cons_self n
    have hrest := ih (fun d hd => h d (List.mem_cons_of_mem c hd)) (n + c.values.length)
    have hnumber : n + k + c.values.length = n + c.values.length + k := by omega
    rw [textsFrom, textsFrom, hnumber, hfirst.isEmpty_eq]
    split_ifs
    · exact hrest
    · exact .cons hfirst hrest

/-- **The text of a condition that is numbered from `n + k` on** is the text that is numbered from
`n` on, shifted by `k`. -/
theorem renames_textFrom {alias_ : String} (halias : Fixed alias_.toList) (k : Nat) (c : Condition)
    (n : Nat) :
    Renames (shifted k) (c.textFrom alias_ n).toList (c.textFrom alias_ (n + k)).toList := by
  induction c using Condition.induction generalizing n with
  | test path t => exact .test halias k path n t
  | all parts ih =>
    have htexts := renames_textsFrom ih n
    rw [textFrom, textFrom, joinAll, joinAll, String.toList_intercalate, String.toList_intercalate]
    exact .intercalate (by decide) (by decide) htexts
  | any parts ih =>
    have htexts := renames_textsFrom ih n
    have hlength := htexts.length_eq
    rw [List.length_map, List.length_map] at hlength
    have hjoined : Renames (shifted k)
        (" OR ".toList.intercalate ((textsFrom alias_ n parts).map String.toList))
        (" OR ".toList.intercalate ((textsFrom alias_ (n + k) parts).map String.toList)) :=
      .intercalate (by decide) (by decide) htexts
    have hgroup := Renames.enclosed (s := ['(']) (.unmarked rfl) hjoined
    rw [textFrom, textFrom, joinAny, joinAny]
    -- There are parentheses when there is a part with a text, and then there is in both.
    cases htext : textsFrom alias_ n parts with
    | nil =>
      rw [htext] at hlength
      rw [List.eq_nil_of_length_eq_zero hlength.symm]
      exact (Fixed.unmarked rfl).renames
    | cons first rest =>
      have hne : (textsFrom alias_ (n + k) parts).isEmpty = false := by
        rw [List.isEmpty_eq_false_iff, ← List.length_pos_iff, ← hlength, htext]
        exact Nat.succ_pos _
      rw [hne, ← htext, if_neg (by simp [htext]), if_neg (by decide)]
      simp only [String.toList_append, String.toList_intercalate]
      exact hgroup
  -- Renaming leaves no text empty that was not, so both are negated or none.
  | negation part ih =>
    have hpart := ih n
    have hgroup := Renames.enclosed (s := "NOT (".toList) (.unmarked (by decide)) hpart
    rw [textFrom, textFrom, negated, negated]
    rw [hpart.isEmpty_eq]
    split_ifs
    · exact (Fixed.unmarked rfl).renames
    · simp only [String.toList_append]
      exact hgroup
  | silent parts => exact (Fixed.unmarked rfl).renames

end Condition

end Sql

/-! ### Statements -/

/-- **A statement whose placeholders are renamed**, in its text and its parameters. -/
def Statement.renamed (f : String → String) (s : Statement) : Statement where
  text := String.ofList (Sql.renamed f s.text.toList)
  parameters := s.parameters.map fun p => ⟨f p.name, p.value⟩

namespace Sql

/-- As many parameters are numbered as there are values. -/
theorem length_numbered (n : Nat) (values : List Value) :
    (numbered n values).length = values.length := by
  rw [numbered, List.length_map, List.length_zipIdx]

theorem numbered_add (k n : Nat) (values : List Value) :
    numbered (n + k) values = (numbered n values).map fun p => ⟨shifted k p.name, p.value⟩ := by
  have hnumber (i : Nat) : n + i + k = n + k + i := by omega
  simp only [numbered, List.map_map, Function.comp_def, shifted_placeholder, hnumber]

/-- **A filter that is compiled after `k` values more** has its placeholders shifted by `k`. -/
theorem filterFrom_add {alias_ : String} (halias : Fixed alias_.toList) (k n : Nat) (f : Filter) :
    filterFrom alias_ (n + k) f = (filterFrom alias_ n f).renamed (shifted k) := by
  have htext := (Condition.renames_textFrom halias k f.condition n).eq
  rw [filterFrom, filterFrom, Statement.renamed, htext, String.ofList_toList, numbered_add]

end Sql

end EntityStore
