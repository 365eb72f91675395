import EntityStore.Number.Numeral
import Mathlib.Data.Nat.Digits.Defs

/-!
# Numerals are read back

A natural number is written with its decimal digits, most significant first.  `read_toString` says
that the text is read as the number, unless it has more digits than a numeral may have, and is then
refused for that reason only.

ASCII digits are digits of the first of all scripts, and none of them is white space, a sign or an
underscore.  So nothing of the text is taken for anything else, and `digits` hands on the values of
all characters; what they spell is `Nat.ofDigitChars`.
-/

namespace EntityStore.Numeral

/-! ### ASCII digits -/

/-- The code of an ASCII digit. -/
theorem toNat_of_isDigit {c : Char} (hc : c.isDigit = true) : 48 ≤ c.toNat ∧ c.toNat ≤ 57 := by
  rw [Char.isDigit, Bool.and_eq_true, decide_eq_true_eq, decide_eq_true_eq] at hc
  exact hc

theorem decimalDigit?_of_isDigit {c : Char} (hc : c.isDigit = true) :
    Text.decimalDigit? c = some (c.toNat - '0'.toNat) := by
  obtain ⟨hlow, hhigh⟩ := toNat_of_isDigit hc
  obtain ⟨others, hzeros⟩ : ∃ others, Text.zeros = 48 :: others := ⟨_, rfl⟩
  have hrun : (decide (48 ≤ c.toNat) && decide (c.toNat < 48 + 10)) = true := by
    rw [Bool.and_eq_true, decide_eq_true_eq, decide_eq_true_eq]
    omega
  rw [Text.decimalDigit?, hzeros, List.find?_cons_of_pos (by exact hrun)]
  rfl

theorem not_isWhiteSpace_of_isDigit {c : Char} (hc : c.isDigit = true) :
    Text.isWhiteSpace c = false := by
  obtain ⟨hlow, hhigh⟩ := toNat_of_isDigit hc
  simp [Text.isWhiteSpace]
  omega

theorem ne_of_isDigit {c d : Char} (hc : c.isDigit = true) (hd : d.isDigit = false) : c ≠ d := by
  rintro rfl
  rw [hc] at hd
  contradiction

/-! ### Texts of digits -/

/-- **All characters are taken for digits.** -/
theorem digits_of_isDigit {l : List Char} (hl : ∀ c ∈ l, c.isDigit = true) :
    digits l = some (l.map fun c => c.toNat - '0'.toNat, []) := by
  induction l with
  | nil => rfl
  | cons c r ih =>
    obtain ⟨hc, hr⟩ := List.forall_mem_cons.1 hl
    have hnext (r' : List Char) : r ≠ '_' :: r' := by
      rintro rfl
      exact ne_of_isDigit (hr '_' List.mem_cons_self) (by decide) rfl
    rw [digits, decimalDigit?_of_isDigit hc]
    dsimp only
    -- No underscore follows, so the digits go on.
    split
    · next c' r' => exact absurd rfl (hnext (c' :: r'))
    · exact absurd rfl (hnext [])
    · rw [ih hr]
      rfl

theorem trimList_of_isDigit {l : List Char} (hl : ∀ c ∈ l, c.isDigit = true) :
    Text.trimList Text.isWhiteSpace l = l := by
  have hdrop {l : List Char} (hl : ∀ c ∈ l, c.isDigit = true) :
      l.dropWhile Text.isWhiteSpace = l := by
    cases l with
    | nil => rfl
    | cons c r =>
      rw [List.dropWhile_cons_of_neg]
      rw [not_isWhiteSpace_of_isDigit (hl c List.mem_cons_self)]
      exact Bool.false_ne_true
  have hreverse : ∀ c ∈ l.reverse, c.isDigit = true := fun c hc => hl c (List.mem_reverse.1 hc)
  rw [Text.trimList, hdrop hl, hdrop hreverse, List.reverse_reverse]

theorem signed_of_isDigit {l : List Char} (hl : ∀ c ∈ l, c.isDigit = true) :
    signed l = (false, l) := by
  unfold signed
  split
  · exact absurd rfl (ne_of_isDigit (hl '-' List.mem_cons_self) (by decide))
  · exact absurd rfl (ne_of_isDigit (hl '+' List.mem_cons_self) (by decide))
  · rfl

/-- What the values of digits spell. -/
theorem ofDigits_map (l : List Char) :
    Text.ofDigits (l.map fun c => c.toNat - '0'.toNat) = Nat.ofDigitChars 10 l 0 := by
  rw [Text.ofDigits, List.foldl_map]
  rfl

/-! ### Numbers -/

/-- **A number is read back from its numeral**, unless that has too many digits. -/
theorem read_toString (n : Nat) :
    read (toString n)
      = if n < 10 ^ maxDigits then .ok n else .error (.tooLong (Nat.toDigits 10 n).length) := by
  have hdigits : ∀ c ∈ Nat.toDigits 10 n, c.isDigit = true := fun c hc =>
    Nat.isDigit_of_mem_toDigits (by decide) (by decide) hc
  have hvalue : Text.ofDigits ((Nat.toDigits 10 n).map fun c => c.toNat - '0'.toNat) = n :=
    (ofDigits_map _).trans (Nat.ofDigitChars_toDigits (by decide) (by decide))
  have hlength : (Nat.toDigits 10 n).length ≤ maxDigits ↔ n < 10 ^ maxDigits :=
    Nat.length_toDigits_le_iff (by decide) (by decide)
  have hnonempty : (Nat.toDigits 10 n).isEmpty = false := by
    rw [List.isEmpty_eq_false_iff]
    exact Nat.toDigits_ne_nil
  rw [read, readAs, Nat.toString_eq_ofList_toDigits, String.toList_ofList,
    trimList_of_isDigit hdigits, signed_of_isDigit hdigits]
  dsimp only
  rw [digits_of_isDigit hdigits]
  dsimp only
  rw [List.length_map, hvalue, List.isEmpty_map, hnonempty]
  by_cases hn : n < 10 ^ maxDigits
  · rw [if_pos hn, if_neg (Nat.not_lt.2 (hlength.2 hn))]
    rfl
  · rw [if_neg hn, if_pos (Nat.not_le.1 (mt hlength.1 hn))]

end EntityStore.Numeral
