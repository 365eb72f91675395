import EntityStore.Text.Quoted
import EntityStore.Time.Calendar
import Mathlib.Data.String.Basic

/-!
# Numbers of fixed width

`digitsIn` writes a number with a given number of digits, the most significant first.  As texts, such
numbers are in the order in which they are as numbers (`digitsIn_lt_iff`), and so are texts that are
put together from them field by field (`append_lt_append_iff`, `digitsIn_append_lt_iff`).  Padded
decimal numbers and hexadecimal digits are written so, as long as the number is not too large for the
width.
-/

namespace EntityStore.Text

/-! ### Texts one behind the other -/

/-- What is in the same order both ways round is the same on both sides, or on neither. -/
theorem eq_iff_of_lt_iff {α β : Type} [LinearOrder α] [LinearOrder β] {x y : α} {u v : β}
    (hless : x < y ↔ u < v) (hgreater : y < x ↔ v < u) : x = y ↔ u = v := by
  rw [eq_iff_le_not_lt, eq_iff_le_not_lt, ← not_lt, ← not_lt, hless, hgreater]

/-- Of two texts the beginnings decide, when these are of one length and differ. -/
theorem append_lt_append_iff {s s' t t' : List Char} (h : s.length = s'.length) :
    s ++ t < s' ++ t' ↔ s < s' ∨ s = s' ∧ t < t' := by
  induction s generalizing s' with
  | nil =>
    cases s' with
    | nil => simp
    | cons c' s' => contradiction
  | cons c s ih =>
    cases s' with
    | nil => contradiction
    | cons c' s' =>
      rw [List.cons_append, List.cons_append, List.cons_lt_cons_iff, List.cons_lt_cons_iff,
        ih (Nat.succ.inj h), List.cons.injEq]
      tauto

/-! ### Digits -/

/-- The lowest `width` digits of a number in a base, the most significant first. -/
def digitsIn (base : Nat) (digit : Nat → Char) : (width : Nat) → Nat → List Char
  | 0, _ => []
  | w + 1, n => digitsIn base digit w (n / base) ++ [digit (n % base)]

section

variable {base : Nat} {digit : Nat → Char}

theorem length_digitsIn (w n : Nat) : (digitsIn base digit w n).length = w := by
  induction w generalizing n with
  | zero => rfl
  | succ w ih => rw [digitsIn, List.length_append, ih, List.length_singleton]

theorem digitsIn_zero (w : Nat) : digitsIn base digit w 0 = List.replicate w (digit 0) := by
  induction w with
  | zero => rfl
  | succ w ih => rw [digitsIn, Nat.zero_div, Nat.zero_mod, ih, List.replicate_succ']

/-- All digits but the last decide, and then the last one does. -/
theorem lt_iff_div_mod (hbase : 0 < base) (m n : Nat) :
    m < n ↔ m / base < n / base ∨ m / base = n / base ∧ m % base < n % base := by
  have hm := Nat.div_add_mod m base
  have hn := Nat.div_add_mod n base
  have hmod : m % base < base := Nat.mod_lt m hbase
  constructor
  · intro h
    rcases Nat.eq_or_lt_of_le (Nat.div_le_div_right (c := base) h.le) with hdiv | hdiv
    · rw [hdiv] at hm
      exact .inr ⟨hdiv, by omega⟩
    · exact .inl hdiv
  · rintro (hdiv | ⟨hdiv, hlast⟩)
    · have hnext : base * (m / base + 1) ≤ base * (n / base) := Nat.mul_le_mul_left base hdiv
      rw [Nat.mul_add, Nat.mul_one] at hnext
      omega
    · rw [hdiv] at hm
      omega

variable (hdigit : ∀ i < base, ∀ j < base, digit i < digit j ↔ i < j)

include hdigit

/-- **Numbers that are written with as many digits** are in the same order as texts. -/
theorem digitsIn_lt_iff {w m n : Nat} (hm : m < base ^ w) (hn : n < base ^ w) :
    digitsIn base digit w m < digitsIn base digit w n ↔ m < n := by
  induction w generalizing m n with
  | zero =>
    rw [Nat.pow_zero, Nat.lt_one_iff] at hm hn
    rw [hm, hn]
    simp
  | succ w ih =>
    have hbase : 0 < base := by
      refine Nat.pos_of_ne_zero fun hzero => ?_
      rw [hzero, Nat.zero_pow (Nat.succ_pos w)] at hm
      exact Nat.not_lt_zero m hm
    rw [Nat.pow_succ'] at hm hn
    have hm' : m / base < base ^ w := Nat.div_lt_of_lt_mul hm
    have hn' : n / base < base ^ w := Nat.div_lt_of_lt_mul hn
    have hsame := eq_iff_of_lt_iff (ih hm' hn') (ih hn' hm')
    have hlast : [digit (m % base)] < [digit (n % base)] ↔ m % base < n % base := by
      rw [List.cons_lt_cons_iff, hdigit _ (Nat.mod_lt m hbase) _ (Nat.mod_lt n hbase)]
      simp
    rw [digitsIn, digitsIn, append_lt_append_iff (by rw [length_digitsIn, length_digitsIn]),
      ih hm' hn', hsame, hlast, ← lt_iff_div_mod hbase]

/-- Different numbers are written differently. -/
theorem digitsIn_inj {w m n : Nat} (hm : m < base ^ w) (hn : n < base ^ w) :
    digitsIn base digit w m = digitsIn base digit w n ↔ m = n :=
  eq_iff_of_lt_iff (digitsIn_lt_iff hdigit hm hn) (digitsIn_lt_iff hdigit hn hm)

/-- **A number in front of a text**: the numbers decide, and then the texts behind them do. -/
theorem digitsIn_append_lt_iff {w m n : Nat} (hm : m < base ^ w) (hn : n < base ^ w)
    (t t' : List Char) :
    digitsIn base digit w m ++ t < digitsIn base digit w n ++ t' ↔ m < n ∨ m = n ∧ t < t' := by
  rw [append_lt_append_iff (by rw [length_digitsIn, length_digitsIn]),
    digitsIn_lt_iff hdigit hm hn, digitsIn_inj hdigit hm hn]

end

/-! ### Hexadecimal and decimal numbers -/

theorem hexDigits_eq (w n : Nat) : hexDigits w n = digitsIn 16 hexDigit w n := by
  induction w generalizing n with
  | zero => rfl
  | succ w ih => rw [hexDigits, digitsIn, ih]

theorem hexDigit_lt_iff : ∀ i < 16, ∀ j < 16, hexDigit i < hexDigit j ↔ i < j := by decide

theorem digitChar_lt_iff : ∀ i < 10, ∀ j < 10, Nat.digitChar i < Nat.digitChar j ↔ i < j := by
  decide

/-- **A padded number** that is not too large is written with as many digits as it is padded to. -/
theorem toList_paddedNumber {w n : Nat} (hw : 0 < w) (hn : n < 10 ^ w) :
    (paddedNumber w n).toList = digitsIn 10 Nat.digitChar w n := by
  have htext (v m : Nat) : (paddedNumber v m).toList
      = List.replicate (v - (Nat.toDigits 10 m).length) '0' ++ Nat.toDigits 10 m := by
    rw [paddedNumber, String.toList_append, String.toList_ofList, Nat.toString_eq_ofList_toDigits,
      String.toList_ofList, String.length_ofList]
  rw [htext]
  induction w generalizing n with
  | zero => contradiction
  | succ w ih =>
    rw [digitsIn]
    -- A number of one digit is padded in front of it.
    by_cases hsmall : n < 10
    · rw [Nat.toDigits_of_lt_base hsmall, Nat.div_eq_of_lt hsmall, Nat.mod_eq_of_lt hsmall,
        digitsIn_zero]
      rfl
    · -- A number of several digits is followed by its last one, in the same width less one.
      have hrest : n / 10 < 10 ^ w := by
        rw [Nat.pow_succ'] at hn
        exact Nat.div_lt_of_lt_mul hn
      have hw' : 0 < w := by
        refine Nat.pos_of_ne_zero fun hzero => ?_
        rw [hzero] at hrest
        omega
      rw [← ih hw' hrest, Nat.toDigits_of_base_le (by decide) (Nat.not_lt.1 hsmall),
        List.length_append, List.length_singleton, Nat.add_sub_add_right, List.append_assoc]

end EntityStore.Text
