import EntityStore.Text.Quoted
import Mathlib.Data.List.Basic
import Mathlib.Data.Option.Basic

/-!
# Quoted text is read back

`scan_escape` says that reading what `escape` writes, up to the closing quote, gives the text back
and leaves whatever stands behind the quote.  The text is arbitrary: quotes, backslashes, controls
and characters outside the basic plane included.

The proof goes through the units that a text is written with (`units`): `scanUnits` reads the units
of each character as they were written, and `joinUnits` puts the pairs together again.
-/

namespace EntityStore.Text

/-! ### Hexadecimal digits -/

/-- A digit that was written is read. -/
theorem hexDigit?_hexDigit {n : Nat} (h : n < 16) : hexDigit? (hexDigit n) = some n := by
  have all : ∀ m < 16, hexDigit? (hexDigit m) = some m := by decide
  exact all n h

/-- Four digits spell the unit that they were written for. -/
theorem scanUnits_escapeUnit {n : Nat} (h : n < 0x10000) (r : List Char) :
    scanUnits (escapeUnit n ++ r) = (scanUnits r).map fun (ns, t) => (n :: ns, t) := by
  have h0 := hexDigit?_hexDigit (Nat.mod_lt n (by decide : 0 < 16))
  have h1 := hexDigit?_hexDigit (Nat.mod_lt (n / 16) (by decide : 0 < 16))
  have h2 := hexDigit?_hexDigit (Nat.mod_lt (n / 16 / 16) (by decide : 0 < 16))
  have h3 := hexDigit?_hexDigit (Nat.mod_lt (n / 16 / 16 / 16) (by decide : 0 < 16))
  have hvalue : unit?.ofHex [n / 16 / 16 / 16 % 16, n / 16 / 16 % 16, n / 16 % 16, n % 16] = n := by
    simp only [unit?.ofHex, List.foldl_cons, List.foldl_nil]
    omega
  simp only [escapeUnit, hexDigits, List.nil_append, List.cons_append]
  rw [scanUnits]
  simp only [unit?, h0, h1, h2, h3, Option.bind_eq_bind, Option.bind_some, Option.pure_def, hvalue]
  cases scanUnits r <;> rfl

/-! ### Units -/

/-- The units that a character is written with: one, or the two halves of a pair. -/
def charUnits (c : Char) : List Nat :=
  if c.toNat < 0x10000 then [c.toNat]
  else [0xD800 + (c.toNat - 0x10000) / 0x400, 0xDC00 + (c.toNat - 0x10000) % 0x400]

/-- The units that a text is written with. -/
def units (s : List Char) : List Nat := s.flatMap charUnits

/-- A character in the basic plane is no half of a pair. -/
theorem not_half (c : Char) : isHighUnit c.toNat = false ∧ isLowUnit c.toNat = false := by
  have hv : c.toNat < 0xD800 ∨ 0xDFFF < c.toNat ∧ c.toNat < 0x110000 := c.valid
  simp only [isHighUnit, isLowUnit, Bool.and_eq_false_iff, decide_eq_false_iff_not]
  omega

/-- The two halves of a pair are read as one character. -/
theorem joinUnits_pair {n m : Nat} (hn : isHighUnit n = true) (hm : isLowUnit m = true)
    (r : List Nat) :
    joinUnits (n :: m :: r)
      = Char.ofNat (0x10000 + (n - 0xD800) * 0x400 + (m - 0xDC00)) :: joinUnits r := by
  rw [joinUnits, hn, hm, Bool.and_self, if_pos rfl]

/-- The units of a text, put together, are the text. -/
theorem joinUnits_units (s : List Char) : joinUnits (units s) = s := by
  induction s with
  | nil => rfl
  | cons c s ih =>
    have hv : c.toNat < 0xD800 ∨ 0xDFFF < c.toNat ∧ c.toNat < 0x110000 := c.valid
    rw [units, List.flatMap_cons, ← units, charUnits]
    split
    · -- The unit begins no pair, so it stands for itself whatever unit follows.
      have hc : unitChar c.toNat = c := by
        rw [unitChar, (not_half c).1, (not_half c).2]
        exact Char.ofNat_toNat c
      rw [List.singleton_append]
      cases hu : units s with
      | nil => rw [hu] at ih; rw [joinUnits, hc, ← ih]; rfl
      | cons m r =>
        rw [hu] at ih
        rw [joinUnits, (not_half c).1, Bool.false_and, if_neg (by decide), ih, hc]
    · -- The character is a pair of halves, from which it is computed back.
      have hhigh : isHighUnit (0xD800 + (c.toNat - 0x10000) / 0x400) = true := by
        simp only [isHighUnit, Bool.and_eq_true, decide_eq_true_eq]
        omega
      have hlow : isLowUnit (0xDC00 + (c.toNat - 0x10000) % 0x400) = true := by
        simp only [isLowUnit, Bool.and_eq_true, decide_eq_true_eq]
        omega
      have hvalue : 0x10000 + (0xD800 + (c.toNat - 0x10000) / 0x400 - 0xD800) * 0x400
          + (0xDC00 + (c.toNat - 0x10000) % 0x400 - 0xDC00) = c.toNat := by omega
      rw [List.cons_append, List.singleton_append, joinUnits_pair hhigh hlow, hvalue, ih,
        Char.ofNat_toNat]

/-! ### Reading what was written -/

/-- A letter behind a backslash is read as what it stands for. -/
theorem scanUnits_letter {e c : Char} (he : letterEscape? e = some c) (hu : e ≠ 'u')
    (r : List Char) :
    scanUnits ('\\' :: e :: r) = (scanUnits r).map fun (ns, t) => (c.toNat :: ns, t) := by
  rw [scanUnits]
  · simp only [he, Option.bind_eq_bind, Option.bind_some, Option.pure_def]
    cases scanUnits r <;> rfl
  · rintro a b c d s h -
    exact hu h

/-- A printable character is read as it stands. -/
theorem scanUnits_printable {c : Char} (hq : c ≠ '"') (hb : c ≠ '\\') (hc : ' ' ≤ c)
    (r : List Char) :
    scanUnits (c :: r) = (scanUnits r).map fun (ns, t) => (c.toNat :: ns, t) := by
  rw [scanUnits.eq_def]
  split
  · contradiction
  · next h => exact absurd (List.cons.inj h).1 hq
  · next h => exact absurd (List.cons.inj h).1 hb
  · next h => exact absurd (List.cons.inj h).1 hb
  · next h =>
    obtain ⟨rfl, rfl⟩ := List.cons.inj h
    have hguard : (guard (c ≠ '\\' ∧ ' ' ≤ c) : Option Unit) = some () := if_pos ⟨hb, hc⟩
    rw [hguard, Option.bind_eq_bind, Option.bind_some]
    cases scanUnits r <;> rfl

/-- **A written character is read as its units.** -/
theorem scanUnits_escapeChar (c : Char) (r : List Char) :
    scanUnits (escapeChar c ++ r) = (scanUnits r).map fun (ns, t) => (charUnits c ++ ns, t) := by
  have small : c.toNat < 0x10000 → charUnits c = [c.toNat] := fun h => if_pos h
  unfold escapeChar
  split_ifs with hq hb hn hr ht hbs hff hp hbasic
  · subst hq; exact scanUnits_letter rfl (by decide) r
  · subst hb; exact scanUnits_letter rfl (by decide) r
  · subst hn; exact scanUnits_letter rfl (by decide) r
  · subst hr; exact scanUnits_letter rfl (by decide) r
  · subst ht; exact scanUnits_letter rfl (by decide) r
  · subst hbs; exact scanUnits_letter rfl (by decide) r
  · subst hff; exact scanUnits_letter rfl (by decide) r
  · have hc : c.toNat ≤ '~'.toNat := hp.2
    have : '~'.toNat = 126 := rfl
    rw [small (by omega)]
    exact scanUnits_printable hq hb hp.1 r
  · rw [small hbasic]
    exact scanUnits_escapeUnit hbasic r
  · have hv : c.toNat < 0xD800 ∨ 0xDFFF < c.toNat ∧ c.toNat < 0x110000 := c.valid
    rw [charUnits, if_neg hbasic, List.append_assoc, scanUnits_escapeUnit (by omega),
      scanUnits_escapeUnit (by omega)]
    cases scanUnits r <;> rfl

/-- A written text is read as its units, up to the closing quote. -/
theorem scanUnits_escape (s r : List Char) :
    scanUnits (escape s ++ '"' :: r) = some (units s, r) := by
  induction s with
  | nil => simp only [escape, List.flatMap_nil, List.nil_append, units, scanUnits]
  | cons c s ih =>
    rw [escape, List.flatMap_cons, List.append_assoc, ← escape, scanUnits_escapeChar, ih]
    rfl

/-- **Reading gives back what was written**, and leaves what stands behind the closing quote. -/
theorem scan_escape (s r : List Char) : scan (escape s ++ '"' :: r) = some (s, r) := by
  rw [scan, scanUnits_escape]
  simp only [Option.map_some, joinUnits_units]

end EntityStore.Text
