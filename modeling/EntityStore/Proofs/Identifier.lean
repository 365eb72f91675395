import EntityStore.Identifier
import EntityStore.Proofs.Text.FixedWidth
import EntityStore.Proofs.Text.Quoted
import Mathlib.Algebra.Ring.Int.Defs
import Mathlib.Algebra.Ring.Nat

/-!
# Generated ids are ordered by time and keep their random bits

The text of an id is in canonical form, and its digits spell the 128 bits of the id
(`number?_text`).  Of these the first 48 are the time in milliseconds, six are fixed, and the other
74 are the random bits at their places (`bits_fields`).

Dashes stand at the same places in all ids, so that they do not matter for the order
(`grouped_lt_iff`): ids are ordered as texts as their bits are as numbers (`text_lt_iff`), and that
is by time, when the times differ.
-/

namespace EntityStore.Identifier

open Text (hexDigits hexDigit hexDigit?)

/-! ### Bits -/

section

variable {n low width value : Nat} (h : value < 2 ^ width)

/-- Bits below those that are replaced stay, -/
theorem setBits_below : setBits n low width value % 2 ^ low = n % 2 ^ low := by
  show (n / 2 ^ (low + width) * 2 ^ (low + width) + value * 2 ^ low + n % 2 ^ low) % 2 ^ low = _
  rw [Nat.pow_add, Nat.mul_comm (2 ^ low), ← Nat.mul_assoc, ← Nat.add_mul, Nat.mul_comm,
    Nat.mul_add_mod, Nat.mod_mod]

include h

/-- those above stay as well, -/
theorem setBits_above : setBits n low width value / 2 ^ (low + width) = n / 2 ^ (low + width) := by
  have hlow : n % 2 ^ low < 2 ^ low := Nat.mod_lt _ (Nat.two_pow_pos low)
  have hlower : value * 2 ^ low + n % 2 ^ low < 2 ^ (low + width) := by
    calc
      value * 2 ^ low + n % 2 ^ low < (value + 1) * 2 ^ low := by
        rw [Nat.add_mul, Nat.one_mul]
        omega
      _ ≤ 2 ^ width * 2 ^ low := Nat.mul_le_mul_right _ h
      _ = 2 ^ (low + width) := by rw [Nat.add_comm, Nat.pow_add]
  show (n / 2 ^ (low + width) * 2 ^ (low + width) + value * 2 ^ low + n % 2 ^ low)
    / 2 ^ (low + width) = _
  rw [Nat.add_assoc, Nat.mul_comm, Nat.mul_add_div (Nat.two_pow_pos _), Nat.div_eq_of_lt hlower,
    Nat.add_zero]

/-- and those between are the bits of the value. -/
theorem setBits_between : setBits n low width value / 2 ^ low % 2 ^ width = value := by
  have hlow : n % 2 ^ low < 2 ^ low := Nat.mod_lt _ (Nat.two_pow_pos low)
  show (n / 2 ^ (low + width) * 2 ^ (low + width) + value * 2 ^ low + n % 2 ^ low) / 2 ^ low
    % 2 ^ width = _
  rw [Nat.pow_add, Nat.mul_comm (2 ^ low), ← Nat.mul_assoc, ← Nat.add_mul, Nat.mul_comm,
    Nat.mul_add_div (Nat.two_pow_pos low), Nat.div_eq_of_lt hlow, Nat.add_zero, Nat.mul_comm,
    Nat.mul_add_mod, Nat.mod_eq_of_lt h]

end

/-- The whole milliseconds of a time in nanoseconds. -/
def milliseconds (time : Int) : Int := time / nanosecondsPerMillisecond

/-- **The fields of an id**, from the most significant on.  Six bits are fixed, and of the random
bits those at their places are left out. -/
structure Fields (time : Int) (random n : Nat) : Prop where
  time : (n / 2 ^ 80 : Nat) = milliseconds time % 2 ^ 48
  version : n / 2 ^ 76 % 2 ^ 4 = 7
  randomHigh : n / 2 ^ 64 % 2 ^ 12 = random / 2 ^ 64 % 2 ^ 12
  variant : n / 2 ^ 62 % 2 ^ 2 = 2
  randomLow : n % 2 ^ 62 = random % 2 ^ 62

/-- **The bits of an id** are the time, the version, the variant and the random bits. -/
theorem bits_fields (time : Int) (random : Nat) : Fields time random (bits time random) := by
  let stamp := (milliseconds time % 2 ^ 48).toNat
  have hstamp : (stamp : Int) = milliseconds time % 2 ^ 48 := Int.toNat_of_nonneg (by omega)
  obtain ⟨plain, hplain⟩ : ∃ m, m = stamp * 2 ^ 80 + random % 2 ^ 80 := ⟨_, rfl⟩
  obtain ⟨versioned, hversioned⟩ : ∃ m, m = setBits plain 76 4 7 := ⟨_, rfl⟩
  have hbits : bits time random = setBits versioned 62 2 2 := by
    rw [hversioned, hplain]
    rfl
  have hversion : versioned / 2 ^ 76 % 2 ^ 4 = 7 := hversioned ▸ setBits_between (by decide)
  have htime : versioned / 2 ^ 80 = plain / 2 ^ 80 :=
    hversioned ▸ @setBits_above plain 76 4 7 (by decide)
  have hrandom : versioned % 2 ^ 76 = plain % 2 ^ 76 := hversioned ▸ setBits_below
  have hvariant : bits time random / 2 ^ 62 % 2 ^ 2 = 2 := hbits ▸ setBits_between (by decide)
  have habove : bits time random / 2 ^ 64 = versioned / 2 ^ 64 :=
    hbits ▸ @setBits_above versioned 62 2 2 (by decide)
  have hbelow : bits time random % 2 ^ 62 = versioned % 2 ^ 62 := hbits ▸ setBits_below
  constructor <;> omega

/-- An id has 128 bits. -/
theorem Fields.lt {time : Int} {random n : Nat} (h : Fields time random n) : n < 16 ^ 32 := by
  have htime := h.time
  omega

/-- **The fields make up the id.** -/
theorem Fields.eq_iff {time time' : Int} {random random' n n' : Nat} (h : Fields time random n)
    (h' : Fields time' random' n') (htime : milliseconds time = milliseconds time') :
    n = n' ↔ random / 2 ^ 64 % 2 ^ 12 = random' / 2 ^ 64 % 2 ^ 12
      ∧ random % 2 ^ 62 = random' % 2 ^ 62 := by
  have hstamp := h.time
  have hstamp' := h'.time
  rw [htime, ← hstamp'] at hstamp
  rw [← h.randomHigh, ← h'.randomHigh, ← h.randomLow, ← h'.randomLow]
  have hversion := h.version
  have hversion' := h'.version
  have hvariant := h.variant
  have hvariant' := h'.variant
  constructor
  · rintro rfl
    exact ⟨rfl, rfl⟩
  · rintro ⟨hhigh, hlow⟩
    omega

/-- **Ids of different milliseconds are ordered by time.** -/
theorem Fields.lt_iff {time time' : Int} {random random' n n' : Nat} (h : Fields time random n)
    (h' : Fields time' random' n')
    (htime : 0 ≤ milliseconds time ∧ milliseconds time < 2 ^ 48)
    (htime' : 0 ≤ milliseconds time' ∧ milliseconds time' < 2 ^ 48)
    (hne : milliseconds time ≠ milliseconds time') :
    n < n' ↔ milliseconds time < milliseconds time' := by
  have hstamp := h.time
  have hstamp' := h'.time
  omega

/-! ### Digits in groups -/

/-- Whether a character is a hexadecimal digit in lower case. -/
def isLowerHexDigit (c : Char) : Bool := c.isDigit || ('a' ≤ c && c ≤ 'f')

/-- **The canonical form of an id**: groups of 8, 4, 4, 4 and 12 digits with dashes between them. -/
def isCanonical (s : String) : Bool :=
  let groups := s.toList.splitOn '-'
  groups.map List.length == [8, 4, 4, 4, 12] && groups.all (·.all isLowerHexDigit)

/-- The number that the hexadecimal digits of a text spell, its dashes aside. -/
def number? (s : String) : Option Nat :=
  ((s.toList.filter (· ≠ '-')).mapM hexDigit?).map Text.unit?.ofHex

/-- Digits in groups of these lengths, and what is left, with dashes between. -/
def grouped : List Nat → List Char → List Char
  | [], ds => ds
  | k :: ks, ds => ds.take k ++ '-' :: grouped ks (ds.drop k)

/-- **Dashes at the same places** do not matter for the order. -/
theorem grouped_lt_iff (ks : List Nat) {ds ds' : List Char} (h : ds.length = ds'.length) :
    grouped ks ds < grouped ks ds' ↔ ds < ds' := by
  induction ks generalizing ds ds' with
  | nil => rfl
  | cons k ks ih =>
    have htake : (ds.take k).length = (ds'.take k).length := by
      rw [List.length_take, List.length_take, h]
    have hdrop : (ds.drop k).length = (ds'.drop k).length := by
      rw [List.length_drop, List.length_drop, h]
    rw [grouped, grouped, Text.append_lt_append_iff htake, List.cons_lt_cons_self, ih hdrop,
      ← Text.append_lt_append_iff htake, List.take_append_drop, List.take_append_drop]

/-- Without the dashes the digits are left. -/
theorem filter_grouped (ks : List Nat) {ds : List Char} (h : '-' ∉ ds) :
    (grouped ks ds).filter (· ≠ '-') = ds := by
  have hkept {l : List Char} (hl : '-' ∉ l) : l.filter (· ≠ '-') = l := by
    rw [List.filter_eq_self]
    rintro c hc
    simpa using ne_of_mem_of_not_mem hc hl
  induction ks generalizing ds with
  | nil => exact hkept h
  | cons k ks ih =>
    have htake : '-' ∉ ds.take k := fun hmem => h (List.mem_of_mem_take hmem)
    have hdrop : '-' ∉ ds.drop k := fun hmem => h (List.mem_of_mem_drop hmem)
    rw [grouped, List.filter_append, hkept htake, List.filter_cons_of_neg (by decide), ih hdrop,
      List.take_append_drop]

theorem splitOn_grouped (k : Nat) (ks : List Nat) {ds : List Char} (h : '-' ∉ ds) :
    (grouped (k :: ks) ds).splitOn '-' = ds.take k :: (grouped ks (ds.drop k)).splitOn '-' :=
  List.splitOn_append_cons_self_of_not_mem (fun hmem => h (List.mem_of_mem_take hmem)) _

/-- **Between the dashes** there are groups of the lengths, and one of what is left, -/
theorem lengths_grouped (ks : List Nat) {ds : List Char} (h : '-' ∉ ds)
    (hlength : ks.sum ≤ ds.length) :
    ((grouped ks ds).splitOn '-').map List.length = ks ++ [ds.length - ks.sum] := by
  induction ks generalizing ds with
  | nil =>
    rw [grouped, List.splitOn_eq_singleton h]
    rfl
  | cons k ks ih =>
    rw [List.sum_cons] at hlength
    have hdrop : '-' ∉ ds.drop k := fun hmem => h (List.mem_of_mem_drop hmem)
    rw [splitOn_grouped k ks h, List.map_cons, ih hdrop (by rw [List.length_drop]; omega),
      List.length_take_of_le (by omega), List.length_drop, List.sum_cons, List.cons_append,
      Nat.sub_sub]

/-- and they hold the digits. -/
theorem mem_of_mem_splitOn_grouped (ks : List Nat) {ds : List Char} (h : '-' ∉ ds) {g : List Char}
    (hg : g ∈ (grouped ks ds).splitOn '-') {c : Char} (hc : c ∈ g) : c ∈ ds := by
  induction ks generalizing ds with
  | nil =>
    rw [grouped, List.splitOn_eq_singleton h, List.mem_singleton] at hg
    exact hg ▸ hc
  | cons k ks ih =>
    rw [splitOn_grouped k ks h, List.mem_cons] at hg
    rcases hg with rfl | hg
    · exact List.mem_of_mem_take hc
    · have hdrop : '-' ∉ ds.drop k := fun hmem => h (List.mem_of_mem_drop hmem)
      exact List.mem_of_mem_drop (ih hdrop hg)

/-! ### Texts -/

theorem isLowerHexDigit_of_mem {w n : Nat} {c : Char} (hc : c ∈ hexDigits w n) :
    isLowerHexDigit c = true := by
  have hdigit : ∀ i < 16, isLowerHexDigit (hexDigit i) = true := by decide
  induction w generalizing n with
  | zero => contradiction
  | succ w ih =>
    rcases List.mem_append.1 hc with hc | hc
    · exact ih hc
    · rw [List.mem_singleton.1 hc]
      exact hdigit _ (Nat.mod_lt n (by decide))

theorem dash_not_mem_hexDigits (w n : Nat) : '-' ∉ hexDigits w n := by
  intro hmem
  have hdigit := isLowerHexDigit_of_mem hmem
  contradiction

theorem toList_text (n : Nat) : (text n).toList = grouped [8, 4, 4, 4] (hexDigits 32 n) := by
  have hlast : ((hexDigits 32 n).drop 20).take 12 = (hexDigits 32 n).drop 20 :=
    List.take_of_length_le (by rw [List.length_drop, Text.length_hexDigits])
  rw [text, String.toList_intercalate]
  simp only [List.map_cons, List.map_nil, String.toList_ofList, hlast]
  generalize hexDigits 32 n = ds
  have hdash : "-".toList = ['-'] := rfl
  simp [hdash, grouped, List.drop_drop, List.intercalate]

/-- **Digits spell the number** that they were written for. -/
theorem mapM_hexDigits (w n : Nat) :
    ((hexDigits w n).mapM hexDigit?).map Text.unit?.ofHex = some (n % 16 ^ w) := by
  induction w generalizing n with
  | zero =>
    rw [Nat.pow_zero, Nat.mod_one]
    rfl
  | succ w ih =>
    obtain ⟨values, hvalues, hspelled⟩ := Option.map_eq_some_iff.1 (ih (n / 16))
    have hlast := Text.hexDigit?_hexDigit (Nat.mod_lt n (by decide : 0 < 16))
    have hvalue : Text.unit?.ofHex (values ++ [n % 16])
        = 16 * Text.unit?.ofHex values + n % 16 := List.foldl_append
    rw [hexDigits, List.mapM_append, hvalues]
    simp only [List.mapM_cons, List.mapM_nil, hlast, Option.pure_def, Option.bind_eq_bind,
      Option.bind_some, Option.map_some, Option.some.injEq]
    rw [hvalue, hspelled, Nat.pow_succ', Nat.mod_mul]
    omega

/-- **The text of an id** is canonical, and spells its bits. -/
theorem number?_text {n : Nat} (h : n < 16 ^ 32) :
    number? (text n) = some n ∧ isCanonical (text n) = true := by
  have hdash := dash_not_mem_hexDigits 32 n
  have hlength := Text.length_hexDigits 32 n
  constructor
  · rw [number?, toList_text, filter_grouped _ hdash, mapM_hexDigits, Nat.mod_eq_of_lt h]
  · have hgroups := lengths_grouped [8, 4, 4, 4] hdash (by rw [hlength]; decide)
    rw [hlength] at hgroups
    rw [isCanonical, toList_text, hgroups, Bool.and_eq_true, beq_iff_eq, List.all_eq_true]
    refine ⟨rfl, fun g hg => ?_⟩
    rw [List.all_eq_true]
    intro c hc
    exact isLowerHexDigit_of_mem (mem_of_mem_splitOn_grouped [8, 4, 4, 4] hdash hg hc)

/-- **Ids are ordered as texts** as their bits are as numbers. -/
theorem text_lt_iff {n n' : Nat} (h : n < 16 ^ 32) (h' : n' < 16 ^ 32) :
    text n < text n' ↔ n < n' := by
  rw [String.lt_iff_toList_lt, toList_text, toList_text,
    grouped_lt_iff _ (by rw [Text.length_hexDigits, Text.length_hexDigits]), Text.hexDigits_eq,
    Text.hexDigits_eq, Text.digitsIn_lt_iff Text.hexDigit_lt_iff h h']

/-- **Generated ids.**  For every time and all random bits the text of an id is in canonical form, and
its digits spell 128 bits: the time in milliseconds, modulo the 48 bits that there are for it, the
version 7, the variant `10`, and the random bits at all other places.  So ids of different
milliseconds within these 48 bits are ordered by time, whatever the random bits are, and two ids of
one millisecond are the same exactly when the random bits are, those at the six fixed places aside. -/
theorem generate_ordered :
    (∀ time random, isCanonical (generate time random) = true
      ∧ ∃ n, number? (generate time random) = some n ∧ Fields time random n)
    ∧ (∀ time time' random random', 0 ≤ milliseconds time → milliseconds time < 2 ^ 48 →
      0 ≤ milliseconds time' → milliseconds time' < 2 ^ 48 →
      milliseconds time ≠ milliseconds time' →
      (generate time random < generate time' random' ↔ milliseconds time < milliseconds time'))
    ∧ ∀ time time' random random', milliseconds time = milliseconds time' →
      (generate time random = generate time' random'
        ↔ random / 2 ^ 64 % 2 ^ 12 = random' / 2 ^ 64 % 2 ^ 12
          ∧ random % 2 ^ 62 = random' % 2 ^ 62) := by
  have hlt (time : Int) (random : Nat) : bits time random < 16 ^ 32 := (bits_fields time random).lt
  refine ⟨?_, ?_, ?_⟩
  · -- The form is that of the number whose fields are the time and the random bits.
    intro time random
    obtain ⟨hnumber, hcanonical⟩ := number?_text (hlt time random)
    exact ⟨hcanonical, _, hnumber, bits_fields time random⟩
  · -- The time stands in front of the other fields, so it decides.
    intro time time' random random' hlow hhigh hlow' hhigh' hne
    rw [generate, generate, text_lt_iff (hlt time random) (hlt time' random')]
    exact (bits_fields time random).lt_iff (bits_fields time' random') ⟨hlow, hhigh⟩
      ⟨hlow', hhigh'⟩ hne
  · -- With equal times the random fields are left.
    intro time time' random random' htime
    have hsame := Text.eq_iff_of_lt_iff (text_lt_iff (hlt time random) (hlt time' random'))
      (text_lt_iff (hlt time' random') (hlt time random))
    rw [generate, generate, hsame]
    exact (bits_fields time random).eq_iff (bits_fields time' random') htime

/-- An id with all random bits set stands before one of the next millisecond without any.  Within a
millisecond a bit that is overwritten makes no difference, and any other does. -/
theorem generate_ordered_next :
    let time : Int := 1735689600000999999
    milliseconds time = 1735689600000 ∧ milliseconds (time + 1) = 1735689600001
      ∧ generate time (2 ^ 80 - 1) < generate (time + 1) 0
      ∧ generate time (2 ^ 76 + 5) = generate (time - 999999) 5
      ∧ generate time (2 ^ 75) ≠ generate time 0 := by
  intro time
  obtain ⟨-, hordered, hsame⟩ := generate_ordered
  have hfirst : milliseconds time = 1735689600000 := by decide
  have hnext : milliseconds (time + 1) = 1735689600001 := by decide
  refine ⟨hfirst, hnext, ?_, ?_, ?_⟩
  · exact (hordered time (time + 1) (2 ^ 80 - 1) 0 (by decide) (by decide) (by decide) (by decide)
      (by decide)).2 (by decide)
  · exact (hsame time (time - 999999) (2 ^ 76 + 5) 5 (by decide)).2 (by decide)
  · exact mt (hsame time time (2 ^ 75) 0 rfl).1 (by decide)

end EntityStore.Identifier
