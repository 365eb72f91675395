/-!
# Exact numbers

Every number that a value can hold, a whole number of any size, a binary64 number or a decimal
number, is `±u · 2^a · 5^b` for whole exponents `a` and `b`.  With `u` free of the factors 2 and
5 this form is unique, and it stays small where the number itself is astronomically large or
small, so two numbers of different kinds are compared by comparing their forms.
-/

namespace EntityStore

/-- A number `±unit · 2^twos · 5^fives`.  In the form that `Exact.ofScaled` makes, `unit` has no
factor 2 or 5, and zero is the one number whose `unit` is 0. -/
structure Exact where
  negative : Bool
  unit : Nat
  twos : Int
  fives : Int
deriving DecidableEq, Repr

namespace Exact

/-- Divides a positive number by `p` as often as it goes: what is left, and how often. -/
def strip (p : Nat) (n : Nat) : Nat × Nat :=
  if _h : 0 < n ∧ 1 < p ∧ n % p = 0 then
    let (u, k) := strip p (n / p)
    (u, k + 1)
  else (n, 0)
termination_by n
decreasing_by exact Nat.div_lt_self _h.1 _h.2.1

/-- Stripping factors loses nothing. -/
theorem strip_mul_pow (p n : Nat) : (strip p n).1 * Nat.pow p (strip p n).2 = n := by
  fun_induction strip p n with
  | case1 n h u k hs ih =>
    simp only [hs] at ih
    show u * (Nat.pow p k * p) = n
    rw [← Nat.mul_assoc, ih]
    exact Nat.div_mul_cancel (Nat.dvd_of_mod_eq_zero h.2.2)
  | case2 n h => simp

/-- The number zero. -/
def zero : Exact := ⟨false, 0, 0, 0⟩

/-- **The unique form of `±n · 2^a · 5^b`.** -/
def ofScaled (negative : Bool) (n : Nat) (a b : Int) : Exact :=
  if n = 0 then zero
  else
    let (m, twos) := strip 2 n
    let (u, fives) := strip 5 m
    ⟨negative, u, a + twos, b + fives⟩

/-- A whole number. -/
def ofInt (n : Int) : Exact :=
  ofScaled (n < 0) n.natAbs 0 0

/-- One and nought, the numbers that the truth values equal. -/
def ofBool (b : Bool) : Exact :=
  ofInt (if b then 1 else 0)

/-- A digest that equal numbers share. -/
def digest (x : Exact) : UInt64 :=
  mixHash (mixHash (hash x.negative) (hash x.unit)) (mixHash (hash x.twos) (hash x.fives))

end Exact

end EntityStore
