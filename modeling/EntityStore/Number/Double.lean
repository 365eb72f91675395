import EntityStore.Number.Exact

/-!
# Binary64 numbers

A finite number is `±significand · 2^exponent` with a significand below 2^53 and an exponent from
-1074 to 971.  `ofRatio` rounds a quotient of two whole numbers to the nearest binary64 number, a
half to the even neighbour, and `ofDecimal` does so for a decimal fraction.  All arithmetic is
exact, on natural numbers.
-/

namespace EntityStore

/-- A binary64 number. -/
inductive Double where
  | nan
  | infinite (negative : Bool)
  | finite (negative : Bool) (significand : Nat) (exponent : Int)
deriving DecidableEq, Repr

namespace Double

/-- The smallest exponent of two. -/
def minExponent : Int := -1074

/-- The largest exponent of two. -/
def maxExponent : Int := 971

/-- A zero of the given sign. -/
def zero (negative : Bool) : Double := .finite negative 0 minExponent

/-- The quotient of two numbers rounded to the nearest whole number, a half to the even one. -/
def roundDiv (num den : Nat) : Nat :=
  let q := num / den
  let twice := 2 * (num % den)
  if twice < den ∨ (twice = den ∧ q % 2 = 0) then q else q + 1

/-- Rounding a quotient stays within half a unit of it. -/
theorem roundDiv_bounds (num : Nat) {den : Nat} (h : 0 < den) :
    2 * num ≤ 2 * (den * roundDiv num den) + den ∧
      2 * (den * roundDiv num den) ≤ 2 * num + den := by
  have hd := Nat.div_add_mod num den
  have hm := Nat.mod_lt num h
  unfold roundDiv
  dsimp only
  split
  · omega
  · rw [Nat.mul_add, Nat.mul_one]
    omega

/-- `num / den` times `2^-e`, as a quotient of natural numbers. -/
def scaleDown (num den : Nat) (e : Int) : Nat × Nat :=
  (num * Nat.pow 2 (-e).toNat, den * Nat.pow 2 e.toNat)

/-- The exponent at which the significand of `num / den` has 53 bits, or the smallest one. -/
def exponentFor (num den : Nat) : Int :=
  let guess : Int := (num.log2 : Int) - den.log2 - 53
  let (n, d) := scaleDown num den guess
  max minExponent (if n < d * Nat.pow 2 53 then guess else guess + 1)

/-- **The binary64 number nearest to `±num / den`**, infinite when it is too large. -/
def ofRatio (negative : Bool) (num den : Nat) : Double :=
  if num = 0 then zero negative
  else
    let e := exponentFor num den
    let (n, d) := scaleDown num den e
    let m := roundDiv n d
    let (m, e) := if m = Nat.pow 2 53 then (Nat.pow 2 52, e + 1) else (m, e)
    if maxExponent < e then .infinite negative
    else if m = 0 then zero negative
    else .finite negative m e

/-- How many decimal digits a number has. -/
def decimalLength (n : Nat) : Nat := (Nat.toDigits 10 n).length

/-- **The binary64 number nearest to `±n · 10^k`.**  Fractions beyond the range of the format are
decided by their size alone, so a vast exponent costs nothing. -/
def ofDecimal (negative : Bool) (n : Nat) (k : Int) : Double :=
  let size := (decimalLength n : Int) + k
  if n = 0 ∨ size < -330 then zero negative
  else if 310 < size then .infinite negative
  else ofRatio negative (n * Nat.pow 10 k.toNat) (Nat.pow 10 (-k).toNat)

/-- The exact number, when there is one. -/
def toExact? : Double → Option Exact
  | .finite negative m e => some (Exact.ofScaled negative m e 0)
  | _ => none

/-- The whole part, when the number is finite. -/
def truncate? : Double → Option Int
  | .finite negative m e =>
    let n := if 0 ≤ e then m * Nat.pow 2 e.toNat else m / Nat.pow 2 (-e).toNat
    some (if negative then -(n : Int) else n)
  | _ => none

/-- The number itself, when it is whole. -/
def toInt? (x : Double) : Option Int :=
  match x with
  | .finite _ m e => if 0 ≤ e ∨ m % Nat.pow 2 (-e).toNat = 0 then x.truncate? else none
  | _ => none

end Double

end EntityStore
