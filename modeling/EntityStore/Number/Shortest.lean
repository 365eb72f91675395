import EntityStore.Number.Double

/-!
# The shortest decimal text of a binary64 number

Among the decimal fractions that round to a given binary64 number, `shortest` picks one with the
fewest digits, and of those the one nearest to the number.  `Double.text` lays the digits out:
positionally, with at least one digit on either side of the point, as long as the exponent of the
first digit lies between -4 and 15, and otherwise with an exponent of two digits or more.
-/

namespace EntityStore

namespace Double

/-! ### The digits -/

/-- The real numbers that round to `m · 2^e`, measured in quarters of `2^e`: the least, the number
itself, the greatest.  Below a power of two the neighbours are twice as close. -/
def roundingInterval (m : Nat) (e : Int) : Nat × Nat × Nat :=
  let below := if m = Nat.pow 2 52 ∧ minExponent < e then 1 else 2
  (4 * m - below, 4 * m, 4 * m + 2)

/-- The quotient `2^(e - 2) / 10^k`, as a quotient of natural numbers. -/
def quarterUnit (e k : Int) : Nat × Nat :=
  (Nat.pow 2 (e - 2).toNat * Nat.pow 10 (-k).toNat, Nat.pow 2 (2 - e).toNat * Nat.pow 10 k.toNat)

/-- The power of ten just above a positive number: the `t` with `10^(t-1) ≤ m · 2^e < 10^t`. -/
def decimalExponent (m : Nat) (e : Int) : Int :=
  (decimalLength (m * Nat.pow 2 e.toNat * Nat.pow 10 400 / Nat.pow 2 (-e).toNat) : Int) - 400

/-- The multiple of `10^k` that rounds to `m · 2^e`, the nearer of two, and of two equally near
ones the one with an even last digit. -/
def onGrid? (m : Nat) (e k : Int) : Option Nat :=
  let (lo, mid, hi) := roundingInterval m e
  let (num, den) := quarterUnit e k
  let inside (c : Nat) : Bool :=
    if m % 2 = 0 then lo * num ≤ c * den && c * den ≤ hi * num
    else lo * num < c * den && c * den < hi * num
  let f := mid * num / den
  match inside f, inside (f + 1) with
  | true, true =>
    let twice := 2 * (mid * num)
    let middle := (2 * f + 1) * den
    some (if twice < middle ∨ (twice = middle ∧ f % 2 = 0) then f else f + 1)
  | true, false => some f
  | false, true => some (f + 1)
  | false, false => none

/-- **The fewest decimal digits that read back as `m · 2^e`**, with the power of ten of the
last. -/
def shortest (m : Nat) (e : Int) : Nat × Int :=
  let t := decimalExponent m e
  ((List.range 17).findSome? fun (n : Nat) =>
      let k := t - ((n : Int) + 1)
      (onGrid? m e k).map fun c => (c, k)).getD (0, 0)

/-! ### The layout -/

/-- The exponents of the first digit that are written positionally are those from `-4` up to, and
not including, this one. -/
def positionalLimit : Int := 16

/-- The text of an exponent: a sign and two digits or more. -/
def exponentText (x : Int) : String :=
  let digits := toString x.natAbs
  (if x < 0 then "e-" else "e+") ++ (if digits.length < 2 then "0" ++ digits else digits)

/-- A text of `n` zeros. -/
def zerosText (n : Nat) : String := String.ofList (List.replicate n '0')

/-- The text of a number with these digits, without trailing zeros, whose first digit has the
weight `10^x`. -/
def layout (digits : String) (x : Int) : String :=
  if -4 ≤ x ∧ x < positionalLimit then
    if x < 0 then "0." ++ zerosText (-x - 1).toNat ++ digits
    else
      let whole := x.toNat + 1
      if digits.length ≤ whole then digits ++ zerosText (whole - digits.length) ++ ".0"
      else (digits.take whole).toString ++ "." ++ (digits.drop whole).toString
  else
    let tail := (digits.drop 1).toString
    (digits.take 1).toString ++ (if tail.isEmpty then "" else "." ++ tail) ++ exponentText x

/-- The decimal digits of a number without its trailing zeros. -/
def significantDigits (n : Nat) : String :=
  let ds := (Nat.toDigits 10 n).reverse.dropWhile (· == '0')
  String.ofList ds.reverse

/-- **The text of a binary64 number.** -/
def text : Double → String
  | .nan => "nan"
  | .infinite negative => if negative then "-inf" else "inf"
  | .finite negative m e =>
    let sign := if negative then "-" else ""
    if m = 0 then sign ++ "0.0"
    else
      let (n, k) := shortest m e
      sign ++ layout (significantDigits n) (k + decimalLength n - 1)

end Double

end EntityStore
