import EntityStore.Number.Double
import EntityStore.Number.Numeral

/-!
# Decimal numbers

A decimal number is `±coefficient · 10^exponent`, an infinity, or one of the two kinds of
not-a-number.  The exponent is part of it: `2.50` and `2.5` are equal and differ in their text.

`Decimal.text` writes a number positionally when its exponent is at most zero and its first digit
stands no further than the sixth place after the point, and otherwise with an exponent; `read?`
accepts what `text` writes.  `toDouble?` gives the nearest binary64 number; a signaling
not-a-number has none.
-/

namespace EntityStore

/-- A decimal number. -/
inductive Decimal where
  | finite (negative : Bool) (coefficient : Nat) (exponent : Int)
  | infinite (negative : Bool)
  | nan (negative signaling : Bool) (payload : String)
deriving DecidableEq, Repr

namespace Decimal

/-! ### The text -/

/-- The text of a sign. -/
def signText (negative : Bool) : String := if negative then "-" else ""

/-- The digits with a point after the first `n`, which may lie outside of them. -/
def placePoint (digits : String) (n : Int) : String :=
  if n ≤ 0 then "0." ++ String.ofList (List.replicate (-n).toNat '0') ++ digits
  else (digits.take n.toNat).toString ++ "." ++ (digits.drop n.toNat).toString

/-- **The text of a decimal number.** -/
def text : Decimal → String
  | .infinite negative => signText negative ++ "Infinity"
  | .nan negative signaling payload =>
    signText negative ++ (if signaling then "sNaN" else "NaN") ++ payload
  | .finite negative c e =>
    let digits := toString c
    let n : Int := digits.length
    let adjusted := e + n - 1
    signText negative ++
      if e ≤ 0 ∧ -6 ≤ adjusted then
        if e = 0 then digits else placePoint digits (n + e)
      else
        (if digits.length = 1 then digits else placePoint digits 1)
          ++ "E" ++ (if adjusted < 0 then "-" else "+") ++ toString adjusted.natAbs

/-! ### Reading -/

/-- The digits of a text that holds nothing else. -/
def allDigits? (s : List Char) : Option (List Nat) :=
  s.mapM Text.asciiDigit?

/-- The exponent at the end of a decimal literal, zero when there is none. -/
def readExponent? : List Char → Option Int
  | [] => some 0
  | c :: r =>
    if c = 'E' ∨ c = 'e' then
      let (negative, ds) := Numeral.signed r
      match allDigits? ds with
      | some (d :: ds) =>
        let n : Int := Text.ofDigits (d :: ds)
        some (if negative then -n else n)
      | _ => none
    else none

/-- A finite literal without its sign: digits, a fraction, an exponent. -/
def readFinite? (negative : Bool) (s : List Char) : Option Decimal :=
  let whole := s.takeWhile Char.isDigit
  let r := s.dropWhile Char.isDigit
  let (fraction, r) := match r with
    | '.' :: r => (r.takeWhile Char.isDigit, r.dropWhile Char.isDigit)
    | r => ([], r)
  if whole.isEmpty && fraction.isEmpty then none
  else do
    let e ← readExponent? r
    let ds ← allDigits? (whole ++ fraction)
    return .finite negative (Text.ofDigits ds) (e - fraction.length)

/-- **The decimal number that a text spells.** -/
def read? (s : String) : Option Decimal :=
  let (negative, body) := Numeral.signed s.toList
  match body with
  | 's' :: 'N' :: 'a' :: 'N' :: payload => some (.nan negative true (String.ofList payload))
  | 'N' :: 'a' :: 'N' :: payload => some (.nan negative false (String.ofList payload))
  | body =>
    if body = "Infinity".toList then some (.infinite negative)
    else readFinite? negative body

/-! ### The number -/

/-- Whether a number is a signaling not-a-number. -/
def isSignaling : Decimal → Bool
  | .nan _ signaling _ => signaling
  | _ => false

/-- The exact number, when there is one. -/
def toExact? : Decimal → Option Exact
  | .finite negative c e => some (Exact.ofScaled negative c e e)
  | _ => none

/-- The nearest binary64 number, unless the number is a signaling not-a-number. -/
def toDouble? : Decimal → Option Double
  | .finite negative c e => some (Double.ofDecimal negative c e)
  | .infinite negative => some (.infinite negative)
  | .nan _ signaling _ => if signaling then none else some .nan

/-- The whole part, when the number is finite. -/
def truncate? : Decimal → Option Int
  | .finite negative c e =>
    let n := if 0 ≤ e then c * Nat.pow 10 e.toNat else c / Nat.pow 10 (-e).toNat
    some (if negative then -(n : Int) else n)
  | _ => none

end Decimal

/-- **The binary64 number that a shown binary64 text spells.** -/
def Double.read? (s : String) : Option Double :=
  if s = "nan" then some .nan
  else if s = "inf" then some (.infinite false)
  else if s = "-inf" then some (.infinite true)
  else (Decimal.read? s).bind Decimal.toDouble?

end EntityStore
