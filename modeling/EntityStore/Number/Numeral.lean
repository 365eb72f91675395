import EntityStore.Text.Blank
import EntityStore.Text.Digits
import EntityStore.Text.Shown

/-!
# Numerals

A numeral is the text of a whole number: white space around it, a sign, and decimal digits of any
script with single underscores between them.  A numeral of more than 4300 digits is refused, and
that is noticed before anything behind the digits is looked at.  A number that would need such a
numeral cannot be written either.
-/

namespace EntityStore

/-- The most digits a numeral may have. -/
def maxDigits : Nat := 4300

/-- Why a text is not read as a whole number, or a whole number not written. -/
inductive NumeralError where
  | malformed (base : Nat) (shown : String)
  | tooLong (digits : Nat)
  | unwritable
deriving DecidableEq, Repr

/-- The wording of a refused numeral.  What was shown of it is cut after two hundred characters. -/
def NumeralError.message : NumeralError → String
  | .malformed base shown =>
    "invalid literal for int() with base " ++ toString base ++ ": " ++ (shown.take 200).toString
  | .tooLong digits =>
    "Exceeds the limit (4300 digits) for integer string conversion: value has "
      ++ toString digits ++ " digits; use sys.set_int_max_str_digits() to increase the limit"
  | .unwritable =>
    "Exceeds the limit (4300 digits) for integer string conversion; use "
      ++ "sys.set_int_max_str_digits() to increase the limit"

namespace Numeral

/-- Whether a whole number can be written. -/
def isWritable (n : Int) : Bool := n.natAbs < Nat.pow 10 maxDigits

/-- Splits off a sign: whether it is a minus, and the rest. -/
def signed : List Char → Bool × List Char
  | '-' :: r => (true, r)
  | '+' :: r => (false, r)
  | r => (false, r)

/-- The digits at the start of a text, and what follows them.  Underscores may stand between two
digits, one at a time; `none` when one stands elsewhere. -/
def digits : List Char → Option (List Nat × List Char)
  | [] => some ([], [])
  | c :: r =>
    match Text.decimalDigit? c with
    | some d =>
      match r with
      | '_' :: c' :: r' =>
        if Text.isDecimalDigit c' then (digits (c' :: r')).map fun (ds, rest) => (d :: ds, rest)
        else none
      | ['_'] => none
      | r => (digits r).map fun (ds, rest) => (d :: ds, rest)
    | none => if c = '_' then none else some ([], c :: r)

/-- The whole number that characters spell, which are shown like this if they spell none. -/
def readAs (shown : String) (s : List Char) : Except NumeralError Int :=
  let (negative, body) := signed (Text.trimList Text.isWhiteSpace s)
  match digits body with
  | none => .error (.malformed 10 shown)
  | some (ds, rest) =>
    if maxDigits < ds.length then .error (.tooLong ds.length)
    else if ds.isEmpty || !rest.isEmpty then .error (.malformed 10 shown)
    else
      let n : Int := Text.ofDigits ds
      .ok (if negative then -n else n)

/-- **The whole number that a text spells.** -/
def read (text : String) : Except NumeralError Int := readAs (Text.shown text) text.toList

/-- The whole number that bytes spell in ASCII. -/
def readBytes (b : List UInt8) : Except NumeralError Int :=
  if b.all (· < 128) then readAs (Text.shownBytes b) (b.map fun x => Char.ofNat x.toNat)
  else .error (.malformed 10 (Text.shownBytes b))

end Numeral

end EntityStore
