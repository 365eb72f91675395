import EntityStore.Value.Basic
import EntityStore.Yaml.Tag

/-!
# Values of YAML scalars

`scalarValue` is the value of a scalar under its tag.  A scalar whose tag was found by its form has
a value, with four exceptions: a day or a time that does not exist, an offset of a day or more, a
binary or hexadecimal numeral without digits, and a decimal numeral with too many of them.  A scalar
that was tagged by hand need not have a value.
-/

namespace EntityStore.Yaml

/-- A text without its underscores. -/
def withoutLows (s : List Char) : List Char := s.filter (· ≠ '_')

/-- Whether a text begins with a minus sign. -/
def isNegative : List Char → Bool
  | '-' :: _ => true
  | _ => false

/-! ### Whole numbers -/

/-- The digit of a base that a character is. -/
def digitOf? (base : Nat) (c : Char) : Option Nat := (Text.hexDigit? c).filter (· < base)

/-- A whole number in base two, eight or sixteen. -/
def readInBase (base : Nat) (s : List Char) : Except Fault Nat :=
  let digits := s.filterMap (digitOf? base)
  if s.isEmpty ∨ digits.length ≠ s.length then
    .error (.numeral (.malformed base (Text.shown (String.ofList s))))
  else .ok (digits.foldl (fun n d => n * base + d) 0)

/-- A whole number in decimal digits. -/
def readDecimal (s : List Char) : Except Fault Int :=
  (Numeral.read (String.ofList s)).mapError .numeral

/-- A number in parts of sixty. -/
def readSixtieths : (parts : List (List Char)) → (soFar : Int) → Except Fault Int
  | [], soFar => .ok soFar
  | p :: r, soFar => do readSixtieths r (soFar * 60 + (← readDecimal p))

/-- A whole number without its sign. -/
def readMagnitude : List Char → Except Fault Int
  | [] => .error .noNumeral
  | ['0'] => .ok 0
  | '0' :: 'b' :: r => (readInBase 2 r).map Int.ofNat
  | '0' :: 'x' :: r => (readInBase 16 r).map Int.ofNat
  | '0' :: r => (readInBase 8 ('0' :: r)).map Int.ofNat
  | s => if s.contains ':' then readSixtieths (s.splitOn ':') 0 else readDecimal s

/-- The whole number that a scalar is. -/
def readWhole (s : List Char) : Except Fault Int :=
  let s := withoutLows s
  if s.isEmpty then .error .noNumeral
  else (readMagnitude (unsigned s)).map fun n => if isNegative s then -n else n

/-! ### Numbers that need not be whole -/

/-- A decimal number as a quotient. -/
def ratioOf? (s : List Char) : Option (Nat × Nat) :=
  match Decimal.read? (String.ofList s) with
  | some (.finite _ c e) => some (c * Nat.pow 10 e.toNat, Nat.pow 10 (-e).toNat)
  | _ => none

/-- A quotient in parts of sixty. -/
def ratioOfSixtieths? : (parts : List (List Char)) → (num den : Nat) → Option (Nat × Nat)
  | [], num, den => some (num, den)
  | p :: r, num, den => do
    let (n, d) ← ratioOf? p
    ratioOfSixtieths? r (num * 60 * d + n * den) (den * d)

/-- The number that a scalar is. -/
def readReal (s : List Char) : Except Fault Double :=
  let s := (withoutLows s).map Char.toLower
  let negative := isNegative s
  let body := unsigned s
  let refused : Except Fault Double := .error (.notNumber (Text.shown (String.ofList body)))
  match body with
  | [] => .error .noNumeral
  | ['.', 'i', 'n', 'f'] => .ok (.infinite negative)
  | ['.', 'n', 'a', 'n'] => .ok .nan
  | body =>
    if body.contains ':' then
      match ratioOfSixtieths? (body.splitOn ':') 0 1 with
      | some (n, d) => .ok (.ofRatio negative n d)
      | none => refused
    else
      match Decimal.read? (String.ofList body) with
      | some (.finite _ c e) => .ok (.ofDecimal negative c e)
      | _ => refused

/-! ### Bytes -/

/-- The six bits that a character stands for in base 64. -/
def sixBits? (c : Char) : Option Nat :=
  let n := c.toNat
  if c.isUpper then some (n - 65)
  else if c.isLower then some (n - 71)
  else if c.isDigit then some (n + 4)
  else if c = '+' then some 62
  else if c = '/' then some 63
  else none

/-- The bytes that a text in base 64 stands for, when `pending` of the four characters of a group
have been read, `bits` is what is left of the last, and so many signs of padding follow it.
Characters that mean nothing are passed over. -/
def readBase64 : List Char → (pending bits padding : Nat) → Option (List UInt8)
  | [], pending, _, _ => if pending = 0 then some [] else none
  | c :: r, pending, bits, padding =>
    if c = '=' then
      if 2 ≤ pending then
        if 4 ≤ pending + padding + 1 then some [] else readBase64 r pending bits (padding + 1)
      else readBase64 r pending bits padding
    else
      match sixBits? c with
      | none => readBase64 r pending bits padding
      | some v =>
        let byte (n : Nat) := UInt8.ofNat n
        match pending with
        | 0 => readBase64 r 1 v 0
        | 1 => (readBase64 r 2 (v % 16) 0).map (byte (bits * 4 + v / 16) :: ·)
        | 2 => (readBase64 r 3 (v % 4) 0).map (byte (bits * 16 + v / 4) :: ·)
        | _ => (readBase64 r 0 0 0).map (byte (bits * 64 + v) :: ·)

/-- The bytes that a scalar stands for. -/
def readBinary (s : List Char) : Except Fault (List UInt8) :=
  if s.any fun c => 128 ≤ c.toNat then .error .malformed
  else
    match readBase64 s 0 0 0 with
    | some b => .ok b
    | none => .error .malformed

/-! ### Scalars -/

/-- The truth value that a word is. -/
def readBool (s : String) : Except Fault Bool :=
  match boolWords.lookup s.toLower with
  | some b => .ok b
  | none => .error (.unknownWord (Text.shown s.toLower))

/-- The day or the time that a scalar is. -/
def readStamp (s : List Char) : Except Fault Scalar :=
  match stamp? s with
  | some (.date d) => (d.check.map Scalar.date).mapError .calendar
  | some (.time t) => (t.check.map Scalar.datetime).mapError .calendar
  | none => .error .noTimestamp

/-- **The value of a scalar under a tag.** -/
def scalarValue (tag : Tag) (text : String) : Except Fault Value :=
  let s := text.toList
  match tag with
  | .null => .ok .null
  | .bool => (readBool text).map .bool
  | .int => (readWhole s).map .int
  | .float => (readReal s).map .float
  | .timestamp => (readStamp s).map .scalar
  | .text => .ok (.str text)
  | .binary => (readBinary s).map fun b => .scalar (.bytes b)
  | _ => .error .malformed

end EntityStore.Yaml
