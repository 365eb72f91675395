import EntityStore.Value.Basic

/-!
# Reading JSON

`Json.read` reads a JSON text.  A literal with a fraction or an exponent is a binary64 number and
every other one a whole number of any size up to the limit on digits; `NaN`, `Infinity` and
`-Infinity` are accepted.  Blanks are space, tab, line feed and carriage return only, and a string
holds no raw control character.  A key that occurs twice keeps its first place and its last
value.

A text fails at its first fault, which is either that it is not JSON or that a numeral has too
many digits.
-/

namespace EntityStore.Json

/-- Why a text is not read as JSON. -/
inductive ReadError where
  | malformed
  | numeral (e : NumeralError)
deriving DecidableEq, Repr

/-- Whether a character is a blank of JSON. -/
def isBlank (c : Char) : Bool :=
  c = ' ' || c = '\t' || c = '\n' || c = '\r'

/-- A text without the blanks at its start. -/
def skipBlanks (s : List Char) : List Char := s.dropWhile isBlank

/-! ### Numbers -/

/-- The digits of a whole part: a single zero, or digits that do not begin with zero. -/
def wholePart? : List Char → Option (List Char × List Char)
  | '0' :: r => some (['0'], r)
  | c :: r =>
    if c.isDigit then some (c :: r.takeWhile Char.isDigit, r.dropWhile Char.isDigit) else none
  | [] => none

/-- The digits behind a point, when there is a point with a digit behind it. -/
def fractionPart? : List Char → Option (List Char × List Char)
  | '.' :: c :: r =>
    if c.isDigit then some (c :: r.takeWhile Char.isDigit, r.dropWhile Char.isDigit) else none
  | _ => none

/-- The value of an exponent, when there is one with a digit in it. -/
def exponentPart? : List Char → Option (Int × List Char)
  | c :: r =>
    if c = 'e' ∨ c = 'E' then
      let (negative, r) := Numeral.signed r
      let ds := r.takeWhile Char.isDigit
      if ds.isEmpty then none
      else
        let n : Int := Text.ofDigits (ds.filterMap Text.asciiDigit?)
        some (if negative then -n else n, r.dropWhile Char.isDigit)
    else none
  | [] => none

/-- The number with these parts. -/
def numberOf (negative : Bool) (whole : List Char) (fraction : Option (List Char))
    (exponent : Option Int) : Except ReadError Value :=
  match fraction, exponent with
  | none, none =>
    if maxDigits < whole.length then .error (.numeral (.tooLong whole.length))
    else
      let n : Int := Text.ofDigits (whole.filterMap Text.asciiDigit?)
      .ok (.int (if negative then -n else n))
  | fraction, exponent =>
    let fraction := fraction.getD []
    let n := Text.ofDigits ((whole ++ fraction).filterMap Text.asciiDigit?)
    .ok (.float (Double.ofDecimal negative n (exponent.getD 0 - fraction.length)))

/-- A number behind its sign. -/
def readUnsigned (negative : Bool) (s : List Char) : Except ReadError (Value × List Char) :=
  match wholePart? s with
  | none => .error .malformed
  | some (whole, r) =>
    let (fraction, r) := match fractionPart? r with
      | some (f, r) => (some f, r)
      | none => (none, r)
    let (exponent, r) := match exponentPart? r with
      | some (e, r) => (some e, r)
      | none => (none, r)
    (numberOf negative whole fraction exponent).map (·, r)

/-- The words that stand for a value, and the value. -/
def words : List (List Char × Value) :=
  [("null".toList, .null), ("true".toList, .bool true), ("false".toList, .bool false),
   ("NaN".toList, .float .nan), ("Infinity".toList, .float (.infinite false)),
   ("-Infinity".toList, .float (.infinite true))]

/-- A word or a number. -/
def readAtom (s : List Char) : Except ReadError (Value × List Char) :=
  match words.find? fun w => w.1.isPrefixOf s with
  | some (w, v) => .ok (v, s.drop w.length)
  | none =>
    match s with
    | '-' :: r => readUnsigned true r
    | s => readUnsigned false s

/-! ### Strings, lists and objects -/

/-- The inside of a string whose opening quote has been read. -/
def readText (s : List Char) : Except ReadError (String × List Char) :=
  match Text.scan s with
  | some (t, r) => .ok (String.ofList t, r)
  | none => .error .malformed

/-- A key, the colon behind it and the blanks behind that. -/
def readKey : List Char → Except ReadError (String × List Char)
  | '"' :: r => do
    let (k, r) ← readText r
    match skipBlanks r with
    | ':' :: r => return (k, skipBlanks r)
    | _ => .error .malformed
  | _ => .error .malformed

mutual

/-- A value that begins with the first character. -/
def readValue : (fuel : Nat) → List Char → Except ReadError (Value × List Char)
  | 0, _ => .error .malformed
  | n + 1, s =>
    match s with
    | '"' :: r => (readText r).map fun (t, r) => (.str t, r)
    | '[' :: r =>
      match skipBlanks r with
      | ']' :: r => .ok (.list [], r)
      | r => (readItems n r).map fun (items, r) => (.list items, r)
    | '\x7b' :: r =>
      match skipBlanks r with
      | '\x7d' :: r => .ok (.object [], r)
      | r => (readFields n r).map fun (fields, r) => (.object (Entries.ofList fields), r)
    | s => readAtom s

/-- The items of a list up to its closing bracket, of which there is at least one. -/
def readItems : (fuel : Nat) → List Char → Except ReadError (List Value × List Char)
  | 0, _ => .error .malformed
  | n + 1, s => do
    let (v, r) ← readValue n s
    match skipBlanks r with
    | ']' :: r => return ([v], r)
    | ',' :: r =>
      let (items, r) ← readItems n (skipBlanks r)
      return (v :: items, r)
    | _ => .error .malformed

/-- The fields of an object up to its closing bracket, of which there is at least one. -/
def readFields : (fuel : Nat) → List Char → Except ReadError (List (String × Value) × List Char)
  | 0, _ => .error .malformed
  | n + 1, s => do
    let (k, r) ← readKey s
    let (v, r) ← readValue n r
    match skipBlanks r with
    | '\x7d' :: r => return ([(k, v)], r)
    | ',' :: r =>
      let (fields, r) ← readFields n (skipBlanks r)
      return ((k, v) :: fields, r)
    | _ => .error .malformed

end

/-- **The value that a JSON text stands for.**  Each call behind the first has read at least one
character, so twice the length of the text is fuel enough. -/
def read (text : String) : Except ReadError Value := do
  let s := text.toList
  let (v, r) ← readValue (2 * s.length + 2) (skipBlanks s)
  if (skipBlanks r).isEmpty then return v else .error .malformed

end EntityStore.Json
