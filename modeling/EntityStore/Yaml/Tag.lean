import EntityStore.Yaml.Token
import EntityStore.Text.Quoted

/-!
# YAML tags

The tag of a node says what kind of value it stands for.  A node that is not tagged gets its tag
from its form: a collection that of a sequence or a mapping, a quoted scalar that of a text, and a
plain scalar that of the first of the forms below which it has, or that of a text.

The forms are those of YAML 1.1: `yes`, `no`, `on` and `off` are truth values, whole numbers may be
binary, octal, hexadecimal or in parts of sixty, and a date is written year, month, day.
-/

namespace EntityStore.Yaml

/-- What kind of value a node stands for. -/
inductive Tag where
  | null
  | bool
  | int
  | float
  | timestamp
  | text
  | binary
  | sequence
  | mapping
  | set
  | orderedMapping
  | pairs
  | merge
  | defaultValue
  | unknown
deriving DecidableEq, Repr

namespace Tag

/-- What the tags of YAML begin with. -/
def start : String := "tag:yaml.org,2002:"

/-- The tags by their names. -/
def names : List (String × Tag) :=
  [("null", .null), ("bool", .bool), ("int", .int), ("float", .float),
   ("timestamp", .timestamp), ("str", .text), ("binary", .binary), ("seq", .sequence),
   ("map", .mapping), ("set", .set), ("omap", .orderedMapping), ("pairs", .pairs),
   ("merge", .merge), ("value", .defaultValue)]

/-- The tag with a full name. -/
def ofName (name : String) : Tag :=
  ((names.find? fun p => start ++ p.1 == name).map Prod.snd).getD .unknown

end Tag

/-! ### Forms of plain scalars -/

/-- A text without a sign at its start. -/
def unsigned : List Char → List Char
  | '+' :: r => r
  | '-' :: r => r
  | r => r

/-- Whether a text has at least one character, and all satisfy `p`. -/
def isRun (p : Char → Bool) (s : List Char) : Bool := !s.isEmpty && s.all p

/-- Whether a character is a digit or an underscore. -/
def isDigitOrLow (c : Char) : Bool := c.isDigit || c = '_'

/-- Whether a text begins with a digit and goes on with digits and underscores. -/
def isDigitRun : List Char → Bool
  | c :: r => c.isDigit && r.all isDigitOrLow
  | [] => false

/-- Whether a text is a number below sixty of one or two digits. -/
def isSixtieth : List Char → Bool
  | [c] => c.isDigit
  | [c, d] => '0' ≤ c && c ≤ '5' && d.isDigit
  | _ => false

/-- Whether a text is a colon and a number below sixty, at least once. -/
def isSixtieths (s : List Char) : Bool :=
  match s.splitOn ':' with
  | [] :: parts => !parts.isEmpty && parts.all isSixtieth
  | _ => false

/-- Whether a text is a whole number in one of five notations. -/
def isWhole (s : List Char) : Bool :=
  match unsigned s with
  | '0' :: 'b' :: r => isRun (fun c => c = '0' || c = '1' || c = '_') r
  | '0' :: 'x' :: r => isRun (fun c => (Text.hexDigit? c).isSome || c = '_') r
  | ['0'] => true
  | '0' :: r => isRun (fun c => ('0' ≤ c && c ≤ '7') || c = '_') r
  | c :: r =>
    let digits := (c :: r).takeWhile isDigitOrLow
    let rest := (c :: r).dropWhile isDigitOrLow
    isDigitRun digits && (rest.isEmpty || isSixtieths rest)
  | [] => false

/-- Whether a text is an exponent with a sign, or empty. -/
def isExponent : List Char → Bool
  | [] => true
  | e :: sign :: r =>
    (e = 'e' || e = 'E') && (sign = '+' || sign = '-') && isRun Char.isDigit r
  | _ => false

/-- Whether a text is a number with a point. -/
def isPointed (s : List Char) : Bool :=
  match s with
  | '.' :: c :: r => c.isDigit && isExponent (r.dropWhile isDigitOrLow)
  | _ => false

/-- Whether a text is digits, a point and what may follow it. -/
def isDigitsAndPoint (s : List Char) : Bool :=
  let digits := s.takeWhile isDigitOrLow
  match s.dropWhile isDigitOrLow with
  | '.' :: r => isDigitRun digits && isExponent (r.dropWhile isDigitOrLow)
  | ':' :: r =>
    let rest := ':' :: r
    let parts := rest.takeWhile (· ≠ '.')
    match rest.dropWhile (· ≠ '.') with
    | '.' :: r => isDigitRun digits && isSixtieths parts && r.all isDigitOrLow
    | _ => false
  | _ => false

/-- Whether a text is a number that need not be whole. -/
def isReal (s : List Char) : Bool :=
  isPointed s || isDigitsAndPoint (unsigned s)
    || [".inf", ".Inf", ".INF"].contains (String.ofList (unsigned s))
    || [".nan", ".NaN", ".NAN"].contains (String.ofList s)

/-- The words for truth values. -/
def boolWords : List (String × Bool) :=
  [("yes", true), ("no", false), ("true", true), ("false", false), ("on", true), ("off", false)]

/-- Whether a text is a word for a truth value, in small letters, in capitals, or with a capital
at its start. -/
def isBoolWord (s : String) : Bool :=
  boolWords.any fun p => s == p.1 || s == p.1.toUpper || s == p.1.capitalize

/-! ### Timestamps -/

/-- The digits at the start of a text, at least `least` and at most `most`, and the rest. -/
def takeDigits (least most : Nat) (s : List Char) : Option (Nat × List Char) :=
  let digits := (s.take most).takeWhile Char.isDigit
  if least ≤ digits.length then
    some (Text.ofDigits (digits.filterMap Text.asciiDigit?), s.drop digits.length)
  else none

/-- The rest of a text behind a character. -/
def after (x : Char) : List Char → Option (List Char)
  | c :: r => if c = x then some r else none
  | [] => none

/-- A text without blanks at its start. -/
def dropBlanks (s : List Char) : List Char := s.dropWhile fun c => c = ' ' || c = '\t'

/-- The microseconds that a text behind the seconds begins with, and the rest. -/
def fraction (s : List Char) : Nat × List Char :=
  match s with
  | '.' :: r =>
    let digits := (r.takeWhile Char.isDigit).filterMap Text.asciiDigit?
    (Text.ofDigits ((digits ++ List.replicate 6 0).take 6), r.dropWhile Char.isDigit)
  | s => (0, s)

/-- The offset that a text is: empty, `Z`, or a sign with hours and perhaps minutes. -/
def offset? (s : List Char) : Option (Option Offset) :=
  match dropBlanks s with
  | [] => if s.isEmpty then some none else none
  | ['Z'] => some (some 0)
  | sign :: r => do
    if sign ≠ '+' ∧ sign ≠ '-' then none
    let (hours, r) ← takeDigits 1 2 r
    let minutes ← match r with
      | [] => some 0
      | ':' :: r =>
        match takeDigits 2 2 r with
        | some (minutes, []) => some minutes
        | _ => none
      | _ => none
    let seconds : Int := hours * 3600 + minutes * 60
    return some (Offset.ofSeconds (if sign = '-' then -seconds else seconds))

/-- A timestamp: a date, or a date and a time. -/
inductive Stamp where
  | date (d : Date)
  | time (t : DateTime)
deriving DecidableEq, Repr

/-- The time that a text behind a date gives, if it gives one. -/
def timeOfDay? (d : Date) (s : List Char) : Option DateTime := do
  let r ← match s with
    | 'T' :: r => some r
    | 't' :: r => some r
    | s => if (dropBlanks s).length < s.length then some (dropBlanks s) else none
  let (hour, r) ← takeDigits 1 2 r
  let (minute, r) ← takeDigits 2 2 (← after ':' r)
  let (second, r) ← takeDigits 2 2 (← after ':' r)
  let (microsecond, r) := fraction r
  return ⟨d, hour, minute, second, microsecond, ← offset? r⟩

/-- The timestamp that a text is, whether or not there is such a day or time. -/
def stamp? (s : List Char) : Option Stamp := do
  let (year, r) ← takeDigits 4 4 s
  let (month, r) ← takeDigits 1 2 (← after '-' r)
  let (day, r) ← takeDigits 1 2 (← after '-' r)
  if r.isEmpty then return .date ⟨year, month, day⟩
  else return .time (← timeOfDay? ⟨year, month, day⟩ r)

/-- Whether a text has the form of a timestamp; a date alone needs two digits for the month and for
the day. -/
def isTimestamp (s : List Char) : Bool :=
  match stamp? s with
  | some (.date _) => s.length = 10
  | some (.time _) => true
  | none => false

/-! ### The tag of a scalar -/

/-- **The tag of a plain scalar.** -/
def Tag.ofPlain (text : String) : Tag :=
  let s := text.toList
  if isBoolWord text then .bool
  else if isReal s then .float
  else if isWhole s then .int
  else if text == "<<" then .merge
  else if ["", "~", "null", "Null", "NULL"].contains text then .null
  else if isTimestamp s then .timestamp
  else if text == "=" then .defaultValue
  else .text

end EntityStore.Yaml
