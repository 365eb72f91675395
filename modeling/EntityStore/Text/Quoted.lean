import EntityStore.Text.Digits

/-!
# Quoted text

A quoted text is what stands between the double quotes of a JSON string.  `escape` writes one: a
quote and a backslash are preceded by a backslash, five control characters have a letter of
their own, and every other character outside the range from space to tilde is written as one or
two UTF-16 units in four lower-case hexadecimal digits.  So a written text is ASCII, and holds
no quote and no line break that is not part of an escape.

`scan` reads one back, up to and including the closing quote.  It accepts every escape of JSON
and every raw character but the controls below U+0020.

A text is a list of characters, and half of a surrogate pair is none.  So a text in which such a
half is escaped without its other half is not read exactly: U+FFFD is put in its place.  `isPaired`
tells whether that happens nowhere in a text.
-/

namespace EntityStore.Text

/-! ### Writing -/

/-- The digit of value `n < 16` in lower case. -/
def hexDigit (n : Nat) : Char :=
  if n < 10 then Char.ofNat ('0'.toNat + n) else Char.ofNat ('a'.toNat + (n - 10))

/-- The lowest `width` hexadecimal digits of a number, in lower case. -/
def hexDigits : (width : Nat) → Nat → List Char
  | 0, _ => []
  | w + 1, n => hexDigits w (n / 16) ++ [hexDigit (n % 16)]

theorem length_hexDigits (w n : Nat) : (hexDigits w n).length = w := by
  induction w generalizing n with
  | zero => rfl
  | succ w ih => simp [hexDigits, ih]

/-- A UTF-16 unit as an escape. -/
def escapeUnit (n : Nat) : List Char :=
  '\\' :: 'u' :: hexDigits 4 n

/-- A character as it stands inside a quoted text. -/
def escapeChar (c : Char) : List Char :=
  if c = '"' then ['\\', '"']
  else if c = '\\' then ['\\', '\\']
  else if c = '\n' then ['\\', 'n']
  else if c = '\r' then ['\\', 'r']
  else if c = '\t' then ['\\', 't']
  else if c = '\x08' then ['\\', 'b']
  else if c = '\x0c' then ['\\', 'f']
  else if ' ' ≤ c ∧ c ≤ '~' then [c]
  else if c.toNat < 0x10000 then escapeUnit c.toNat
  else
    let n := c.toNat - 0x10000
    escapeUnit (0xD800 + n / 0x400) ++ escapeUnit (0xDC00 + n % 0x400)

/-- The inside of the quoted form of a text. -/
def escape (s : List Char) : List Char :=
  s.flatMap escapeChar

/-- **The quoted form of a text.** -/
def quote (s : String) : String :=
  String.ofList ('"' :: escape s.toList ++ ['"'])

/-! ### Reading -/

/-- The value of a hexadecimal digit of either case. -/
def hexDigit? (c : Char) : Option Nat :=
  if c.isDigit then some (c.toNat - '0'.toNat)
  else if 'a' ≤ c ∧ c ≤ 'f' then some (c.toNat - 'a'.toNat + 10)
  else if 'A' ≤ c ∧ c ≤ 'F' then some (c.toNat - 'A'.toNat + 10)
  else none

/-- The unit that four hexadecimal digits spell. -/
def unit? (a b c d : Char) : Option Nat := do
  return ofHex [← hexDigit? a, ← hexDigit? b, ← hexDigit? c, ← hexDigit? d]
where
  /-- The number with these hexadecimal digits. -/
  ofHex (ds : List Nat) : Nat := ds.foldl (fun n d => 16 * n + d) 0

/-- What a backslash and this letter stand for. -/
def letterEscape? : Char → Option Char
  | '"' => some '"'
  | '\\' => some '\\'
  | '/' => some '/'
  | 'n' => some '\n'
  | 'r' => some '\r'
  | 't' => some '\t'
  | 'b' => some '\x08'
  | 'f' => some '\x0c'
  | _ => none

/-- Whether a unit is the first half of a pair. -/
def isHighUnit (n : Nat) : Bool := 0xD800 ≤ n && n < 0xDC00

/-- Whether a unit is the second half of a pair. -/
def isLowUnit (n : Nat) : Bool := 0xDC00 ≤ n && n < 0xE000

/-- The character of a unit that is not part of a pair: U+FFFD for half of one, which is no
character. -/
def unitChar (n : Nat) : Char :=
  if isHighUnit n || isLowUnit n then '\uFFFD' else Char.ofNat n

/-- The characters of a list of units and code points, the two halves of a pair joined. -/
def joinUnits : List Nat → List Char
  | [] => []
  | [n] => [unitChar n]
  | n :: m :: r =>
    if isHighUnit n && isLowUnit m then
      Char.ofNat (0x10000 + (n - 0xD800) * 0x400 + (m - 0xDC00)) :: joinUnits r
    else unitChar n :: joinUnits (m :: r)

/-- The units and code points inside a quoted text, and what follows the closing quote. -/
def scanUnits : List Char → Option (List Nat × List Char)
  | [] => none
  | '"' :: r => some ([], r)
  | '\\' :: 'u' :: a :: b :: c :: d :: r => do
    let n ← unit? a b c d
    let (ns, rest) ← scanUnits r
    return (n :: ns, rest)
  | '\\' :: c :: r => do
    let c ← letterEscape? c
    let (ns, rest) ← scanUnits r
    return (c.toNat :: ns, rest)
  | c :: r => do
    guard (c ≠ '\\' ∧ ' ' ≤ c)
    let (ns, rest) ← scanUnits r
    return (c.toNat :: ns, rest)

/-- **The inside of a quoted text, and what follows the closing quote**; `none` when the text is
not closed, holds a control character, or holds a backslash that starts no escape. -/
def scan (s : List Char) : Option (List Char × List Char) :=
  (scanUnits s).map fun (ns, rest) => (joinUnits ns, rest)

/-! ### Pairs -/

/-- Whether no unit of a list is half of a pair without the other half next to it. -/
def arePaired : List Nat → Bool
  | [] => true
  | [n] => !(isHighUnit n || isLowUnit n)
  | n :: m :: r =>
    if isHighUnit n && isLowUnit m then arePaired r
    else !(isHighUnit n || isLowUnit n) && arePaired (m :: r)

/-- The units and code points of a text with escapes, its quotes included. -/
def escapedUnits : List Char → List Nat
  | [] => []
  | '\\' :: 'u' :: a :: b :: c :: d :: r => (unit? a b c d).toList ++ escapedUnits r
  | '\\' :: c :: r => c.toNat :: escapedUnits r
  | c :: r => c.toNat :: escapedUnits r

/-- **Whether a text escapes no half of a pair without the other half**, so that all of its quoted
parts are read exactly. -/
def isPaired (s : String) : Bool := arePaired (escapedUnits s.toList)

end EntityStore.Text
