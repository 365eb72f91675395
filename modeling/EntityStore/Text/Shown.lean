import EntityStore.Text.Printable
import EntityStore.Text.Quoted

/-!
# Shown text

`shown` is the form in which a text appears inside a message or beside other values: between
single quotes, or between double quotes when the text holds a single quote and no double one.
The quote in use and the backslash are preceded by a backslash, the three common controls have a
letter, and every other unprintable character is written by its code point.
-/

namespace EntityStore.Text

/-- The quotation mark around a shown text. -/
def shownMark (s : List Char) : Char :=
  if s.contains '\'' && !s.contains '"' then '"' else '\''

/-- A code point in hexadecimal, with as few digits as its size allows: two, four or eight. -/
def codePointEscape (n : Nat) : List Char :=
  if n < 0x100 then '\\' :: 'x' :: hexDigits 2 n
  else if n < 0x10000 then '\\' :: 'u' :: hexDigits 4 n
  else '\\' :: 'U' :: hexDigits 8 n

/-- A character as it stands between two marks. -/
def shownChar (mark c : Char) : List Char :=
  if c = mark ∨ c = '\\' then ['\\', c]
  else if c = '\n' then ['\\', 'n']
  else if c = '\r' then ['\\', 'r']
  else if c = '\t' then ['\\', 't']
  else if isPrintable c then [c]
  else codePointEscape c.toNat

/-- **The shown form of a text.** -/
def shown (s : String) : String :=
  let cs := s.toList
  let mark := shownMark cs
  String.ofList (mark :: cs.flatMap (shownChar mark) ++ [mark])

/-- A byte as it stands between two marks: only the printable ASCII characters stand for
themselves. -/
def shownByte (mark : Char) (b : UInt8) : List Char :=
  let c := Char.ofNat b.toNat
  if b.toNat < 0x7F then
    if c = mark ∨ c = '\\' then ['\\', c]
    else if c = '\n' then ['\\', 'n']
    else if c = '\r' then ['\\', 'r']
    else if c = '\t' then ['\\', 't']
    else if ' ' ≤ c then [c]
    else codePointEscape b.toNat
  else codePointEscape b.toNat

/-- The shown form of a sequence of bytes. -/
def shownBytes (bs : List UInt8) : String :=
  let mark := shownMark (bs.map fun b => Char.ofNat b.toNat)
  String.ofList ('b' :: mark :: bs.flatMap (shownByte mark) ++ [mark])

end EntityStore.Text
