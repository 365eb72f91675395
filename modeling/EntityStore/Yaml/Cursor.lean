/-!
# Cursors

A cursor stands at a character of a YAML text and knows the line and the column of it.  Behind the
last character stands the end mark, a character that no text contains.

Five characters end a line; only the line separator and the paragraph separator keep their
identity, and the others are read as a line feed.  A byte order mark takes up no column.
-/

namespace EntityStore.Yaml

/-! ### Classes of characters -/

/-- The character behind the last one. -/
def endMark : Char := '\x00'

/-- Whether a character ends a line. -/
def isBreak (c : Char) : Bool :=
  c = '\n' || c = '\r' || c.toNat = 0x85 || c.toNat = 0x2028 || c.toNat = 0x2029

/-- Whether a character is the end mark or ends a line. -/
def isLineEnd (c : Char) : Bool := c = endMark || isBreak c

/-- Whether a character is the end mark, ends a line or is a space. -/
def isGap (c : Char) : Bool := isLineEnd c || c = ' '

/-- Whether a character is the end mark, ends a line, or is a space or a tab. -/
def isWideGap (c : Char) : Bool := isGap c || c = '\t'

/-- Whether a character may stand in the name of an anchor, a directive or a tag handle. -/
def isNameChar (c : Char) : Bool := c.isAlphanum || c = '-' || c = '_'

/-- The byte order mark. -/
def byteOrderMark : Char := Char.ofNat 0xFEFF

/-- Whether a text may contain a character at all. -/
def isAllowed (c : Char) : Bool :=
  let n := c.toNat
  n = 9 || n = 10 || n = 13 || (0x20 ≤ n && n ≤ 0x7E) || n = 0x85 || (0xA0 ≤ n && n ≤ 0xD7FF)
    || (0xE000 ≤ n && n ≤ 0xFFFD) || 0x10000 ≤ n

/-! ### Cursors -/

/-- What is left of a text, the place in it and the number of characters before it. -/
structure Cursor where
  rest : List Char
  line : Nat := 0
  column : Nat := 0
  index : Nat := 0

namespace Cursor

/-- The character `i` places further on. -/
def peekAt (c : Cursor) (i : Nat) : Char := c.rest.getD i endMark

/-- The character at the cursor. -/
def peek (c : Cursor) : Char := c.peekAt 0

/-- Moves on by `n` characters of the same line. -/
def advance (c : Cursor) (n : Nat) : Cursor :=
  { c with
    rest := c.rest.drop n
    column := c.column + (c.rest.take n).countP (· ≠ byteOrderMark)
    index := c.index + n }

/-- The characters from the cursor on that satisfy `p`, and the cursor behind them. -/
def takeWhile (c : Cursor) (p : Char → Bool) : List Char × Cursor :=
  let cs := c.rest.takeWhile p
  (cs, c.advance cs.length)

/-- Moves on over the characters that satisfy `p`. -/
def skipWhile (c : Cursor) (p : Char → Bool) : Cursor := (c.takeWhile p).2

/-- Moves on over spaces. -/
def skipSpaces (c : Cursor) : Cursor := c.skipWhile (· = ' ')

/-- Moves on to the end of the line. -/
def skipLine (c : Cursor) : Cursor := c.skipWhile (!isLineEnd ·)

/-- Moves on over a comment. -/
def skipComment (c : Cursor) : Cursor := if c.peek = '#' then c.skipLine else c

/-- The start of the next line. -/
def nextLine (c : Cursor) (n : Nat) : Cursor :=
  { rest := c.rest.drop n, line := c.line + 1, column := 0, index := c.index + n }

/-- The end of the line at the cursor, if there is one, and the start of the next line. -/
def lineBreak? (c : Cursor) : Option (Char × Cursor) :=
  match c.rest with
  | '\r' :: '\n' :: _ => some ('\n', c.nextLine 2)
  | x :: _ =>
    if isBreak x then
      some (if x.toNat = 0x2028 ∨ x.toNat = 0x2029 then x else '\n', c.nextLine 1)
    else none
  | [] => none

/-- Whether three hyphens or three points and a gap stand at the cursor. -/
def atSeparator (c : Cursor) : Bool :=
  (c.rest.take 3 == ['-', '-', '-'] || c.rest.take 3 == ['.', '.', '.']) && isWideGap (c.peekAt 3)

end Cursor

end EntityStore.Yaml
