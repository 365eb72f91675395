import EntityStore.Text.Quoted
import EntityStore.Yaml.Cursor
import EntityStore.Yaml.Token

/-!
# YAML scalars

A scalar is written in one of five ways: plain, in single or double quotes, or as a block that
keeps its lines or folds them.  All of them may go over several lines.  Between two lines of a
plain or quoted scalar a single line feed is read as a space, and of several the first is dropped.

In a plain scalar a colon ends the text only before a gap, and inside of brackets the characters
that have a meaning there end it too.
-/

namespace EntityStore.Yaml

/-! ### Lines that are joined -/

/-- What stands between two lines that are joined: the end of the first, and the further ends of
lines behind it. -/
def joint (first : Char) (further : List Char) : List Char :=
  if first ≠ '\n' then first :: further
  else if further.isEmpty then [' ']
  else further

/-! ### Plain scalars -/

/-- The characters up to a gap, or to a character that ends a plain scalar. -/
def plainWord (inFlow : Bool) : List Char → List Char
  | [] => []
  | c :: r =>
    let next := r.headD endMark
    if isWideGap c then []
    else if c = ':' ∧ isWideGap next then []
    else if c = ':' ∧ inFlow ∧ [',', '[', ']', '\x7b', '\x7d'].contains next then []
    else if inFlow ∧ [',', '?', '[', ']', '\x7b', '\x7d'].contains c then []
    else c :: plainWord inFlow r

/-- What separates two words of a plain scalar. -/
structure PlainGap where
  /-- What is put between the words, or nothing when no word may follow. -/
  text : List Char
  /-- Whether there was an end of line. -/
  newLine : Bool
  cursor : Cursor

/-- The ends of lines from the cursor on, spaces left aside, and whether they are followed by a
separator of documents. -/
def plainBreaks : (fuel : Nat) → Cursor → List Char × Bool × Cursor
  | 0, c => ([], false, c)
  | n + 1, c =>
    let c := c.skipSpaces
    match c.lineBreak? with
    | none => ([], false, c)
    | some (b, c) =>
      if c.atSeparator then ([], true, c)
      else
        let (bs, separator, c) := plainBreaks n c
        (b :: bs, separator, c)

/-- The gap behind a word of a plain scalar. -/
def plainGap (c : Cursor) : PlainGap :=
  let (spaces, c) := c.takeWhile (· = ' ')
  match c.lineBreak? with
  | none => ⟨spaces, false, c⟩
  | some (b, c) =>
    if c.atSeparator then ⟨[], true, c⟩
    else
      let (bs, separator, c) := plainBreaks (c.rest.length + 1) c
      ⟨if separator then [] else joint b bs, true, c⟩

/-- The words of a plain scalar, with what separates them; whether it ends at the start of a line;
and the cursor behind it.  Outside of brackets the lines have to reach the column `indent`. -/
def plainWords (inFlow : Bool) (indent : Int) :
    (fuel : Nat) → (gap : List Char) → (newLine : Bool) → Cursor → List Char × Bool × Cursor
  | 0, _, newLine, c => ([], newLine, c)
  | n + 1, gap, newLine, c =>
    let word := plainWord inFlow c.rest
    if c.peek = '#' ∨ word.isEmpty then ([], newLine, c)
    else
      let next := plainGap (c.advance word.length)
      let shallow := !inFlow && (next.cursor.column : Int) < indent
      if next.text.isEmpty || next.cursor.peek = '#' || shallow then
        (gap ++ word, next.newLine, next.cursor)
      else
        let (text, newLine, c) := plainWords inFlow indent n next.text next.newLine next.cursor
        (gap ++ word ++ text, newLine, c)

/-- **A plain scalar**, whether it ends at the start of a line, and the cursor behind it. -/
def scanPlain (inFlow : Bool) (indent : Int) (c : Cursor) : String × Bool × Cursor :=
  let (text, newLine, c) := plainWords inFlow indent (c.rest.length + 1) [] false c
  (String.ofList text, newLine, c)

/-! ### Quoted scalars -/

/-- The character that an escape with one letter stands for. -/
def escapeOf? : Char → Option Char
  | '0' => some '\x00'
  | 'a' => some '\x07'
  | 'b' => some '\x08'
  | 't' => some '\t'
  | '\t' => some '\t'
  | 'n' => some '\n'
  | 'v' => some '\x0b'
  | 'f' => some '\x0c'
  | 'r' => some '\r'
  | 'e' => some '\x1b'
  | ' ' => some ' '
  | '"' => some '"'
  | '\\' => some '\\'
  | '/' => some '/'
  | 'N' => some (Char.ofNat 0x85)
  | '_' => some (Char.ofNat 0xA0)
  | 'L' => some (Char.ofNat 0x2028)
  | 'P' => some (Char.ofNat 0x2029)
  | _ => none

/-- How many hexadecimal digits follow the letter of an escape. -/
def escapeWidth? : Char → Option Nat
  | 'x' => some 2
  | 'u' => some 4
  | 'U' => some 8
  | _ => none

/-- The number of so many hexadecimal digits. -/
def hexNumber? (width : Nat) (s : List Char) : Option Nat :=
  let digits := (s.take width).filterMap Text.hexDigit?
  if digits.length = width then some (digits.foldl (fun n d => n * 16 + d) 0) else none

/-- The ends of lines from the cursor on, blanks left aside. -/
def quotedBreaks : (fuel : Nat) → Cursor → Except Fault (List Char × Cursor)
  | 0, c => .ok ([], c)
  | n + 1, c =>
    if c.atSeparator then .error .malformed
    else
      let c := c.skipWhile fun x => x = ' ' || x = '\t'
      match c.lineBreak? with
      | none => .ok ([], c)
      | some (b, c) => (quotedBreaks n c).map fun (bs, c) => (b :: bs, c)

/-- What an escape stands for, the cursor being behind its backslash. -/
def scanEscape (c : Cursor) : Except Fault (List Char × Cursor) :=
  match escapeOf? c.peek, escapeWidth? c.peek with
  | some x, _ => .ok ([x], c.advance 1)
  | none, some width =>
    match hexNumber? width (c.rest.drop 1) with
    | none => .error .malformed
    | some n =>
      if 0x110000 ≤ n then .error .noCharacter
      else .ok ([Char.ofNat n], c.advance (width + 1))
  | none, none =>
    match c.lineBreak? with
    | some (_, c) => quotedBreaks (c.rest.length + 1) c
    | none => .error .malformed

/-- What the blanks at the cursor stand for. -/
def quotedGap (c : Cursor) : Except Fault (List Char × Cursor) :=
  let (blanks, c) := c.takeWhile fun x => x = ' ' || x = '\t'
  match c.lineBreak? with
  | some (b, c) => (quotedBreaks (c.rest.length + 1) c).map fun (bs, c) => (joint b bs, c)
  | none => if c.peek = endMark then .error .malformed else .ok (blanks, c)

/-- The text up to the closing quote, and the cursor behind that. -/
def quotedText (double : Bool) : (fuel : Nat) → Cursor → Except Fault (List Char × Cursor)
  | 0, _ => .error .malformed
  | n + 1, c =>
    let go (part : List Char × Cursor) : Except Fault (List Char × Cursor) :=
      (quotedText double n part.2).map fun (text, c) => (part.1 ++ text, c)
    match c.peek with
    | '\'' =>
      if double then go (['\''], c.advance 1)
      else if c.peekAt 1 = '\'' then go (['\''], c.advance 2)
      else .ok ([], c.advance 1)
    | '"' => if double then .ok ([], c.advance 1) else go (['"'], c.advance 1)
    | '\\' => if double then (scanEscape (c.advance 1)).bind go else go (['\\'], c.advance 1)
    | x => if isWideGap x then (quotedGap c).bind go else go ([x], c.advance 1)

/-- **A quoted scalar**, the cursor being at its opening quote. -/
def scanQuoted (double : Bool) (c : Cursor) : Except Fault (String × Cursor) :=
  (quotedText double (c.rest.length + 1) (c.advance 1)).map fun (text, c) => (String.ofList text, c)

/-! ### Block scalars -/

/-- What becomes of the ends of lines at the end of a block. -/
inductive Chomping where
  | strip
  | clip
  | keep
deriving DecidableEq, Repr

/-- The chomping that a character asks for. -/
def chompingOf? : Char → Option Chomping
  | '+' => some .keep
  | '-' => some .strip
  | _ => none

/-- The additional indentation that a character asks for; it has to be at least one. -/
def incrementOf? (c : Char) : Option Nat := Text.asciiDigit? c

/-- What follows the mark of a block scalar: a chomping and an increment in either order. -/
def blockHeader (c : Cursor) : Except Fault (Chomping × Option Nat × Cursor) := do
  let (chomping, increment, c) := match chompingOf? c.peek, incrementOf? c.peek with
    | some chomping, _ =>
      match incrementOf? (c.peekAt 1) with
      | some n => (chomping, some n, c.advance 2)
      | none => (chomping, none, c.advance 1)
    | none, some n =>
      match chompingOf? (c.peekAt 1) with
      | some chomping => (chomping, some n, c.advance 2)
      | none => (.clip, some n, c.advance 1)
    | none, none => (.clip, none, c)
  if increment = some 0 ∨ !isGap c.peek then throw .malformed
  return (chomping, increment, c)

/-- The rest of a line, which may hold nothing but a comment. -/
def emptyLine (c : Cursor) : Except Fault Cursor :=
  let c := c.skipSpaces.skipComment
  if isLineEnd c.peek then
    .ok (match c.lineBreak? with
      | some (_, c) => c
      | none => c)
  else .error .malformed

/-- The ends of lines in front of a block, and the column of the furthest space among them. -/
def blockStart : (fuel : Nat) → (furthest : Nat) → Cursor → List Char × Nat × Cursor
  | 0, furthest, c => ([], furthest, c)
  | n + 1, furthest, c =>
    let c := c.skipSpaces
    let furthest := max furthest c.column
    match c.lineBreak? with
    | none => ([], furthest, c)
    | some (b, c) =>
      let (bs, furthest, c) := blockStart n furthest c
      (b :: bs, furthest, c)

/-- Moves on over spaces, but no further than to a column. -/
def skipIndent (indent : Nat) (c : Cursor) : Cursor :=
  let spaces := (c.rest.takeWhile (· = ' ')).length
  c.advance (min spaces (indent - c.column))

/-- The ends of lines between two lines of a block. -/
def blockBreaks (indent : Nat) : (fuel : Nat) → Cursor → List Char × Cursor
  | 0, c => ([], c)
  | n + 1, c =>
    let c := skipIndent indent c
    match c.lineBreak? with
    | none => ([], c)
    | some (b, c) =>
      let (bs, c) := blockBreaks indent n c
      (b :: bs, c)

/-- The lines of a block from the cursor on, behind these ends of lines; and the ends of lines at
its end, of which the first ends its last line. -/
def blockLines (folded : Bool) (indent : Nat) :
    (fuel : Nat) → (breaks : List Char) → Cursor → List Char × List Char × List Char × Cursor
  | 0, breaks, c => ([], [], breaks, c)
  | n + 1, breaks, c =>
    let indented := c.peek = ' ' || c.peek = '\t'
    let (line, c) := c.takeWhile (!isLineEnd ·)
    let (lineEnd, c) : List Char × Cursor := match c.lineBreak? with
      | some (b, c) => ([b], c)
      | none => ([], c)
    let (further, c) := blockBreaks indent (c.rest.length + 1) c
    if c.column = indent ∧ c.peek ≠ endMark then
      let next := c.peek = ' ' || c.peek = '\t'
      let between :=
        if folded && lineEnd == ['\n'] && !indented && !next then
          if further.isEmpty then [' '] else []
        else lineEnd
      let (text, lineEnd, trailing, c) := blockLines folded indent n further c
      (breaks ++ line ++ between ++ text, lineEnd, trailing, c)
    else (breaks ++ line, lineEnd, further, c)

/-- **A block scalar** in a block of this indentation, the cursor being at its mark. -/
def scanBlock (folded : Bool) (indent : Int) (c : Cursor) : Except Fault (String × Cursor) := do
  let (chomping, increment, c) ← blockHeader (c.advance 1)
  let c ← emptyLine c
  let least := (max (indent + 1) 1).toNat
  let fuel := c.rest.length + 1
  let (indent, breaks, c) := match increment with
    | some n =>
      let indent := least + n - 1
      let (breaks, c) := blockBreaks indent fuel c
      (indent, breaks, c)
    | none =>
      let (breaks, furthest, c) := blockStart fuel 0 c
      (max least furthest, breaks, c)
  let (text, lineEnd, trailing, c) :=
    if c.column = indent ∧ c.peek ≠ endMark then blockLines folded indent fuel breaks c
    else ([], [], breaks, c)
  let tail := match chomping with
    | .strip => []
    | .clip => lineEnd
    | .keep => lineEnd ++ trailing
  return (String.ofList (text ++ tail), c)

end EntityStore.Yaml
