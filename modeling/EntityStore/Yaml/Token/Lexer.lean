import EntityStore.Entries
import EntityStore.Yaml.Token.Scalar

/-!
# Reading YAML tokens

`Token.scan` reads a text as tokens.  The reader keeps the columns of the block collections that
are open and the number of the open brackets.

A key needs no mark in front of it.  So wherever one may begin, the reader remembers the place as
that of a possible key, one for each level of brackets; when a colon follows on the same line and
within 1024 characters, the marks for the key, and for the mapping that it may open, are put in at
that place.  A key that is the only thing that may stand there has to turn out to be one.
-/

namespace EntityStore.Yaml

/-- A place where a key may have begun. -/
structure PossibleKey where
  /-- The number of tokens in front of it. -/
  place : Nat
  /-- Whether nothing but a key may stand there. -/
  required : Bool
  start : Cursor

/-- The state of the reader. -/
structure Lexer where
  cursor : Cursor
  tokens : Array Token := #[]
  /-- How many brackets are open. -/
  level : Nat := 0
  /-- The column of the innermost block collection, or -1. -/
  indent : Int := -1
  /-- The columns of the block collections around it, the inner ones first. -/
  outer : List Int := []
  /-- Whether a key may begin at the cursor. -/
  mayBeKey : Bool := true
  /-- The possible keys by level. -/
  keys : Entries Nat PossibleKey := []

namespace Lexer

/-- Whether the cursor is inside of brackets. -/
def inFlow (l : Lexer) : Bool := l.level ≠ 0

/-- Adds a token. -/
def push (l : Lexer) (t : Token) : Lexer := { l with tokens := l.tokens.push t }

/-- Moves the cursor on. -/
def advance (l : Lexer) (n : Nat) : Lexer := { l with cursor := l.cursor.advance n }

/-- Puts a token in at a place. -/
def insertAt (l : Lexer) (place : Nat) (t : Token) : Lexer :=
  { l with
    tokens := (l.tokens.extract 0 place).push t ++ l.tokens.extract place l.tokens.size }

/-! ### Indentation -/

/-- Ends the block collections that begin behind a column. -/
def closeBlocks (column : Int) : (outer : List Int) → Lexer → Lexer
  | i :: r, l =>
    if column < l.indent then
      closeBlocks column r { l.push .blockEnd with indent := i, outer := r }
    else l
  | [], l => l

/-- Ends the block collections that begin behind a column, unless brackets are open. -/
def unwind (column : Int) (l : Lexer) : Lexer :=
  if l.inFlow then l else closeBlocks column l.outer l

/-- Opens a block collection at a column when it is behind that of the innermost one, its mark
being put in at a place. -/
def openBlock (l : Lexer) (column : Nat) (place : Nat) (mark : Token) : Lexer :=
  if l.indent < column then
    { l.insertAt place mark with indent := column, outer := l.indent :: l.outer }
  else l

/-! ### Possible keys -/

/-- Whether a possible key can no longer be one. -/
def isStale (l : Lexer) (k : PossibleKey) : Bool :=
  k.start.line ≠ l.cursor.line || 1024 < l.cursor.index - k.start.index

/-- Forgets the possible keys that can no longer be keys. -/
def dropStaleKeys (l : Lexer) : Except Fault Lexer :=
  if l.keys.any fun p => l.isStale p.2 && p.2.required then .error .malformed
  else .ok { l with keys := l.keys.filter fun p => !l.isStale p.2 }

/-- Forgets the possible key of the level. -/
def dropKey (l : Lexer) : Except Fault Lexer :=
  match l.keys.get? l.level with
  | some k =>
    if k.required then .error .malformed else .ok { l with keys := l.keys.erase l.level }
  | none => .ok l

/-- Remembers the cursor as the place of a possible key. -/
def saveKey (l : Lexer) : Except Fault Lexer :=
  if l.mayBeKey then
    l.dropKey.map fun l =>
      let required := !l.inFlow && l.indent == l.cursor.column
      { l with keys := l.keys.put l.level ⟨l.tokens.size, required, l.cursor⟩ }
  else .ok l

/-! ### Directives, anchors and tags -/

/-- The number of a version. -/
def versionNumber (c : Cursor) : Except Fault (Nat × Cursor) :=
  let (digits, c) := c.takeWhile Char.isDigit
  if digits.isEmpty then .error .malformed
  else .ok (Text.ofDigits (digits.filterMap Text.asciiDigit?), c)

/-- The escaped bytes at the cursor. -/
def escapedBytes : (fuel : Nat) → Cursor → Except Fault (List UInt8 × Cursor)
  | 0, c => .ok ([], c)
  | n + 1, c =>
    if c.peek = '%' then
      match hexNumber? 2 (c.rest.drop 1) with
      | none => .error .malformed
      | some b => (escapedBytes n (c.advance 3)).map fun (bs, c) => (UInt8.ofNat b :: bs, c)
    else .ok ([], c)

/-- Whether a character may stand in a tag. -/
def isTagChar (c : Char) : Bool := c.isAlphanum || "-;/?:@&=+$,_.!~*'()[]".toList.contains c

/-- The characters of a tag. -/
def tagChars : (fuel : Nat) → Cursor → Except Fault (List Char × Cursor)
  | 0, c => .ok ([], c)
  | n + 1, c =>
    if c.peek = '%' then do
      let (bytes, c) ← escapedBytes (c.rest.length + 1) c
      match String.fromUTF8? ⟨bytes.toArray⟩ with
      | none => throw .malformed
      | some s =>
        let (text, c) ← tagChars n c
        return (s.toList ++ text, c)
    else if isTagChar c.peek then
      let x := c.peek
      (tagChars n (c.advance 1)).map fun (text, c) => (x :: text, c)
    else .ok ([], c)

/-- A tag, or the rest of one; it has at least one character. -/
def tagText (c : Cursor) : Except Fault (String × Cursor) := do
  let (text, c) ← tagChars (c.rest.length + 1) c
  if text.isEmpty then throw .malformed
  return (String.ofList text, c)

/-- A tag handle: an exclamation mark, or a name between two of them. -/
def tagHandle (c : Cursor) : Except Fault (String × Cursor) :=
  if c.peek ≠ '!' then .error .malformed
  else if c.peekAt 1 = ' ' then .ok ("!", c.advance 1)
  else
    let (name, c) := (c.advance 1).takeWhile isNameChar
    if c.peek = '!' then .ok (String.ofList ('!' :: name ++ ['!']), c.advance 1)
    else .error .malformed

/-- A directive, the cursor being at its percent sign. -/
def scanDirective (c : Cursor) : Except Fault (Directive × Cursor) := do
  let (name, c) := (c.advance 1).takeWhile isNameChar
  if name.isEmpty || !isGap c.peek then throw .malformed
  if name == "YAML".toList then
    let (major, c) ← versionNumber c.skipSpaces
    if c.peek ≠ '.' then throw .malformed
    let (minor, c) ← versionNumber (c.advance 1)
    if !isGap c.peek then throw .malformed
    return (.version major minor, ← emptyLine c)
  else if name == "TAG".toList then
    let (handle, c) ← tagHandle c.skipSpaces
    if c.peek ≠ ' ' then throw .malformed
    let (start, c) ← tagText c.skipSpaces
    if !isGap c.peek then throw .malformed
    return (.tag handle start, ← emptyLine c)
  else return (.other, ← emptyLine c.skipLine)

/-- The name of an anchor, the cursor being at the mark in front of it. -/
def scanName (c : Cursor) : Except Fault (String × Cursor) :=
  let (name, c) := (c.advance 1).takeWhile isNameChar
  let ends := isWideGap c.peek || "?:,]\x7d%@`".toList.contains c.peek
  if name.isEmpty || !ends then .error .malformed else .ok (String.ofList name, c)

/-- Whether an exclamation mark follows before the next gap. -/
def hasHandle (c : Cursor) : Bool :=
  ((c.rest.drop 1).takeWhile fun x => !isGap x).contains '!'

/-- A tag, the cursor being at its exclamation mark. -/
def scanTag (c : Cursor) : Except Fault (Token × Cursor) := do
  let (tag, c) ←
    if c.peekAt 1 = '<' then do
      let (text, c) ← tagText (c.advance 2)
      if c.peek ≠ '>' then throw .malformed
      pure (Token.tag none text, c.advance 1)
    else if isWideGap (c.peekAt 1) then pure (Token.tag none "!", c.advance 1)
    else if hasHandle c then do
      let (handle, c) ← tagHandle c
      let (text, c) ← tagText c
      pure (Token.tag (some handle) text, c)
    else do
      let (text, c) ← tagText (c.advance 1)
      pure (Token.tag (some "!") text, c)
  if !isGap c.peek then throw .malformed
  return (tag, c)

/-! ### Tokens -/

/-- Moves on over spaces, ends of lines and comments. -/
def skipToToken : (fuel : Nat) → Lexer → Lexer
  | 0, l => l
  | n + 1, l =>
    let c := l.cursor.skipSpaces.skipComment
    match c.lineBreak? with
    | some (_, c) => skipToToken n { l with cursor := c, mayBeKey := l.mayBeKey || !l.inFlow }
    | none => { l with cursor := c }

/-- Moves on over a byte order mark at the start of the text. -/
def skipByteOrderMark (l : Lexer) : Lexer :=
  if l.cursor.index = 0 ∧ l.cursor.peek = byteOrderMark then l.advance 1 else l

/-- A token that ends all blocks and keys: a mark between documents or a directive. -/
def atTop (l : Lexer) : Except Fault Lexer :=
  ((l.unwind (-1)).dropKey).map fun l => { l with mayBeKey := false }

/-- An opening bracket. -/
def openFlow (l : Lexer) (t : Token) : Except Fault Lexer := do
  let l ← l.saveKey
  return { (l.advance 1).push t with level := l.level + 1, mayBeKey := true }

/-- A closing bracket. -/
def closeFlow (l : Lexer) (t : Token) : Except Fault Lexer := do
  let l ← l.dropKey
  if l.level = 0 then throw .malformed
  return { (l.advance 1).push t with level := l.level - 1, mayBeKey := false }

/-- The comma between two entries in brackets. -/
def flowEntry (l : Lexer) : Except Fault Lexer := do
  let l ← l.dropKey
  return { (l.advance 1).push .flowEntry with mayBeKey := true }

/-- The hyphen in front of an entry of a block sequence. -/
def blockEntry (l : Lexer) : Except Fault Lexer := do
  let l ← if l.inFlow then pure l
    else if l.mayBeKey then pure (l.openBlock l.cursor.column l.tokens.size .blockSequenceStart)
    else throw .malformed
  let l ← l.dropKey
  return { (l.advance 1).push .blockEntry with mayBeKey := true }

/-- The question mark in front of a key. -/
def explicitKey (l : Lexer) : Except Fault Lexer := do
  let l ← if l.inFlow then pure l
    else if l.mayBeKey then pure (l.openBlock l.cursor.column l.tokens.size .blockMappingStart)
    else throw .malformed
  let l ← l.dropKey
  return { (l.advance 1).push .key with mayBeKey := !l.inFlow }

/-- The colon in front of a value.  When there is a possible key, it is one. -/
def value (l : Lexer) : Except Fault Lexer :=
  match l.keys.get? l.level with
  | some k =>
    let l := { l with keys := l.keys.erase l.level, mayBeKey := false }.insertAt k.place .key
    let l := if l.inFlow then l else l.openBlock k.start.column k.place .blockMappingStart
    .ok ((l.advance 1).push .value)
  | none => do
    let l ← if l.inFlow then pure l
      else if l.mayBeKey then pure (l.openBlock l.cursor.column l.tokens.size .blockMappingStart)
      else throw .malformed
    let l ← { l with mayBeKey := !l.inFlow }.dropKey
    return (l.advance 1).push .value

/-- A token that may begin a key and after which none may begin. -/
def inline (l : Lexer) (scan : Cursor → Except Fault (Token × Cursor)) : Except Fault Lexer := do
  let l ← l.saveKey
  let (t, c) ← scan l.cursor
  return { l.push t with cursor := c, mayBeKey := false }

/-- A plain scalar. -/
def plain (l : Lexer) : Except Fault Lexer := do
  let l ← l.saveKey
  let (text, newLine, c) := scanPlain l.inFlow (l.indent + 1) l.cursor
  return { l.push (.scalar text true) with cursor := c, mayBeKey := newLine }

/-- A block scalar. -/
def block (l : Lexer) (folded : Bool) : Except Fault Lexer := do
  let l ← l.dropKey
  let (text, c) ← scanBlock folded l.indent l.cursor
  return { l.push (.scalar text false) with cursor := c, mayBeKey := true }

/-- A directive. -/
def directive (l : Lexer) : Except Fault Lexer := do
  let l ← l.atTop
  let (d, c) ← scanDirective l.cursor
  return { l.push (.directive d) with cursor := c }

/-- Whether a plain scalar begins at the cursor. -/
def startsPlain (l : Lexer) : Bool :=
  let x := l.cursor.peek
  let indicators := "-?:,[]\x7b\x7d#&*!|>'\"%@`".toList
  (!isWideGap x && !indicators.contains x)
    || (!isWideGap (l.cursor.peekAt 1) && (x = '-' || (!l.inFlow && (x = '?' || x = ':'))))

/-- The token at the cursor, which is not at the end of the text. -/
def token (l : Lexer) : Except Fault Lexer :=
  let c := l.cursor
  let gapNext := isWideGap (c.peekAt 1)
  let separator := c.column = 0 && c.atSeparator
  match c.peek with
  | '%' => if c.column = 0 then l.directive else .error .malformed
  | '[' => l.openFlow .flowSequenceStart
  | '\x7b' => l.openFlow .flowMappingStart
  | ']' => l.closeFlow .flowSequenceEnd
  | '\x7d' => l.closeFlow .flowMappingEnd
  | ',' => l.flowEntry
  | '*' => l.inline fun c => (scanName c).map fun (name, c) => (.alias_ name, c)
  | '&' => l.inline fun c => (scanName c).map fun (name, c) => (.anchor name, c)
  | '!' => l.inline scanTag
  | '\'' => l.inline fun c => (scanQuoted false c).map fun (s, c) => (.scalar s false, c)
  | '"' => l.inline fun c => (scanQuoted true c).map fun (s, c) => (.scalar s false, c)
  | '-' =>
    if separator then l.atTop.map fun l => (l.advance 3).push .documentStart
    else if gapNext then l.blockEntry
    else l.plain
  | '.' =>
    if separator then l.atTop.map fun l => (l.advance 3).push .documentEnd else l.plain
  | '?' => if l.inFlow || gapNext then l.explicitKey else l.plain
  | ':' => if l.inFlow || gapNext then l.value else l.plain
  | '|' => if l.inFlow then .error .malformed else l.block false
  | '>' => if l.inFlow then .error .malformed else l.block true
  | _ => if l.startsPlain then l.plain else .error .malformed

/-- The tokens up to the end of the text. -/
def run : (fuel : Nat) → Lexer → Except Fault (List Token)
  | 0, _ => .error .malformed
  | n + 1, l => do
    let l ← (skipToToken (l.cursor.rest.length + 1) l.skipByteOrderMark).dropStaleKeys
    let l := l.unwind l.cursor.column
    if l.cursor.peek = endMark then
      let l ← (l.unwind (-1)).dropKey
      return l.tokens.toList
    else run n (← l.token)

end Lexer

/-- **The tokens of a text.**  Each token behind the first takes up at least one character. -/
def Token.scan (text : String) : Except Fault (List Token) :=
  let s := text.toList
  if s.all isAllowed then Lexer.run (s.length + 1) { cursor := { rest := s } }
  else .error .malformed

end EntityStore.Yaml
