import EntityStore.Text.Digits
import EntityStore.Text.Quoted

/-!
# References to fields

The field at a dotted path is referred to by an alias for the document and one accessor per
segment.  A segment that is an identifier, perhaps with bracketed indexes behind it, follows a
dot as it is, unless the identifier is a reserved word; a segment of digits only is an index in
brackets; every other segment is a quoted text in brackets.  So whatever a path holds, nothing in
it but plain identifiers and indexes stands outside of quotes.

A final line feed does not keep a segment from being an identifier or an index.
-/

namespace EntityStore.Sql

/-- The alias that statements give the document. -/
def documentAlias : String := "c"

/-- The words that cannot follow a dot. -/
def reservedWords : List String :=
  ["and", "array", "as", "asc", "between", "by", "desc", "distinct", "escape", "exists", "false",
   "from", "group", "in", "is", "join", "like", "limit", "not", "null", "offset", "or", "order",
   "select", "top", "true", "udf", "undefined", "value", "where"]

/-- Whether a word is reserved, in whatever case it is written. -/
def isReserved (word : List Char) : Bool :=
  reservedWords.contains (String.ofList (word.map Char.toLower))

/-! ### Segments -/

/-- Whether a character can begin an identifier. -/
def isIdentifierStart (c : Char) : Bool := c.isAlpha || c = '_'

/-- Whether a character can stand in an identifier. -/
def isIdentifierChar (c : Char) : Bool := c.isAlphanum || c = '_'

/-- How far a bracketed index has been read. -/
inductive IndexState where
  | between
  | opened
  | digits
deriving DecidableEq, Repr

/-- Whether a text consists of bracketed indexes, with at most a line feed behind them. -/
def areIndexes : IndexState → List Char → Bool
  | .between, [] => true
  | .between, ['\n'] => true
  | .between, '[' :: r => areIndexes .opened r
  | .opened, c :: r => Text.isDecimalDigit c && areIndexes .digits r
  | .digits, ']' :: r => areIndexes .between r
  | .digits, c :: r => Text.isDecimalDigit c && areIndexes .digits r
  | _, _ => false

/-- The identifier at the start of a segment that is an identifier with indexes. -/
def identifier? : List Char → Option (List Char)
  | [] => none
  | c :: r =>
    if isIdentifierStart c && areIndexes .between (r.dropWhile isIdentifierChar) then
      some (c :: r.takeWhile isIdentifierChar)
    else none

/-- Whether a text consists of digits, with at most a line feed behind them. -/
def isIndex (s : List Char) : Bool :=
  match s.dropWhile Text.isDecimalDigit with
  | [] | ['\n'] => (s.head?.map Text.isDecimalDigit).getD false
  | _ => false

/-- Whether a segment can follow a dot. -/
def followsDot (segment : List Char) : Bool :=
  match identifier? segment with
  | some word => !isReserved word
  | none => false

/-- The accessor of a segment. -/
def accessor (segment : List Char) : List Char :=
  if followsDot segment then '.' :: segment
  else if isIndex segment then '[' :: segment ++ [']']
  else '[' :: '"' :: Text.escape segment ++ ['"', ']']

/-- **The reference to the field at a path.** -/
def reference (alias_ path : String) : String :=
  alias_ ++ String.ofList ((path.toList.splitOn '.').flatMap accessor)

end EntityStore.Sql
