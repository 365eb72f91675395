import EntityStore.Value.Shown

/-!
# Writing JSON

A value is written as JSON in ASCII, either on one line with a space after each comma and colon,
or over several lines with two spaces per level.  Empty lists and objects stay `[]` and `{}`.  A
tuple is written as a list, a number that is not finite by name, and every value that JSON has no
form for as a string that holds its text.

All of this is for values that can be written (`Value.isWritable`).  Of any other there is no JSON.
-/

namespace EntityStore.Json

/-- A binary64 number as JSON. -/
def doubleText : Double → String
  | .nan => "NaN"
  | .infinite negative => if negative then "-Infinity" else "Infinity"
  | x => x.text

/-- A scalar as JSON, if it can be written. -/
def scalarText : Scalar → String
  | .null => "null"
  | .bool b => if b then "true" else "false"
  | .int n => toString n
  | .float x => doubleText x
  | .str s => Text.quote s
  | s => Text.quote s.text

/-! ### On one line -/

mutual

/-- **A value as JSON on one line.** -/
def compact : Value → String
  | .scalar s => scalarText s
  | .list items | .tuple items => "[" ++ commaSeparated (compactItems items) ++ "]"
  | .object fields => "\x7b" ++ commaSeparated (compactFields fields) ++ "\x7d"
  | .filter f => Text.quote f.shown

/-- The items of a list, each on one line. -/
def compactItems : List Value → List String
  | [] => []
  | v :: r => compact v :: compactItems r

/-- The fields of an object, each on one line. -/
def compactFields : List (String × Value) → List String
  | [] => []
  | (k, v) :: r => (Text.quote k ++ ": " ++ compact v) :: compactFields r

end

/-! ### Over several lines -/

/-- The start of a line at a level. -/
def lineStart (level : Nat) : String :=
  String.ofList ('\n' :: List.replicate (2 * level) ' ')

/-- Brackets around parts, each on a line of its own one level further in. -/
def enclose (open_ close : String) (level : Nat) (parts : List String) : String :=
  if parts.isEmpty then open_ ++ close
  else
    open_ ++ lineStart (level + 1) ++ ("," ++ lineStart (level + 1)).intercalate parts
      ++ lineStart level ++ close

mutual

/-- A value as JSON over several lines, the first of which is already at `level`. -/
def indentedAt (level : Nat) : Value → String
  | .scalar s => scalarText s
  | .list items | .tuple items => enclose "[" "]" level (indentedItems (level + 1) items)
  | .object fields => enclose "\x7b" "\x7d" level (indentedFields (level + 1) fields)
  | .filter f => Text.quote f.shown

/-- The items of a list at `level`. -/
def indentedItems (level : Nat) : List Value → List String
  | [] => []
  | v :: r => indentedAt level v :: indentedItems level r

/-- The fields of an object at `level`. -/
def indentedFields (level : Nat) : List (String × Value) → List String
  | [] => []
  | (k, v) :: r => (Text.quote k ++ ": " ++ indentedAt level v) :: indentedFields level r

end

/-- **A value as JSON over several lines.** -/
def indented (v : Value) : String := indentedAt 0 v

end EntityStore.Json
