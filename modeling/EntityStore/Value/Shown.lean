import EntityStore.Number.Numeral
import EntityStore.Value.Basic

/-!
# Values as text

A value has two texts.  `Value.shown` is the form in which a value stands inside another one or in
a message: texts are between quotes and everything else says what it is.  `Value.text` is the
form in which a value stands alone, and differs from the first for texts, decimal numbers, days
and points in time, which then appear without any frame.

A value that holds a whole number of too many digits is not written at all, in neither form and
not as JSON either (`Value.isWritable`).  Whoever writes a value looks at that first.
-/

namespace EntityStore

/-- Texts with a comma and a space between them. -/
def commaSeparated (parts : List String) : String := ", ".intercalate parts

/-- A truth value as text. -/
def boolText (b : Bool) : String := if b then "True" else "False"

/-! ### What can be written -/

/-- Whether a scalar can be written: every one but a whole number of too many digits. -/
def Scalar.isWritable : Scalar → Bool
  | .int n => Numeral.isWritable n
  | _ => true

mutual

/-- **Whether a value can be written**: no whole number in it has too many digits. -/
def Value.isWritable : Value → Bool
  | .scalar s => s.isWritable
  | .list items | .tuple items => Value.areWritable items
  | .object fields => Value.areWritableFields fields
  | .filter f => f.isWritable

/-- Whether all items of a sequence can be written. -/
def Value.areWritable : List Value → Bool
  | [] => true
  | v :: r => v.isWritable && Value.areWritable r

/-- Whether all fields of an object can be written. -/
def Value.areWritableFields : List (String × Value) → Bool
  | [] => true
  | (_, v) :: r => v.isWritable && Value.areWritableFields r

/-- Whether a filter can be written. -/
def Filter.isWritable : Filter → Bool
  | .compare _ _ operand => operand.isWritable
  | .combine _ children => Filter.areWritable children
  | .bare => true

/-- Whether all filters of a list can be written. -/
def Filter.areWritable : List Filter → Bool
  | [] => true
  | f :: r => f.isWritable && Filter.areWritable r

end

/-! ### Scalars -/

/-- The shown form of an offset from UTC. -/
def shownOffset (o : Offset) : String :=
  if o = 0 then "datetime.timezone.utc"
  else "datetime.timezone(" ++ CalendarFault.shownDuration o.microseconds ++ ")"

/-- The shown form of a point in time: the seconds and the microseconds are left out where they
and all that follows are zero. -/
def shownDateTime (t : DateTime) : String :=
  let fields := [t.date.year, t.date.month, t.date.day, t.hour, t.minute]
    ++ (if t.second = 0 ∧ t.microsecond = 0 then [] else [t.second])
    ++ (if t.microsecond = 0 then [] else [t.microsecond])
  let offset := t.offset.toList.map fun o => "tzinfo=" ++ shownOffset o
  "datetime.datetime(" ++ commaSeparated (fields.map toString ++ offset) ++ ")"

/-- The shown form of a scalar. -/
def Scalar.shown : Scalar → String
  | .null => "None"
  | .bool b => boolText b
  | .int n => toString n
  | .float x => x.text
  | .decimal d => "Decimal('" ++ d.text ++ "')"
  | .datetime t => shownDateTime t
  | .date d =>
    "datetime.date(" ++ commaSeparated ([d.year, d.month, d.day].map toString) ++ ")"
  | .str s => Text.shown s
  | .bytes b => Text.shownBytes b

/-- The text of a scalar that stands alone, which is one that can be written. -/
def Scalar.text : Scalar → String
  | .str s => s
  | .decimal d => d.text
  | .datetime t => t.text
  | .date d => d.text
  | s => s.shown

/-! ### Values -/

/-- The shown form of a tuple; one with a single item ends in a comma. -/
def shownTuple : List String → String
  | [item] => "(" ++ item ++ ",)"
  | items => "(" ++ commaSeparated items ++ ")"

mutual

/-- **The shown form of a value.** -/
def Value.shown : Value → String
  | .scalar s => s.shown
  | .list items => "[" ++ commaSeparated (Value.shownItems items) ++ "]"
  | .tuple items => shownTuple (Value.shownItems items)
  | .object fields => "\x7b" ++ commaSeparated (Value.shownFields fields) ++ "\x7d"
  | .filter f => f.shown

/-- The shown forms of the items of a sequence. -/
def Value.shownItems : List Value → List String
  | [] => []
  | v :: r => v.shown :: Value.shownItems r

/-- The shown forms of the fields of an object. -/
def Value.shownFields : List (String × Value) → List String
  | [] => []
  | (k, v) :: r => (Text.shown k ++ ": " ++ v.shown) :: Value.shownFields r

/-- **The shown form of a filter.** -/
def Filter.shown : Filter → String
  | .compare path operator operand =>
    "ComparisonExpression(field_path=" ++ Text.shown path ++ ", op=" ++ Text.shown operator
      ++ ", value=" ++ operand.shown ++ ")"
  | .combine operator children =>
    "LogicalExpression(op=" ++ Text.shown operator ++ ", children=["
      ++ commaSeparated (Filter.shownList children) ++ "])"
  | .bare => "<FilterExpression>"

/-- The shown forms of a list of filters. -/
def Filter.shownList : List Filter → List String
  | [] => []
  | f :: r => f.shown :: Filter.shownList r

end

/-- **The text of a value that stands alone**, which is one that can be written. -/
def Value.text : Value → String
  | .scalar s => s.text
  | v => v.shown

end EntityStore
