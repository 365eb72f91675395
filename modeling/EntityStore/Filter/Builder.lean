import EntityStore.Filter.Wire

/-!
# Building filters

A `Field` is the path of a field; `Field.at` goes to a field inside it, and one function per
operator compares it with an operand.
-/

namespace EntityStore

/-- A field, by its dotted path. -/
structure Field where
  path : String
deriving DecidableEq, Repr

namespace Field

/-- The field of the given name inside this one. -/
def «at» (f : Field) (name : String) : Field := ⟨f.path ++ "." ++ name⟩

/-- The field equals the operand. -/
def eq (f : Field) (operand : Value) : Filter := .compare f.path "$eq" operand

/-- The field differs from the operand. -/
def ne (f : Field) (operand : Value) : Filter := .compare f.path "$ne" operand

/-- The field is greater than the operand. -/
def gt (f : Field) (operand : Value) : Filter := .compare f.path "$gt" operand

/-- The field is at least the operand. -/
def ge (f : Field) (operand : Value) : Filter := .compare f.path "$gte" operand

/-- The field is less than the operand. -/
def lt (f : Field) (operand : Value) : Filter := .compare f.path "$lt" operand

/-- The field is at most the operand. -/
def le (f : Field) (operand : Value) : Filter := .compare f.path "$lte" operand

/-- The field is one of the elements of a value; `none` when the value has none. -/
def memberOf? (f : Field) (values : Value) : Option Filter :=
  values.elements?.map fun items => .compare f.path "$in" (.list items)

/-- The field is none of the elements of a value. -/
def notMemberOf? (f : Field) (values : Value) : Option Filter :=
  values.elements?.map fun items => .compare f.path "$nin" (.list items)

/-- The field is there, or is not, as the flag says. -/
def present (f : Field) (flag : Value := .bool true) : Filter := .compare f.path "$exists" flag

/-- The field matches a regular expression. -/
def regex (f : Field) (pattern : Value) : Filter := .compare f.path "$regex" pattern

/-- The field starts with a text. -/
def startsWith (f : Field) (text : Value) : Filter := .compare f.path "$sw" text

/-- The field does not start with a text. -/
def notStartsWith (f : Field) (text : Value) : Filter := .compare f.path "$nsw" text

end Field

end EntityStore
