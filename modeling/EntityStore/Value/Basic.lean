import EntityStore.Entries
import EntityStore.Value.Scalar

/-!
# Values and filters

A `Value` is what a document, a parameter or a configuration file holds: a scalar, a list, a
tuple, an object with ordered fields, or a filter.  A `Filter` is a condition on documents: a
comparison of the field at a path with an operand, a combination of filters under a logical
operator, or a bare filter that says nothing.  Operators are kept as they were written; which of
them mean something is decided where a filter is compiled.

Values may stand inside filters and filters inside values, so the two types are defined together.
A list and a tuple are different values even when they hold the same items.
-/

namespace EntityStore

mutual

/-- What a document, a parameter or a configuration file holds. -/
inductive Value where
  | scalar (s : Scalar)
  | list (items : List Value)
  | tuple (items : List Value)
  | object (fields : List (String × Value))
  | filter (f : Filter)

/-- A condition on documents. -/
inductive Filter where
  | compare (path operator : String) (operand : Value)
  | combine (operator : String) (children : List Filter)
  | bare

end

instance : Inhabited Filter := ⟨.bare⟩

/-- The fields of an object, in order. -/
abbrev Fields := Entries String Value

namespace Value

/-! ### Scalars as values -/

/-- The absent value. -/
@[match_pattern] abbrev null : Value := .scalar .null

/-- A truth value. -/
@[match_pattern] abbrev bool (b : Bool) : Value := .scalar (.bool b)

/-- A whole number. -/
@[match_pattern] abbrev int (n : Int) : Value := .scalar (.int n)

/-- A binary64 number. -/
@[match_pattern] abbrev float (x : Double) : Value := .scalar (.float x)

/-- A text. -/
@[match_pattern] abbrev str (s : String) : Value := .scalar (.str s)

instance : Inhabited Value := ⟨null⟩

/-- The text or nothing. -/
def ofText? (s : Option String) : Value :=
  match s with
  | some s => str s
  | none => null

/-! ### Looking inside -/

/-- Whether a value is absent. -/
def isNull : Value → Bool
  | null => true
  | _ => false

/-- The fields, when the value is an object. -/
def fields? : Value → Option Fields
  | .object fields => some fields
  | _ => none

/-- Whether a value is an object. -/
def isObject (v : Value) : Bool := v.fields?.isSome

/-- Whether a value is a list or a tuple. -/
def isSequence : Value → Bool
  | .list _ | .tuple _ => true
  | _ => false

/-- The text, when the value is one. -/
def text? : Value → Option String
  | str s => some s
  | _ => none

/-- What a value consists of when it is gone through item by item: the items of a list or a
tuple, the keys of an object, the characters of a text, the numbers of bytes. -/
def elements? : Value → Option (List Value)
  | .list items | .tuple items => some items
  | .object fields => some (fields.map fun p => str p.1)
  | str s => some (s.toList.map fun c => str (String.singleton c))
  | .scalar (.bytes b) => some (b.map fun x => int x.toNat)
  | _ => none

end Value

end EntityStore
