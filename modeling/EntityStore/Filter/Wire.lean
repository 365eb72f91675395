import EntityStore.Value.Basic

/-!
# Filters in wire form

In wire form a filter is an object or a list.  An object is the conjunction of its fields: under
`$and` and `$or` stands a list of filters, under `$not` one filter, and under any other name that
does not begin with `$` a value to compare the field of that name with, or an object of operators
and their operands.  A list is the conjunction of the objects in it.

`Filter.ofWire` drops what does not fit, an unknown operator name at the top, a logical operator
with the wrong kind of operand, an absent value, and never rejects an object or a list.
`Filter.toWire?` writes a filter in wire form.
-/

namespace EntityStore

/-- Why a filter or a query is not accepted. -/
inductive FilterError where
  | queryRequired
  | filterRequired
  | notFilter (kind : String)
deriving DecidableEq, Repr

/-- The wording of a refused filter or query. -/
def FilterError.message : FilterError → String
  | .queryRequired => "query is required"
  | .filterRequired => "filter is required"
  | .notFilter kind => "filter must be an object or an array, got " ++ kind

namespace Filter

/-! ### Logical operators -/

/-- The name of a conjunction. -/
def andOp : String := "AND"

/-- The name of a disjunction. -/
def orOp : String := "OR"

/-- The name of a negation. -/
def notOp : String := "NOT"

/-- The conjunction of two filters. -/
def and (a b : Filter) : Filter := .combine andOp [a, b]

/-- The disjunction of two filters. -/
def or (a b : Filter) : Filter := .combine orOp [a, b]

/-- The negation of a filter. -/
def not (a : Filter) : Filter := .combine notOp [a]

/-- The conjunction of a list of filters; a single filter stands for itself. -/
def conjunction : List Filter → Filter
  | [f] => f
  | fs => .combine andOp fs

/-! ### From wire form -/

/-- Whether a name is that of an operator and not of a field. -/
def isOperatorName (name : String) : Bool :=
  name.toList.head? == some '$'

/-- The comparisons of the field at a path with a value in wire form. -/
def comparisons (path : String) : Value → List Filter
  | .null => []
  | .scalar (.bytes _) => []
  | .filter _ => []
  | .object operators => operators.map fun (operator, operand) => .compare path operator operand
  | v => [.compare path "$eq" v]

mutual

/-- What the fields of an object ask for, one after the other. -/
def ofFields : List (String × Value) → List Filter
  | [] => []
  | (name, v) :: r => ofField name v ++ ofFields r

/-- What one field of an object asks for. -/
def ofField (name : String) : Value → List Filter
  | .object fields =>
    if name = "$not" then [.combine notOp [conjunction (ofFields fields)]]
    else if isOperatorName name then []
    else comparisons name (.object fields)
  | .list items => ofSequence name (ofItems items) (.list items)
  | .tuple items => ofSequence name (ofItems items) (.tuple items)
  | v => if isOperatorName name then [] else comparisons name v
where
  /-- What a field that holds a list asks for, given the filters in the list. -/
  ofSequence (name : String) (filters : List Filter) (v : Value) : List Filter :=
    if name = "$and" then [.combine andOp filters]
    else if name = "$or" then [.combine orOp filters]
    else if isOperatorName name then []
    else comparisons name v

/-- The filters in a list: its objects, each the conjunction of its fields. -/
def ofItems : List Value → List Filter
  | [] => []
  | .object fields :: r => conjunction (ofFields fields) :: ofItems r
  | _ :: r => ofItems r

end

/-- **The filter that a value in wire form stands for.**  A filter stands for itself. -/
def ofWire : Value → Except FilterError Filter
  | .null => .error .filterRequired
  | .filter f => .ok f
  | .object fields => .ok (conjunction (ofFields fields))
  | .list items | .tuple items => .ok (conjunction (ofItems items))
  | .scalar s => .error (.notFilter s.kindName)

/-! ### To wire form -/

mutual

/-- **A filter in wire form.**  A bare filter has none, nor has a combination under an unknown
operator, a negation of other than one filter, or a comparison at a path that reads as the name of
an operator. -/
def toWire? : Filter → Option Value
  | .compare path operator operand =>
    if isOperatorName path then none
    else some (.object [(path, .object [(operator, operand)])])
  | .combine operator children =>
    match toWireList? children with
    | none => none
    | some ws =>
      if operator = andOp then some (.object [("$and", .list ws)])
      else if operator = orOp then some (.object [("$or", .list ws)])
      else if operator = notOp then
        match ws with
        | [w] => some (.object [("$not", w)])
        | _ => none
      else none
  | .bare => none

/-- The wire forms of a list of filters, if each has one. -/
def toWireList? : List Filter → Option (List Value)
  | [] => some []
  | f :: r =>
    match f.toWire?, toWireList? r with
    | some w, some ws => some (w :: ws)
    | _, _ => none

end

end Filter

end EntityStore
