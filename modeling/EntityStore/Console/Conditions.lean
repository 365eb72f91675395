import EntityStore.Filter.Wire
import EntityStore.Json.Reader

/-!
# Conditions on the command line

A filter is put together from a JSON text and from conditions.  A condition is a path, a word for
an operator and an operand in JSON.  All conditions are given in one of two ways: with three
arguments for each, or with one argument for each in which the three parts are separated by
blanks.  `splitConditions` tells the two apart and `filterOf` makes the filter in wire form.
-/

namespace EntityStore.Console

/-- What can be wrong with a filter on the command line. -/
inductive ConditionError where
  | notThreeParts (text : String)
  | unknownOperator (word : String)
  | operandNotJson (path text : String)
  | filterNotJson
  | filterNotContainer
  | numeral (e : NumeralError)
deriving DecidableEq, Repr

/-- A condition, still in words. -/
structure Condition where
  path : String
  operator : String
  operand : String
deriving DecidableEq, Repr

/-! ### Operators -/

/-- The words for operators, in order, and what they stand for. -/
def operatorWords : List (String × String) :=
  [("eq", "$eq"), ("exists", "$exists"), ("gt", "$gt"), ("gte", "$gte"), ("in", "$in"),
   ("lt", "$lt"), ("lte", "$lte"), ("ne", "$ne"), ("nin", "$nin"), ("nsw", "$nsw"),
   ("regex", "$regex"), ("sw", "$sw")]

/-- The operator that a word stands for. -/
def operatorOf? (word : String) : Option String := operatorWords.lookup word

/-- The wording of a wrong filter. -/
def ConditionError.message : ConditionError → String
  | .notThreeParts text => "Invalid condition (expected 'PATH OP VALUE_JSON'): " ++ text
  | .unknownOperator word =>
    "Unknown filter operator '" ++ word ++ "'. Valid operators: "
      ++ ", ".intercalate (operatorWords.map Prod.fst)
  | .operandNotJson path text => "Invalid JSON value for '" ++ path ++ "': " ++ text
  | .filterNotJson => "--filter is not valid JSON:"
  | .filterNotContainer => "--filter must be a JSON object or array"
  | .numeral e => e.message

/-! ### The two ways of writing conditions -/

/-- Arguments taken three at a time. -/
def inThrees : List String → List Condition
  | a :: b :: c :: r => ⟨a, b, c⟩ :: inThrees r
  | _ => []

/-- A condition in one argument. -/
def condition (text : String) : Except ConditionError Condition :=
  match Text.splitThree text with
  | [a, b, c] => .ok ⟨a, b, c⟩
  | _ => .error (.notThreeParts text)

/-- Conditions in one argument each. -/
def conditions : List String → Except ConditionError (List Condition)
  | [] => .ok []
  | text :: r => do
    let c ← condition text
    return c :: (← conditions r)

/-- Whether a text is a single word. -/
def isWord (text : String) : Bool := (Text.splitThree text).length == 1

/-- **The conditions that arguments spell.**  They are taken three at a time when their number is a
multiple of three and each is a single word. -/
def splitConditions (arguments : List String) : Except ConditionError (List Condition) :=
  if arguments.length % 3 = 0 ∧ arguments.all isWord then .ok (inThrees arguments)
  else conditions arguments

/-! ### Filters -/

/-- A filter in wire form that all of these make. -/
def allOf? : List Value → Option Value
  | [] => none
  | [v] => some v
  | vs => some (.object [("$and", .list vs)])

/-- A condition in wire form. -/
def Condition.toWire (c : Condition) : Except ConditionError Value :=
  match operatorOf? c.operator with
  | none => .error (.unknownOperator c.operator)
  | some operator =>
    match Json.read c.operand with
    | .ok v => .ok (.object [(c.path, .object [(operator, v)])])
    | .error .malformed => .error (.operandNotJson c.path c.operand)
    | .error (.numeral e) => .error (.numeral e)

/-- The conditions in wire form, or the first error. -/
def toWireAll : List Condition → Except ConditionError (List Value)
  | [] => .ok []
  | c :: r => do
    let v ← c.toWire
    return v :: (← toWireAll r)

/-- The filter that conditions make; none when there are none. -/
def filterOfConditions (cs : List Condition) : Except ConditionError (Option Value) :=
  (toWireAll cs).map allOf?

/-- The filter that a JSON text gives; none when the text is left out or empty. -/
def filterOfText : Option String → Except ConditionError (Option Value)
  | none => .ok none
  | some text =>
    if text.isEmpty then .ok none
    else
      match Json.read text with
      | .ok (.object fields) => .ok (some (.object fields))
      | .ok (.list items) => .ok (some (.list items))
      | .ok _ => .error .filterNotContainer
      | .error .malformed => .error .filterNotJson
      | .error (.numeral e) => .error (.numeral e)

/-- A part of a conjunction, which has to be an object. -/
def asObject : Value → Value
  | .object fields => .object fields
  | v => .object [("$and", v)]

/-- Two filters in one. -/
def bothOf : Option Value → Option Value → Option Value
  | some a, some b => some (.object [("$and", .list [asObject a, asObject b])])
  | some a, none => some a
  | none, b => b

/-- **The filter in wire form that a JSON text and conditions make**; none when there is
neither. -/
def filterOf (text : Option String) (arguments : List String) :
    Except ConditionError (Option Value) := do
  let given ← filterOfText text
  let cs ← splitConditions arguments
  return bothOf given (← filterOfConditions cs)

end EntityStore.Console
