import EntityStore.Filter.Wire
import EntityStore.Sql.Reference

/-!
# Conditions

A `Condition` is what a filter comes to once its operators have been given their meaning.  A leaf
tests one field, and every test but that for presence binds its operand as a parameter, so no
operand is ever part of the text.  `Filter.condition` makes the condition of a filter; a
comparison with an unknown operator, or an operand that its operator has no use for, becomes
silent.

The text of a condition joins the texts of its parts and leaves out the parts that have none:
conjunctions stand bare, disjunctions in parentheses, and a negation puts its part in parentheses
of its own.  `Condition.textFrom` numbers the placeholders from a given number on, left to right,
and `Condition.values` lists the operands in the same order.

A combination under an unknown operator has no text, but the operands inside it are still bound.
-/

namespace EntityStore.Sql

/-! ### Tests -/

/-- The comparison operators. -/
inductive Comparator where
  | eq | ne | gt | ge | lt | le
deriving DecidableEq, Repr

/-- A comparison operator as it is written in a statement. -/
def Comparator.symbol : Comparator → String
  | .eq => "=" | .ne => "!=" | .gt => ">" | .ge => ">=" | .lt => "<" | .le => "<="

/-- Whether a comparison is for an order, and so needs an operand without parts. -/
def Comparator.isOrder : Comparator → Bool
  | .eq | .ne => false
  | _ => true

/-- The tests on texts. -/
inductive TextTest where
  | matchesRegex | startsWith | notStartsWith
deriving DecidableEq, Repr

/-- A test on texts as it is written in a statement, up to the opening parenthesis. -/
def TextTest.function : TextTest → String
  | .matchesRegex => "REGEX_MATCH"
  | .startsWith => "STARTSWITH"
  | .notStartsWith => "NOT STARTSWITH"

/-- The operators of comparisons in filters. -/
inductive Operator where
  | compare (c : Comparator)
  | member (negated : Bool)
  | presence
  | onText (t : TextTest)
deriving DecidableEq, Repr

/-- The operator of a name. -/
def Operator.ofName? : String → Option Operator
  | "$eq" => some (.compare .eq)
  | "$ne" => some (.compare .ne)
  | "$gt" => some (.compare .gt)
  | "$gte" => some (.compare .ge)
  | "$lt" => some (.compare .lt)
  | "$lte" => some (.compare .le)
  | "$in" => some (.member false)
  | "$nin" => some (.member true)
  | "$exists" => some .presence
  | "$regex" => some (.onText .matchesRegex)
  | "$sw" => some (.onText .startsWith)
  | "$nsw" => some (.onText .notStartsWith)
  | _ => none

/-- What a condition asks of one field. -/
inductive Test where
  | compare (c : Comparator) (operand : Value)
  | member (negated : Bool) (operand : Value)
  | presence (expected : Bool)
  | onText (t : TextTest) (operand : Value)

/-- The test that an operator makes of an operand, when it has a use for it. -/
def Operator.test? : Operator → Value → Option Test
  | _, .null => none
  | .compare c, v =>
    if c.isOrder && (v.isObject || v.isSequence) then none else some (.compare c v)
  | .member negated, v => if v.isSequence then some (.member negated v) else none
  | .presence, .bool b => some (.presence b)
  | .presence, _ => none
  | .onText t, v => v.text?.map fun _ => .onText t v

/-- The value that is bound for an operand: a tuple is bound as the list of its items. -/
def boundValue : Value → Value
  | .tuple items => .list items
  | v => v

/-- The values that a test binds. -/
def Test.values : Test → List Value
  | .compare _ v | .member _ v | .onText _ v => [boundValue v]
  | .presence _ => []

/-- The placeholder of the `n`-th bound value. -/
def placeholder (n : Nat) : String := "@p" ++ toString n

/-- The text of a test on the field that `ref` refers to, whose value is the `n`-th bound one. -/
def Test.text (ref : String) (n : Nat) : Test → String
  | .compare c _ => ref ++ " " ++ c.symbol ++ " " ++ placeholder n
  | .member negated _ => ref ++ (if negated then " NOT IN " else " IN ") ++ placeholder n
  | .presence expected => (if expected then "" else "NOT ") ++ "IS_DEFINED(" ++ ref ++ ")"
  | .onText t _ => t.function ++ "(" ++ ref ++ ", " ++ placeholder n ++ ")"

/-! ### Conditions -/

/-- What a filter comes to. -/
inductive Condition where
  | test (path : String) (t : Test)
  | all (parts : List Condition)
  | any (parts : List Condition)
  | negation (part : Condition)
  | silent (parts : List Condition)

namespace Condition

mutual

/-- **The values that a condition binds**, from left to right. -/
def values : Condition → List Value
  | .test _ t => t.values
  | .all parts | .any parts | .silent parts => valuesOfParts parts
  | .negation part => part.values

/-- The values that a list of conditions binds. -/
def valuesOfParts : List Condition → List Value
  | [] => []
  | c :: r => c.values ++ valuesOfParts r

end

/-- The text of a conjunction with these parts. -/
def joinAll (parts : List String) : String := " AND ".intercalate parts

/-- The text of a disjunction with these parts. -/
def joinAny (parts : List String) : String :=
  if parts.isEmpty then "" else "(" ++ " OR ".intercalate parts ++ ")"

/-- The text of a negation of a condition with this text. -/
def negated (part : String) : String :=
  if part.isEmpty then "" else "NOT (" ++ part ++ ")"

mutual

/-- **The text of a condition** whose first bound value has the number `n`. -/
def textFrom (alias_ : String) (n : Nat) : Condition → String
  | .test path t => t.text (reference alias_ path) n
  | .all parts => joinAll (textsFrom alias_ n parts)
  | .any parts => joinAny (textsFrom alias_ n parts)
  | .negation part => negated (textFrom alias_ n part)
  | .silent _ => ""

/-- The texts of the conditions of a list that have one. -/
def textsFrom (alias_ : String) (n : Nat) : List Condition → List String
  | [] => []
  | c :: r =>
    let text := textFrom alias_ n c
    let rest := textsFrom alias_ (n + c.values.length) r
    if text.isEmpty then rest else text :: rest

end

end Condition

/-! ### The condition of a filter -/

/-- The condition of a comparison. -/
def comparison (path operator : String) (operand : Value) : Condition :=
  match (Operator.ofName? operator).bind (·.test? operand) with
  | some t => .test path t
  | none => .silent []

/-- The condition of a combination under an operator that is not a negation. -/
def combination (operator : String) (parts : List Condition) : Condition :=
  if operator = Filter.andOp then .all parts
  else if operator = Filter.orOp then .any parts
  else .silent parts

end EntityStore.Sql

namespace EntityStore.Filter

open Sql (Condition)

mutual

/-- **What a filter comes to.**  A negation takes account of its first child only. -/
def condition : Filter → Condition
  | .compare path operator operand => Sql.comparison path operator operand
  | .combine operator [] =>
    if operator = notOp then .silent [] else Sql.combination operator []
  | .combine operator (f :: r) =>
    if operator = notOp then .negation f.condition
    else Sql.combination operator (f.condition :: conditions r)
  | .bare => .silent []

/-- What each of a list of filters comes to. -/
def conditions : List Filter → List Condition
  | [] => []
  | f :: r => f.condition :: conditions r

end

end EntityStore.Filter
