import EntityStore.Value.Basic

/-!
# The parts of a value

A value holds its items or fields, what these hold in turn, and the operands of the comparisons in
it.  `Value.parts` lists all of them and the value itself, each with the place where it stands:
directly as the operand of a comparison, or anywhere else.
-/

namespace EntityStore

/-- Where a value stands: directly as the operand of a comparison, or anywhere else. -/
inductive Place where
  | operand
  | elsewhere
deriving DecidableEq, Repr

mutual

/-- **The parts of a value** that stands in a place, the value itself first. -/
def Value.parts (place : Place) : Value → List (Place × Value)
  | .scalar s => [(place, .scalar s)]
  | .list items => (place, .list items) :: Value.partsOfItems items
  | .tuple items => (place, .tuple items) :: Value.partsOfItems items
  | .object fields => (place, .object fields) :: Value.partsOfFields fields
  | .filter f => (place, .filter f) :: f.parts

/-- The parts of the items of a sequence. -/
def Value.partsOfItems : List Value → List (Place × Value)
  | [] => []
  | v :: r => v.parts .elsewhere ++ Value.partsOfItems r

/-- The parts of the fields of an object. -/
def Value.partsOfFields : List (String × Value) → List (Place × Value)
  | [] => []
  | (_, v) :: r => v.parts .elsewhere ++ Value.partsOfFields r

/-- The values that stand in a filter. -/
def Filter.parts : Filter → List (Place × Value)
  | .compare _ _ operand => operand.parts .operand
  | .combine _ children => Filter.partsOfEach children
  | .bare => []

/-- The values that stand in some filters. -/
def Filter.partsOfEach : List Filter → List (Place × Value)
  | [] => []
  | f :: r => f.parts ++ Filter.partsOfEach r

end

/-- The place of a value is not seen in its other parts. -/
theorem Value.parts_eq_cons (place place' : Place) (v : Value) :
    v.parts place = (place, v) :: (v.parts place').tail := by
  cases v <;> simp [Value.parts]

end EntityStore
