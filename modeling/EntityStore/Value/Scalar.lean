import EntityStore.Number.Decimal
import EntityStore.Number.Shortest
import EntityStore.Time.DateTime

/-!
# Scalars

A scalar is a value with no parts: nothing, a truth value, a number of one of three kinds, a text,
a day, a point in time, or bytes.

Two scalars are equal when they belong to the same class.  All numbers are compared by their exact
size, a truth value counting as one or nought, whatever their kind; two points in time are
compared as instants when both have an offset, as written when neither has one, and differ
otherwise.  A number that is not a number has no class and equals nothing, itself included.
-/

namespace EntityStore

/-- A value with no parts. -/
inductive Scalar where
  | null
  | bool (b : Bool)
  | int (n : Int)
  | float (x : Double)
  | decimal (d : Decimal)
  | datetime (t : DateTime)
  | date (d : Date)
  | str (s : String)
  | bytes (b : List UInt8)
deriving DecidableEq, Repr

/-- What equal scalars have in common. -/
inductive ScalarClass where
  | null
  | number (x : Exact)
  | infinity (negative : Bool)
  | text (s : String)
  | bytes (b : List UInt8)
  | date (d : Date)
  | writtenTime (seconds : Int) (microsecond : Nat)
  | instant (microseconds : Int)
deriving DecidableEq, Repr

namespace ScalarClass

/-- A digest of a class. -/
def digest : ScalarClass → UInt64
  | .null => 11
  | .number x => mixHash 13 x.digest
  | .infinity negative => mixHash 17 (hash negative)
  | .text s => mixHash 19 (hash s)
  | .bytes b => b.foldl (fun h x => mixHash h (hash x)) 23
  | .date d => mixHash 29 (hash (Calendar.dayNumber d))
  | .writtenTime s m => mixHash 31 (mixHash (hash s) (hash m))
  | .instant m => mixHash 37 (hash m)

end ScalarClass

namespace Scalar

/-- The class of a scalar; what is not a number has none. -/
def class? : Scalar → Option ScalarClass
  | .null => some .null
  | .bool b => some (.number (Exact.ofBool b))
  | .int n => some (.number (Exact.ofInt n))
  | .float (.infinite negative) => some (.infinity negative)
  | .float x => x.toExact?.map .number
  | .decimal (.infinite negative) => some (.infinity negative)
  | .decimal d => d.toExact?.map .number
  | .str s => some (.text s)
  | .bytes b => some (.bytes b)
  | .date d => some (.date d)
  | .datetime t =>
    some (match t.offset with
      | some _ => .instant t.instant
      | none => .writtenTime t.localSeconds t.microsecond)

/-- **Equality of scalars**: to be of the same class. -/
def equal (a b : Scalar) : Bool :=
  match a.class?, b.class? with
  | some x, some y => x = y
  | _, _ => false

theorem equal_iff {a b : Scalar} :
    a.equal b = true ↔ ∃ c, a.class? = some c ∧ b.class? = some c := by
  unfold equal
  split
  · rename_i x y hx hy
    simp [hx, hy, eq_comm]
  · rename_i h
    constructor
    · intro hf; cases hf
    · rintro ⟨c, ha, hb⟩
      exact absurd hb (h c c ha)

/-- A digest that equal scalars share; a signaling not-a-number has none. -/
def digest? : Scalar → Option UInt64
  | .decimal d =>
    if d.isSignaling then none
    else some (((Scalar.decimal d).class?.map ScalarClass.digest).getD 41)
  | s => some ((s.class?.map ScalarClass.digest).getD 41)

/-- The word for the kind of a scalar in a message. -/
def kindName : Scalar → String
  | .null => "NoneType"
  | .bool _ => "bool"
  | .int _ => "int"
  | .float _ => "float"
  | .decimal _ => "Decimal"
  | .datetime _ => "datetime"
  | .date _ => "date"
  | .str _ => "str"
  | .bytes _ => "bytes"

end Scalar

end EntityStore
