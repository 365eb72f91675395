import EntityStore.Value.Basic

/-!
# Equality and digests of values and filters

`Value.equal` compares values by what they hold.  Lists equal lists and tuples equal tuples, item
by item; objects are equal when they have the same keys with equal values, in any order; filters
of the same form are equal when their parts are.  A bare filter equals nothing.

`Value.digest` gives equal values the same digest.  A value that can change in place, a list or an
object, has none, and neither has what holds one, with a single exception: the operand of a
comparison may be a list, which is then digested as the tuple of its items.  A combination of
filters has no digest.  Where there is no digest, the kind of the part that prevents it is given.
-/

namespace EntityStore

/-! ### Equality -/

mutual

/-- **Equality of values.** -/
def Value.equal : Value → Value → Bool
  | .scalar a, .scalar b => a.equal b
  | .list a, .list b => Value.equalLists a b
  | .tuple a, .tuple b => Value.equalLists a b
  | .object a, .object b => a.length == b.length && Value.equalFields a b
  | .filter a, .filter b => a.equal b
  | _, _ => false

/-- Equality of two sequences, item by item. -/
def Value.equalLists : List Value → List Value → Bool
  | [], [] => true
  | a :: r, b :: s => a.equal b && Value.equalLists r s
  | _, _ => false

/-- Whether every one of these fields has an equal counterpart in `other`. -/
def Value.equalFields : List (String × Value) → List (String × Value) → Bool
  | [], _ => true
  | (k, v) :: r, other =>
    (match Entries.get? other k with
      | some w => v.equal w
      | none => false) && Value.equalFields r other

/-- **Equality of filters.** -/
def Filter.equal : Filter → Filter → Bool
  | .compare p o v, .compare p' o' v' => p == p' && o == o' && v.equal v'
  | .combine o c, .combine o' c' => o == o' && Filter.equalLists c c'
  | _, _ => false

/-- Equality of two lists of filters, one by one. -/
def Filter.equalLists : List Filter → List Filter → Bool
  | [], [] => true
  | a :: r, b :: s => a.equal b && Filter.equalLists r s
  | _, _ => false

end

/-! ### Digests -/

/-- The digest of a tuple from those of its items. -/
def digestItems (ds : List UInt64) : UInt64 :=
  ds.foldl mixHash 43

/-- The digest of a comparison from that of its operand. -/
def digestComparison (path operator : String) (d : UInt64) : UInt64 :=
  mixHash (mixHash (hash path) (hash operator)) d

mutual

/-- The digest of a value, or the kind of the part that has none. -/
def Value.digest : Value → Except String UInt64
  | .scalar s => s.digest?.elim (.error s.kindName) .ok
  | .tuple items => (Value.digests items).map digestItems
  | .filter f => f.digest
  | .list _ => .error "list"
  | .object _ => .error "dict"

/-- The digests of the items of a sequence, or the kind of the first part that has none. -/
def Value.digests : List Value → Except String (List UInt64)
  | [] => .ok []
  | v :: r =>
    match v.digest, Value.digests r with
    | .ok d, .ok ds => .ok (d :: ds)
    | .error kind, _ => .error kind
    | .ok _, .error kind => .error kind

/-- **The digest of a filter**, or the kind of the part that has none. -/
def Filter.digest : Filter → Except String UInt64
  | .compare path operator (.list items) =>
    (Value.digests items).map fun ds => digestComparison path operator (digestItems ds)
  | .compare path operator v => v.digest.map (digestComparison path operator)
  | .combine _ _ => .error "LogicalExpression"
  | .bare => .ok 47

end

end EntityStore
