import EntityStore.Yaml.Node
import EntityStore.Yaml.Scalar
import EntityStore.Yaml.Token.Lexer

/-!
# Reading YAML

`Yaml.read` is the value of a YAML text.  Of a mapping only the entries are kept whose keys are
texts; other keys have to be scalars but are not looked at again.  Of two entries with one key the
later counts.  The entries of a mapping under the key `<<` are merged into the mapping around it,
behind whose own entries they stand back.
-/

namespace EntityStore.Yaml

namespace Node

/-! ### Merging -/

/-- The entries of a mapping that are its own. -/
def ownEntries (entries : List (Node × Node)) : List (Node × Node) :=
  entries.filter fun p => p.1.tag ≠ .merge

/-- The entries that a value under the merge key brings in: those of a mapping, or those of the
mappings in a sequence, the first of which counts most. -/
def broughtIn : Node → Except Fault (List (Node × Node))
  | .mapping _ entries => .ok entries
  | .sequence _ items =>
    items.foldlM (fun soFar n =>
      match n with
      | .mapping _ entries => .ok (entries ++ soFar)
      | _ => .error .malformed) []
  | _ => .error .malformed

/-- The entries of a mapping, those that are brought in first. -/
def mergeEntries (entries : List (Node × Node)) : Except Fault (List (Node × Node)) := do
  let brought ← (entries.filter fun p => p.1.tag = .merge).mapM fun p => broughtIn p.2
  return brought.flatten ++ ownEntries entries

mutual

/-- A node in which all mappings are merged. -/
def merged : Node → Except Fault Node
  | .scalar t s => .ok (.scalar t s)
  | .enclosing a => .ok (.enclosing a)
  | .sequence t items => (mergedItems items).map (.sequence t)
  | .mapping t entries => do
    let entries ← mergedPairs entries
    return .mapping t (← mergeEntries entries)

/-- The items of a sequence, merged. -/
def mergedItems : List Node → Except Fault (List Node)
  | [] => .ok []
  | n :: r => do
    let n ← merged n
    return n :: (← mergedItems r)

/-- The entries of a mapping, each merged. -/
def mergedPairs : List (Node × Node) → Except Fault (List (Node × Node))
  | [] => .ok []
  | (k, v) :: r => do
    let k ← merged k
    let v ← merged v
    return (k, v) :: (← mergedPairs r)

end

/-! ### Values -/

/-- The text of a scalar, or of the default value in a mapping. -/
def defaultText? : Node → Option String
  | .scalar _ s => some s
  | .mapping _ entries => defaultOf entries
  | _ => none
where
  /-- The text under the default key. -/
  defaultOf : List (Node × Node) → Option String
    | [] => none
    | (k, v) :: r => if k.tag = .defaultValue then defaultText? v else defaultOf r

/-- The value of a collection that is tagged as a scalar. -/
def valueAsScalar (t : Tag) (n : Node) : Except Fault Value :=
  match defaultText? n with
  | some s => scalarValue t s
  | none => .error .malformed

/-- A key, which has to be a scalar. -/
def keyValue : Node → Except Fault Value
  | .scalar .defaultValue s => .ok (.str s)
  | .scalar t s => scalarValue t s
  | _ => .error .malformed

/-- An entry, when its key is a text. -/
def textEntry? : Value × Value → Option (String × Value)
  | (.str k, v) => some (k, v)
  | _ => none

mutual

/-- The value of a node. -/
def value : Node → Except Fault Value
  | .scalar t s => scalarValue t s
  | .enclosing _ => .ok .null
  | .sequence t items =>
    match t with
    | .sequence => (itemValues items).map .list
    | .orderedMapping => (pairValues items).map .list
    | .pairs => (pairValues items).map .list
    | _ => .error .malformed
  | .mapping t entries =>
    match t with
    | .mapping =>
      (entryValues entries).map fun ps => .object (Entries.ofList (ps.filterMap textEntry?))
    | .set => (entryValues entries).map fun ps => .tuple (ps.map Prod.fst)
    | t => valueAsScalar t (.mapping t entries)

/-- The values of the items of a sequence. -/
def itemValues : List Node → Except Fault (List Value)
  | [] => .ok []
  | n :: r => do
    let v ← value n
    return v :: (← itemValues r)

/-- The values of the items of a sequence of pairs, each a mapping with one entry. -/
def pairValues : List Node → Except Fault (List Value)
  | [] => .ok []
  | .mapping _ [(k, v)] :: r => do
    let k ← value k
    let v ← value v
    return .tuple [k, v] :: (← pairValues r)
  | _ :: _ => .error .malformed

/-- The keys and the values of a mapping. -/
def entryValues : List (Node × Node) → Except Fault (List (Value × Value))
  | [] => .ok []
  | (k, v) :: r => do
    let k ← keyValue k
    let v ← value v
    return (k, v) :: (← entryValues r)

end

end Node

/-- **The value of a YAML text**; nothing when it holds no document. -/
def read (text : String) : Except Fault Value := do
  match ← Node.ofTokens (← Token.scan text) with
  | none => return .null
  | some n => (← n.merged).value

end EntityStore.Yaml
