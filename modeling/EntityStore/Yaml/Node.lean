import EntityStore.Entries
import EntityStore.Yaml.Tag

/-!
# YAML nodes

The tokens of a document make a tree of nodes.  A node may be given an anchor, and an alias stands
for the node of that name, which has to come before it.  An alias inside of its own node makes a
tree without end; it is unrolled two levels deep, which is further than any configuration looks.

A text holds at most one document.
-/

namespace EntityStore.Yaml

/-- A node of a document. -/
inductive Node where
  | scalar (tag : Tag) (text : String)
  | sequence (tag : Tag) (items : List Node)
  | mapping (tag : Tag) (entries : List (Node × Node))
  /-- The node around this one that has the anchor. -/
  | enclosing (anchor : String)

namespace Node

instance : Inhabited Node := ⟨.scalar .null ""⟩

/-- The node of nothing. -/
def empty : Node := .scalar .null ""

/-- The tag of a node. -/
def tag : Node → Tag
  | .scalar t _ => t
  | .sequence t _ => t
  | .mapping t _ => t
  | .enclosing _ => .unknown

/-! ### Nodes inside of themselves -/

mutual

/-- Puts a node in the place of the enclosing node with an anchor. -/
def substitute (anchor : String) (by_ : Node) : Node → Node
  | .enclosing a => if a = anchor then by_ else .enclosing a
  | .scalar t s => .scalar t s
  | .sequence t items => .sequence t (substituteItems anchor by_ items)
  | .mapping t entries => .mapping t (substituteEntries anchor by_ entries)

/-- Puts a node in its place in every item of a sequence. -/
def substituteItems (anchor : String) (by_ : Node) : List Node → List Node
  | [] => []
  | n :: r => substitute anchor by_ n :: substituteItems anchor by_ r

/-- Puts a node in its place in every entry of a mapping. -/
def substituteEntries (anchor : String) (by_ : Node) : List (Node × Node) → List (Node × Node)
  | [] => []
  | (k, v) :: r =>
    (substitute anchor by_ k, substitute anchor by_ v) :: substituteEntries anchor by_ r

end

/-- A node without its content. -/
def hollow : Node → Node
  | .sequence t _ => .sequence t []
  | .mapping t _ => .mapping t []
  | n => n

/-- The node with an anchor, in which it may stand itself, unrolled. -/
def unroll (anchor : String) (n : Node) : Node :=
  let around (inner : Node) : Node := substitute anchor inner n
  around (around (around n.hollow))

/-! ### Reading nodes -/

/-- The tokens that are left, the tag handles, and the nodes by their anchors; a node that is not
complete has none yet. -/
structure State where
  tokens : List Token
  handles : Entries String String := []
  anchors : Entries String (Option Node) := []

/-- A reading of nodes from tokens. -/
abbrev Read (α : Type) := State → Except Fault (α × State)

namespace State

/-- The next token. -/
def next (s : State) : Option Token := s.tokens.head?

/-- The state behind the next token. -/
def skip (s : State) : State := { s with tokens := s.tokens.drop 1 }

/-- Whether the next token is one of these. -/
def isAt (s : State) (ts : List Token) : Bool :=
  match s.next with
  | some t => ts.contains t
  | none => false

end State

/-- What stands in front of a node. -/
structure Properties where
  anchor : Option String := none
  tag : Option String := none

/-- The full name of a tag. -/
def fullTag (s : State) : Option String → String → Except Fault String
  | none, suffix => .ok suffix
  | some handle, suffix =>
    match s.handles.get? handle with
    | some start => .ok (start ++ suffix)
    | none => .error .malformed

/-- The anchor and the tag in front of a node, in either order. -/
def properties (s : State) : Except Fault (Properties × State) :=
  match s.tokens with
  | .anchor a :: .tag handle suffix :: r =>
    (fullTag s handle suffix).map fun t => (⟨some a, some t⟩, { s with tokens := r })
  | .anchor a :: r => .ok (⟨some a, none⟩, { s with tokens := r })
  | .tag handle suffix :: .anchor a :: r =>
    (fullTag s handle suffix).map fun t => (⟨some a, some t⟩, { s with tokens := r })
  | .tag handle suffix :: r =>
    (fullTag s handle suffix).map fun t => (⟨none, some t⟩, { s with tokens := r })
  | _ => .ok ({}, s)

/-- The tag of a scalar. -/
def scalarTag (tag : Option String) (text : String) (plain : Bool) : Tag :=
  match tag with
  | some "!" => .ofPlain text
  | some t => .ofName t
  | none => if plain then .ofPlain text else .text

/-- The tag of a collection. -/
def collectionTag (tag : Option String) (usual : Tag) : Tag :=
  match tag with
  | some "!" => usual
  | some t => .ofName t
  | none => usual

/-- Notes that a node with this anchor begins, of which there must be no other. -/
def begin_ (s : State) : Option String → Except Fault State
  | none => .ok s
  | some a =>
    if s.anchors.contains a then .error .malformed
    else .ok { s with anchors := s.anchors.put a none }

/-- Notes that the node with this anchor is complete. -/
def complete (anchor : Option String) (n : Node) (s : State) : Node × State :=
  match anchor with
  | none => (n, s)
  | some a =>
    let n := n.unroll a
    (n, { s with anchors := s.anchors.put a (some n) })

/-- What an alias stands for. -/
def ofAlias (s : State) (name : String) : Except Fault Node :=
  match s.anchors.get? name with
  | some (some n) => .ok n
  | some none => .ok (.enclosing name)
  | none => .error .malformed

/-- Where a node stands, which decides what may be one. -/
inductive Place where
  /-- Inside of brackets. -/
  | flow
  /-- In a block. -/
  | block
  /-- In a block mapping, where a sequence needs no indentation. -/
  | inMapping
deriving DecidableEq

mutual

/-- A node. -/
def read (place : Place) : (fuel : Nat) → Read Node
  | 0, _ => .error .malformed
  | n + 1, s =>
    match s.next with
    | some (.alias_ name) => (ofAlias s name).map fun node => (node, s.skip)
    | _ => do
      let (p, s) ← properties s
      let s ← begin_ s p.anchor
      let sequence (items : List Node) : Node := .sequence (collectionTag p.tag .sequence) items
      let mapping (entries : List (Node × Node)) : Node :=
        .mapping (collectionTag p.tag .mapping) entries
      let (node, s) ← match s.next with
        | some (.scalar text plain) => pure (.scalar (scalarTag p.tag text plain) text, s.skip)
        | some .flowSequenceStart =>
          (readFlowItems true n s.skip).map fun (items, s) => (sequence items, s)
        | some .flowMappingStart =>
          (readFlowEntries true n s.skip).map fun (entries, s) => (mapping entries, s)
        | t =>
          if place = .inMapping ∧ t = some .blockEntry then
            (readInnerItems n s).map fun (items, s) => (sequence items, s)
          else if place ≠ .flow ∧ t = some .blockSequenceStart then
            (readItems n s.skip).map fun (items, s) => (sequence items, s)
          else if place ≠ .flow ∧ t = some .blockMappingStart then
            (readEntries n s.skip).map fun (entries, s) => (mapping entries, s)
          else if p.anchor.isSome ∨ p.tag.isSome then
            pure (.scalar (scalarTag p.tag "" true) "", s)
          else throw .malformed
      return complete p.anchor node s

/-- A node, or nothing in front of certain tokens. -/
def readOr (place : Place) (stops : List Token) : (fuel : Nat) → Read Node
  | 0, _ => .error .malformed
  | n + 1, s => if s.isAt stops then .ok (empty, s) else read place n s

/-- The items of a block sequence up to its end. -/
def readItems : (fuel : Nat) → Read (List Node)
  | 0, _ => .error .malformed
  | n + 1, s =>
    match s.next with
    | some .blockEntry => do
      let (node, s) ← readOr .block [.blockEntry, .blockEnd] n s.skip
      let (items, s) ← readItems n s
      return (node :: items, s)
    | some .blockEnd => .ok ([], s.skip)
    | _ => .error .malformed

/-- The items of a sequence that is not indented in its mapping. -/
def readInnerItems : (fuel : Nat) → Read (List Node)
  | 0, _ => .error .malformed
  | n + 1, s =>
    if s.isAt [.blockEntry] then do
      let (node, s) ← readOr .block [.blockEntry, .key, .value, .blockEnd] n s.skip
      let (items, s) ← readInnerItems n s
      return (node :: items, s)
    else .ok ([], s)

/-- The entries of a block mapping up to its end. -/
def readEntries : (fuel : Nat) → Read (List (Node × Node))
  | 0, _ => .error .malformed
  | n + 1, s =>
    match s.next with
    | some .key => do
      let stops := [.key, .value, .blockEnd]
      let (key, s) ← readOr .inMapping stops n s.skip
      let (value, s) ←
        if s.isAt [.value] then readOr .inMapping stops n s.skip else pure (empty, s)
      let (entries, s) ← readEntries n s
      return ((key, value) :: entries, s)
    | some .blockEnd => .ok ([], s.skip)
    | _ => .error .malformed

/-- The value behind a key in brackets, if there is one. -/
def readFlowValue (stops : List Token) : (fuel : Nat) → Read Node
  | 0, _ => .error .malformed
  | n + 1, s => if s.isAt [.value] then readOr .flow stops n s.skip else .ok (empty, s)

/-- The items of a sequence in brackets up to its end; a comma separates them. -/
def readFlowItems (first : Bool) : (fuel : Nat) → Read (List Node)
  | 0, _ => .error .malformed
  | n + 1, s =>
    if s.isAt [.flowSequenceEnd] then .ok ([], s.skip)
    else do
      let s ←
        if first then pure s
        else if s.isAt [.flowEntry] then pure s.skip
        else throw .malformed
      if s.isAt [.flowSequenceEnd] then return ([], s.skip)
      else
        let stops := [.flowEntry, .flowSequenceEnd]
        let (node, s) ←
          if s.isAt [.key] then do
            let (key, s) ← readOr .flow (.value :: stops) n s.skip
            let (value, s) ← readFlowValue stops n s
            pure (Node.mapping .mapping [(key, value)], s)
          else read .flow n s
        let (items, s) ← readFlowItems false n s
        return (node :: items, s)

/-- The entries of a mapping in brackets up to its end; a comma separates them. -/
def readFlowEntries (first : Bool) : (fuel : Nat) → Read (List (Node × Node))
  | 0, _ => .error .malformed
  | n + 1, s =>
    if s.isAt [.flowMappingEnd] then .ok ([], s.skip)
    else do
      let s ←
        if first then pure s
        else if s.isAt [.flowEntry] then pure s.skip
        else throw .malformed
      if s.isAt [.flowMappingEnd] then return ([], s.skip)
      else
        let stops := [.flowEntry, .flowMappingEnd]
        let ((key, value), s) ←
          if s.isAt [.key] then do
            let (key, s) ← readOr .flow (.value :: stops) n s.skip
            let (value, s) ← readFlowValue stops n s
            pure ((key, value), s)
          else do
            let (key, s) ← read .flow n s
            pure ((key, empty), s)
        let (entries, s) ← readFlowEntries false n s
        return ((key, value) :: entries, s)

end

/-! ### Documents -/

/-- The directives in front of a document: whether there was a version, and the tag handles. -/
def readDirectives : List Token → (version : Bool) → Entries String String →
    Except Fault (Entries String String × List Token)
  | .directive (.version major _) :: r, version, handles =>
    if version ∨ major ≠ 1 then .error .malformed else readDirectives r true handles
  | .directive (.tag handle start) :: r, version, handles =>
    if handles.contains handle then .error .malformed
    else readDirectives r version (handles.put handle start)
  | .directive .other :: r, version, handles => readDirectives r version handles
  | r, _, handles => .ok (handles, r)

/-- The tag handles, of which two are always there. -/
def allHandles (handles : Entries String String) : Entries String String :=
  [("!", "!"), ("!!", Tag.start)].foldl
    (fun h (k, v) => if h.contains k then h else h.put k v) handles

/-- The node of a document, and the tokens behind it. -/
def readDocument (handles : Entries String String) (tokens : List Token) :
    Except Fault (Node × List Token) :=
  let fuel := 3 * tokens.length + 3
  (read .block fuel { tokens := tokens, handles := allHandles handles }).map fun (n, s) =>
    (n, s.tokens)

/-- Whether a token cannot begin the content of a document. -/
def endsDocument : Token → Bool
  | .directive _ => true
  | .documentStart => true
  | .documentEnd => true
  | _ => false

/-- **The node of the only document that tokens make**; none when there is no document. -/
def ofTokens (tokens : List Token) : Except Fault (Option Node) := do
  let (node, rest) ← match tokens with
    | [] => pure (none, [])
    | t :: _ =>
      if t = .documentStart ∨ endsDocument t ∧ t ≠ .documentEnd then do
        let (handles, r) ← readDirectives tokens false []
        match r with
        | .documentStart :: r =>
          if (r.head?.map endsDocument).getD true then pure (some empty, r)
          else do
            let (n, r) ← readDocument handles r
            pure (some n, r)
        | _ => throw .malformed
      else do
        let (n, r) ← readDocument [] tokens
        pure (some n, r)
  if (rest.dropWhile (· = .documentEnd)).isEmpty then return node else throw .malformed

end Node

end EntityStore.Yaml
