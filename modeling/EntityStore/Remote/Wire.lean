import EntityStore.Failure
import EntityStore.Sql.Statement

/-!
# Values on the wire

The service of a remote database takes nothing but nothing, truth values, numbers, texts, lists
and objects.  Before a parameter is sent, a point in time in it becomes its timestamp, a day its
text, a decimal number the nearest binary64 number and a tuple a list, at any depth; all else
stays as it is.  That fails for a time outside of the calendar and for a signaling not-a-number.
-/

namespace EntityStore

/-- A scalar as it is sent. -/
def Scalar.toWire : Scalar → Except Failure Scalar
  | .datetime t =>
    match t.timestamp? with
    | some s => .ok (.str s)
    | none => .error .outsideCalendar
  | .date d => .ok (.str d.text)
  | .decimal d =>
    match d.toDouble? with
    | some x => .ok (.float x)
    | none => .error .signalingNumber
  | s => .ok s

mutual

/-- **A value as it is sent.** -/
def Value.toWire : Value → Except Failure Value
  | .scalar s => s.toWire.map .scalar
  | .list items | .tuple items => (Value.toWireItems items).map .list
  | .object fields => (Value.toWireFields fields).map .object
  | .filter f => .ok (.filter f)

/-- The items of a list as they are sent. -/
def Value.toWireItems : List Value → Except Failure (List Value)
  | [] => .ok []
  | v :: r => do
    let v ← Value.toWire v
    return v :: (← Value.toWireItems r)

/-- The fields of an object as they are sent. -/
def Value.toWireFields : List (String × Value) → Except Failure (List (String × Value))
  | [] => .ok []
  | (k, v) :: r => do
    let v ← Value.toWire v
    return (k, v) :: (← Value.toWireFields r)

end

namespace Parameter

/-- A parameter as it is sent. -/
def toWire (p : Parameter) : Except Failure Parameter :=
  p.value.toWire.map fun v => { p with value := v }

/-- **Parameters as they are sent**, or the failure of the first that cannot be. -/
def allToWire : List Parameter → Except Failure (List Parameter)
  | [] => .ok []
  | p :: r => do
    let p ← p.toWire
    return p :: (← allToWire r)

/-- A parameter that is written as an object with a name and a value. -/
def ofValue (v : Value) : Except Failure Parameter :=
  match v with
  | .object fields =>
    match Entries.get? fields "name", Entries.get? fields "value" with
    | some name, some value => .ok ⟨name.text, value⟩
    | none, _ => .error (.missingKey "name")
    | some _, none => .error (.missingKey "value")
  | v => .error (.misuse (.notSubscriptable (Fault.inputKind v)))

/-- Parameters that are written as objects, each as it is sent. -/
def allOfValues : List Value → Except Failure (List Parameter)
  | [] => .ok []
  | v :: r => do
    let p ← ofValue v
    let p ← p.toWire
    return p :: (← allOfValues r)

/-- A parameter written as an object. -/
def toValue (p : Parameter) : Value := .object [("name", .str p.name), ("value", p.value)]

end Parameter

end EntityStore
