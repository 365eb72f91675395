import EntityStore.Failure
import EntityStore.Sql.Statement

/-!
# What the store is built on

The store reaches everything outside of it through a `Backend`: the clock, the source of new ids,
and a database that provisions containers and answers requests about the documents in them.  A
`Backend σ κ` works on a state of type `σ` and refers to a provisioned container by a handle of
type `κ`, about which nothing else is known.

Every answer may be a failure, and every one may change the state.
-/

namespace EntityStore

/-- One page of whatever a statement selects, and the token of the next page. -/
structure Page where
  items : List Value
  token : Option String

/-- A request for one page: at most `size` items, from the place that the token stands for, and
within one partition when its value is given. -/
structure PageRequest where
  statement : Statement
  size : Int
  token : Option String := none
  partition : Value := .null

/-- A request about the documents in a container. -/
inductive Request (κ : Type) where
  | create (container : κ) (body : Fields)
  | read (container : κ) (id : String) (partition : Value)
  | replace (container : κ) (id : String) (body : Fields)
  | delete (container : κ) (id : String) (partition : Value)
  | page (container : κ) (request : PageRequest)

/-- What a request is answered with. -/
abbrev Request.Reply {κ : Type} : Request κ → Type
  | .create .. => Value
  | .read .. => Value
  | .replace .. => Value
  | .delete .. => Unit
  | .page .. => Page

/-- **The outside of the store.**  `patience` bounds how many pages one operation may ask for; an
operation that has not come to an end by then fails as endless. -/
structure Backend (σ κ : Type) where
  now : σ → Except Failure DateTime × σ
  newId : σ → String × σ
  provision : (containerId path : String) → σ → Except Failure κ × σ
  perform : (q : Request κ) → σ → Except Failure q.Reply × σ
  close : σ → σ
  patience : σ → Nat

end EntityStore
