import EntityStore.Container.Config
import EntityStore.Filter.Wire
import EntityStore.Query.Validation
import EntityStore.Yaml.Token

/-!
# Failures

`Failure` lists the ways in which an operation on the store can end without a result, by cause.
`Failure.message` is the wording of each.  `isRejection` tells the failures of a caller who asked
for something that cannot be asked from those that occur while a request is being carried out.
-/

namespace EntityStore

/-- The arguments that an operation can miss. -/
inductive Argument where
  | entityName
  | entityId
  | document
  | query
  | entityIds
  | partitionKey
deriving DecidableEq, Repr

/-- The name of an argument. -/
def Argument.name : Argument → String
  | .entityName => "entity_name"
  | .entityId => "entity_id"
  | .document => "document"
  | .query => "query"
  | .entityIds => "entity_ids"
  | .partitionKey => "partition_key"

/-- The kinds of error that the remote database answers with. -/
inductive RemoteErrorKind where
  | response
  | resourceNotFound
  | resourceExists
  | accessConditionFailed
  | other (name : String)
deriving DecidableEq, Repr

/-- An error that the remote database answers with. -/
structure RemoteError where
  kind : RemoteErrorKind
  status : Int
deriving DecidableEq, Repr

/-- Why a value cannot be used in the place where it stands. -/
inductive Misuse where
  | notIterable (kind : String)
  | unhashable (kind : String)
  | notSubscriptable (kind : String)
  | indexNotInteger (kind : String)
  | notIntegral (kind : String)
deriving DecidableEq, Repr

/-- The wording of a misuse. -/
def Misuse.message : Misuse → String
  | .notIterable kind => "'" ++ kind ++ "' object is not iterable"
  | .unhashable kind => "unhashable type: '" ++ kind ++ "'"
  | .notSubscriptable kind => "'" ++ kind ++ "' object is not subscriptable"
  | .indexNotInteger kind =>
    if kind = "str" then "string indices must be integers, not 'str'"
    else if kind = "bytes" then "byte indices must be integers or slices, not str"
    else kind ++ " indices must be integers or slices, not str"
  | .notIntegral kind =>
    "int() argument must be a string, a bytes-like object or a real number, not '" ++ kind ++ "'"

/-- The ways in which an operation can end without a result. -/
inductive Failure where
  | missing (argument : Argument)
  | documentNotObject
  | partitionRequired (entity partitionField : String)
  | unknownEntity (entity : String)
  | filter (e : FilterError)
  | invalid (model : Model) (faults : List Fault)
  | config (e : ConfigError)
  | absent (containerId id : String) (cause : Option RemoteError)
  | exists_ (id : String)
  | refused (reason : String)
  | remote (e : RemoteError)
  | numeral (e : NumeralError)
  | notANumber (decimal : Bool)
  | infiniteNumber (decimal : Bool)
  | signalingNumber
  | outsideCalendar
  | misuse (m : Misuse)
  | missingKey (key : String)
  | undecodable
  | calendar (e : CalendarFault)
  | content (e : Yaml.Fault)
  | endless

namespace Failure

/-- **The wording of a failure.** -/
def message : Failure → String
  | .missing a => "'" ++ a.name ++ "' is required"
  | .documentNotObject => "document must be an object"
  | .partitionRequired entity partitionField =>
    "partition_key is required for entity '" ++ entity ++ "' (partitioned on '" ++ partitionField
      ++ "')"
  | .unknownEntity entity =>
    "No container configured for entity '" ++ entity
      ++ "'. Register a ContainerConfig or enable auto_register_entities."
  | .filter e => e.message
  | .invalid model faults => Fault.reportAll model faults
  | .config e => e.message
  | .absent containerId id _ =>
    "Document '" ++ id ++ "' not found in container '" ++ containerId ++ "'"
  | .exists_ id => id
  | .refused reason => reason
  | .remote _ => ""
  | .numeral e => e.message
  | .notANumber false => "cannot convert float NaN to integer"
  | .notANumber true => "cannot convert NaN to integer"
  | .infiniteNumber false => "cannot convert float infinity to integer"
  | .infiniteNumber true => "cannot convert Infinity to integer"
  | .signalingNumber => "cannot convert signaling NaN to float"
  | .outsideCalendar => "date value out of range"
  | .misuse m => m.message
  | .missingKey key => Text.shown key
  | .undecodable => "'utf-8' codec can't decode"
  | .calendar e => e.message
  | .content e => e.message
  | .endless => "no end of pages"

/-- Whether a failure says that the request itself cannot be made. -/
def isRejection : Failure → Bool
  | .missing _ | .documentNotObject | .partitionRequired .. | .unknownEntity _ | .filter _ => true
  | .invalid .query _ => true
  | _ => false

end Failure

end EntityStore
