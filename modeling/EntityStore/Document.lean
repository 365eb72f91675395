import EntityStore.Value.Basic
import EntityStore.Time.DateTime

/-!
# Stamped documents

Every document is stamped before it is written: with its id, the name of its entity and the times
of its creation and of its last change.  What the caller put under these names is overwritten, and
everything else is kept, in its order.  Replacing a document leaves the creation time as the
caller sent it, or out when the caller sent none.
-/

namespace EntityStore

namespace Document

/-- The field that holds the id. -/
def idField : String := "id"

/-- The field that holds the name of the entity. -/
def entityField : String := "entityName"

/-- The field that holds the time of creation. -/
def createdField : String := "createdAt"

/-- The field that holds the time of the last change. -/
def updatedField : String := "updatedAt"

/-- **A new document as it is stored**; `none` when the time leaves the calendar. -/
def stampNew (document : Fields) (entity : String) (id : Value) (now : DateTime) :
    Option Fields :=
  now.timestamp?.map fun time =>
    (((document.put idField id).put createdField (.str time)).put updatedField
      (.str time)).put entityField (.str entity)

/-- **A replacing document as it is stored**; `none` when the time leaves the calendar. -/
def stampReplacing (document : Fields) (entity : String) (id : Value) (now : DateTime) :
    Option Fields :=
  now.timestamp?.map fun time =>
    ((document.put idField id).put updatedField (.str time)).put entityField (.str entity)

end Document

end EntityStore
