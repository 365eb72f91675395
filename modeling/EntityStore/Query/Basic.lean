import EntityStore.Value.Basic

/-!
# Queries and result pages

A query asks for one page of the documents of an entity: a filter in wire form, sort keys with a
leading `-` for a descending order, a page size, the token of an earlier page, and the fields to
keep.  Its result is a page: the documents and, unless it was the last page, the token of the
next.
-/

namespace EntityStore

/-- A request for one page of documents. -/
structure Query where
  filter : Value := .null
  sort : List String := []
  limit : Option Int := none
  continuationToken : Option String := none
  fields : Option (List String) := none

/-- One page of documents, and the token of the next page. -/
structure QueryResult where
  items : List Fields
  continuationToken : Option String

namespace QueryResult

/-- A result page as a value. -/
def toValue (r : QueryResult) : Value :=
  .object [("items", .list (r.items.map .object)),
    ("continuationToken", .ofText? r.continuationToken)]

end QueryResult

end EntityStore
