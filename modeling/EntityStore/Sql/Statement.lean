import EntityStore.Query.Basic
import EntityStore.Sql.Condition
import EntityStore.Text.Blank

/-!
# Statements

A statement is a text with placeholders, and the parameters that they stand for.  There are
three: one that selects a page of documents, one that counts documents, and one that selects
documents by their ids, within a partition if there is one.

The page size and the token of a query are no part of its statement.
-/

namespace EntityStore

/-- A bound value and the placeholder that stands for it. -/
structure Parameter where
  name : String
  value : Value

/-- A text with placeholders, and the parameters that they stand for. -/
structure Statement where
  text : String
  parameters : List Parameter

namespace Sql

/-! ### Clauses -/

/-- The parameters of a list of bound values, numbered from `n` on. -/
def numbered (n : Nat) (values : List Value) : List Parameter :=
  values.zipIdx.map fun (v, i) => ⟨placeholder (n + i), v⟩

/-- The text and the parameters of a filter, with the placeholders numbered from `n` on. -/
def filterFrom (alias_ : String) (n : Nat) (f : Filter) : Statement :=
  ⟨f.condition.textFrom alias_ n, numbered n f.condition.values⟩

/-- The order that a sort key asks for, if it asks for any. -/
def sortClause? (alias_ key : String) : Option String :=
  match Text.trimList Text.isBlank key.toList with
  | [] | ['-'] => none
  | '-' :: path => some (reference alias_ (String.ofList path) ++ " DESC")
  | path => some (reference alias_ (String.ofList path) ++ " ASC")

/-- **The list of the orders that sort keys ask for.** -/
def sortText (alias_ : String) (keys : List String) : String :=
  ", ".intercalate (keys.filterMap (sortClause? alias_))

/-- A keyword and a text, or nothing when there is no text. -/
def optionalClause (keyword text : String) : String :=
  if text.isEmpty then "" else " " ++ keyword ++ " " ++ text

/-- The fields that a statement selects. -/
def selection : Option (List String) → String
  | none | some [] => "*"
  | some fields => ", ".intercalate (fields.map (reference documentAlias))

/-- The text and the parameters of the filter of a query. -/
def whereText (filter : Value) : Except FilterError Statement :=
  if filter.isNull then .ok ⟨"", []⟩
  else (Filter.ofWire filter).map (filterFrom documentAlias 0)

/-! ### Statements -/

/-- **The statement that selects the documents of a query.** -/
def selectStatement (q : Query) : Except FilterError Statement := do
  let w ← whereText q.filter
  let text := "SELECT " ++ selection q.fields ++ " FROM " ++ documentAlias
    ++ optionalClause "WHERE" w.text ++ optionalClause "ORDER BY" (sortText documentAlias q.sort)
  return ⟨text, w.parameters⟩

/-- **The statement that counts the documents of a query.** -/
def countStatement (q : Query) : Except FilterError Statement := do
  let w ← whereText q.filter
  return ⟨"SELECT VALUE COUNT(1) FROM " ++ documentAlias ++ optionalClause "WHERE" w.text,
    w.parameters⟩

/-- The placeholder of a partition value. -/
def partitionPlaceholder : String := "@pKey"

/-- The placeholder of the `n`-th id. -/
def idPlaceholder (n : Nat) : String := "@id" ++ toString n

/-- **The statement that selects documents by their ids**, within the partition whose value is
given, unless that is absent. -/
def idsStatement (ids : List Value) (partitionField : String) (partition : Value) : Statement :=
  let scope := !partition.isNull
  let names := (List.range ids.length).map idPlaceholder
  let conditions :=
    (if scope then [reference documentAlias partitionField ++ " = " ++ partitionPlaceholder]
      else [])
    ++ [reference documentAlias "id" ++ " IN (" ++ ", ".intercalate names ++ ")"]
  ⟨"SELECT * FROM " ++ documentAlias ++ " WHERE " ++ " AND ".intercalate conditions,
    (if scope then [⟨partitionPlaceholder, partition⟩] else [])
      ++ ids.zipIdx.map fun (v, i) => ⟨idPlaceholder i, v⟩⟩

end Sql

end EntityStore
