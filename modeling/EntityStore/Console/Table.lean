import EntityStore.Value.Shown

/-!
# Tables

A table is printed as a line of headers, a line of dashes and a line per row, all with two spaces
between the columns.  A column is as wide as its widest header or cell, counted in characters, and
every cell is filled up with spaces to the width of its column.

A row may have fewer cells than there are headers and no more.  A table without rows is not
printed at all.
-/

namespace EntityStore.Console

/-- The text of a value in a cell: blank when the value is absent. -/
def cellText (v : Value) : String := if v.isNull then "" else v.text

/-- A text filled up with spaces to a width. -/
def padded (width : Nat) (s : String) : String :=
  s ++ String.ofList (List.replicate (width - s.length) ' ')

/-- The width of the column at `i`, whose header is this. -/
def columnWidth (rows : List (List String)) (header : String) (i : Nat) : Nat :=
  rows.foldl (fun width row => max width (row[i]?.getD "").length) header.length

/-- The widths of all columns. -/
def columnWidths (headers : List String) (rows : List (List String)) : List Nat :=
  headers.zipIdx.map fun (h, i) => columnWidth rows h i

/-- One line of a table. -/
def tableLine (widths : List Nat) (cells : List String) : String :=
  "  ".intercalate ((widths.zip cells).map fun (width, cell) => padded width cell)

/-- The line of dashes. -/
def dashedLine (widths : List Nat) : String :=
  "  ".intercalate (widths.map fun width => String.ofList (List.replicate width '-'))

/-- **The lines of a table**; `none` when a row has more cells than there are headers. -/
def tableLines? (headers : List String) (rows : List (List String)) : Option (List String) :=
  if rows.isEmpty then some []
  else if rows.any fun row => headers.length < row.length then none
  else
    let widths := columnWidths headers rows
    some (tableLine widths headers :: dashedLine widths :: rows.map (tableLine widths))

end EntityStore.Console
