import EntityStore.Console.Table
import EntityStore.Json.Writer

/-!
# Printed results

Every result has two printed forms, one for programs and one for people.  The first is JSON over
several lines.  In the second, documents make a table over all their keys except those that begin
with an underscore, a single document makes a line per field, and lists and objects inside of them
are written as JSON on one line.

Every line ends with a line feed.

Printing stops for good when it comes to a value that cannot be written.  JSON and tables are printed
in one go, and then nothing has been printed; a single document is printed line by line, and then its
first lines have been.  So printing comes to a `Printout`.
-/

namespace EntityStore.Console

/-- Lines, each with its end. -/
def unlines (lines : List String) : String := String.join (lines.map (· ++ "\n"))

/-! ### Printouts -/

/-- **What comes of printing**: a text, and whether it is all that was to be printed. -/
structure Printout where
  text : String
  isWhole : Bool
deriving DecidableEq, Repr

namespace Printout

/-- Prints a text in one go, if what stands in it can be written. -/
def inOneGo (writable : Bool) (text : String) : Printout :=
  if writable then ⟨text, true⟩ else ⟨"", false⟩

/-- Prints one thing and then another. -/
def andThen (p q : Printout) : Printout :=
  if p.isWhole then ⟨p.text ++ q.text, q.isWhole⟩ else p

end Printout

/-- A value as JSON, with the end of the line. -/
def jsonText (v : Value) : Printout := .inOneGo v.isWritable (Json.indented v ++ "\n")

/-- A value as it is put into a cell: lists and objects become their JSON. -/
def cellValue : Value → Value
  | .list items => .str (Json.compact (.list items))
  | .object fields => .str (Json.compact (.object fields))
  | v => v

/-! ### Tables -/

/-- Whether all cells of a table can be written. -/
def areWritableRows (rows : List (List Value)) : Bool := rows.all fun row => row.all Value.isWritable

/-- A table as text; `none` when all cells can be written, but some row has more of them than there
are headers. -/
def tableText? (headers : List String) (rows : List (List Value)) : Option Printout :=
  if areWritableRows rows then
    (tableLines? headers (rows.map fun row => row.map cellText)).map fun lines =>
      .inOneGo true (unlines lines)
  else some (.inOneGo false "")

/-- A table as JSON: a list of objects with the headers as keys. -/
def tableJson (headers : List String) (rows : List (List Value)) : Printout :=
  jsonText (.list (rows.map fun row => .object (Entries.ofList (headers.zip row))))

/-! ### Documents -/

/-- The keys to which those of a further document have been added, each once and none that begins
with an underscore. -/
def addHeaders (headers : List String) (document : Fields) : List String :=
  document.keys.foldl
    (fun headers key =>
      if headers.contains key || key.toList.head? = some '_' then headers else headers ++ [key])
    headers

/-- The headers of the table of some documents. -/
def headersOf (documents : List Fields) : List String := documents.foldl addHeaders []

/-- The row of a document: its values under the headers. -/
def rowOf (headers : List String) (document : Fields) : List Value :=
  headers.map fun h => (document.get? h).getD .null

/-- **Documents as a table.** -/
def documentsText (documents : List Fields) : Printout :=
  let headers := headersOf documents
  let rows := documents.map (rowOf headers)
  let cells := rows.map fun row => row.map fun v => cellText (cellValue v)
  .inOneGo (areWritableRows rows) (unlines ((tableLines? headers cells).getD []))

/-- Documents as JSON. -/
def documentsJson (documents : List Fields) : Printout :=
  jsonText (.list (documents.map .object))

/-- **A document as a line per field.** -/
def objectText : Fields → Printout
  | [] => .inOneGo true ""
  | (k, v) :: r =>
    (Printout.inOneGo v.isWritable (unlines [k ++ ": " ++ (cellValue v).text])).andThen (objectText r)

/-- An error as a line. -/
def errorText (message : String) : String := "Error: " ++ message ++ "\n"

end EntityStore.Console
