import EntityStore.Text.Shown

/-!
# Files

What a file holds is a list of bytes, or the reason for which it cannot be read.  A text file is in
UTF-8, and its lines may end in a line feed, a carriage return or both; read as text, all of them
end in a line feed.
-/

namespace EntityStore

/-- Why a file cannot be read. -/
inductive FileError where
  | missing
  | directory
  | notDirectory
  | forbidden
deriving DecidableEq, Repr

/-- What a file holds. -/
abbrev FileContent := Except FileError (List UInt8)

/-- The files of a system by their normal paths. -/
abbrev FileSystem := String → FileContent

/-- A path without empty parts and parts that are a single point; `.` when nothing is left. -/
def normalPath (path : String) : String :=
  let s := path.toList
  let parts := (s.splitOn '/').filter fun part => part ≠ [] ∧ part ≠ ['.']
  let root := s.takeWhile (· = '/')
  let start := if root.length = 2 then root else root.take 1
  if start.isEmpty && parts.isEmpty then "."
  else String.ofList (start ++ ['/'].intercalate parts)

/-- The wording of the reason for which the file at a path cannot be read. -/
def FileError.message (path : String) (e : FileError) : String :=
  let reason := match e with
    | .missing => "[Errno 2] No such file or directory: "
    | .directory => "[Errno 21] Is a directory: "
    | .notDirectory => "[Errno 20] Not a directory: "
    | .forbidden => "[Errno 13] Permission denied: "
  reason ++ Text.shown (normalPath path)

namespace Text

/-- A text whose lines all end in a line feed. -/
def unifyLineEnds : List Char → List Char
  | '\r' :: '\n' :: r => '\n' :: unifyLineEnds r
  | '\r' :: r => '\n' :: unifyLineEnds r
  | c :: r => c :: unifyLineEnds r
  | [] => []

/-- **The text that bytes hold**; `none` when they are not UTF-8. -/
def decode? (bytes : List UInt8) : Option String :=
  (String.fromUTF8? ⟨bytes.toArray⟩).map fun s => String.ofList (unifyLineEnds s.toList)

end Text

end EntityStore
