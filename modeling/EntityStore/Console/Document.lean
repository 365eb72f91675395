import EntityStore.Console.Command
import EntityStore.Console.Outcome
import EntityStore.File
import EntityStore.Json.Reader

/-!
# Documents on the command line

A document is given as a JSON text or as the path of a file that holds one.  It is an error of
usage to give both or neither, a file that cannot be read, a text that is not JSON, and JSON that is
not an object.  Two more things can be wrong, and for them nobody has provided: bytes that are not
UTF-8, and an integer with too many digits.
-/

namespace EntityStore.Console

/-- What can be wrong with a document on the command line. -/
inductive DocumentError where
  | notExactlyOne
  | unreadable (path : String) (e : FileError)
  | notJson
  | notObject
  | undecodable
  | numeral (e : NumeralError)
deriving DecidableEq, Repr

/-- How a command ends whose document is wrong. -/
def DocumentError.outcome : DocumentError → Outcome
  | .notExactlyOne => .failed .usage "Exactly one of --doc or --file is required"
  | .unreadable path e => .failed .usage ("Cannot read document: " ++ e.message path)
  | .notJson => .failed .usage "Cannot read document: not valid JSON"
  | .notObject => .failed .usage "Document must be a JSON object"
  | .undecodable => .brokenOff (.failure .undecodable) ""
  | .numeral e => .brokenOff (.failure (.numeral e)) ""

/-- The text that is given, itself or in a file. -/
def DocumentArguments.read (files : FileSystem) (a : DocumentArguments) :
    Except DocumentError String :=
  match a.text, a.file with
  | some text, none => .ok text
  | none, some path =>
    match files (normalPath path) with
    | .error e => .error (.unreadable path e)
    | .ok bytes => (Text.decode? bytes).elim (.error .undecodable) .ok
  | none, none | some _, some _ => .error .notExactlyOne

/-- The object that a JSON text denotes. -/
def documentOfText (text : String) : Except DocumentError Fields :=
  match Json.read text with
  | .ok (.object fields) => .ok fields
  | .ok _ => .error .notObject
  | .error .malformed => .error .notJson
  | .error (.numeral e) => .error (.numeral e)

/-- **The document that is given.** -/
def DocumentArguments.load (files : FileSystem) (a : DocumentArguments) :
    Except DocumentError Fields := do
  documentOfText (← a.read files)

end EntityStore.Console
