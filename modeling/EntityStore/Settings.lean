import EntityStore.Container.Config
import EntityStore.Number.Numeral

/-!
# Settings

The settings say which database to open and how to use it.  They are read from environment
variables, where an empty variable counts as one that is not set.
-/

namespace EntityStore

/-- Which database to open, and how to use it. -/
structure Settings where
  endpoint : Option String := none
  key : Option String := none
  database : String := "docstore"
  pageSize : Int := 1000
  autoRegister : Bool := false
  containersFile : Option String := none
deriving DecidableEq, Repr

/-- Environment variables and their values. -/
abbrev Environment := Entries String String

namespace Environment

/-- A variable that is set and not empty. -/
def nonEmpty? (env : Environment) (name : String) : Option String :=
  (env.get? name).filter fun s => !s.isEmpty

/-- Whether a variable holds one of the words for yes, in any letter case. -/
def isYes (env : Environment) (name : String) : Bool :=
  match env.get? name with
  | some s => ["1", "true", "yes", "on"].contains s.toLower
  | none => false

end Environment

namespace Settings

/-- The names of all variables that settings are read from. -/
def variableNames : List String :=
  ["DOCSTORE_ENDPOINT", "DOCSTORE_KEY", "DOCSTORE_DATABASE", "DOCSTORE_PAGE_SIZE",
   "DOCSTORE_AUTO_REGISTER", "DOCSTORE_CONTAINERS"]

/-- The page size that a variable asks for. -/
def pageSizeOf : Option String → Except ConfigError Int
  | none => .ok ({} : Settings).pageSize
  | some text =>
    match Numeral.read text with
    | .ok n => if 0 < n then .ok n else .error .pageSizeNotPositive
    | .error _ => .error (.pageSizeNotInteger text)

/-- **The settings that an environment asks for.** -/
def ofEnvironment (env : Environment) : Except ConfigError Settings := do
  let pageSize ← pageSizeOf (env.nonEmpty? "DOCSTORE_PAGE_SIZE")
  return {
    endpoint := env.nonEmpty? "DOCSTORE_ENDPOINT"
    key := env.nonEmpty? "DOCSTORE_KEY"
    database := (env.nonEmpty? "DOCSTORE_DATABASE").getD ({} : Settings).database
    pageSize := pageSize
    autoRegister := env.isYes "DOCSTORE_AUTO_REGISTER"
    containersFile := env.nonEmpty? "DOCSTORE_CONTAINERS" }

end Settings

end EntityStore
