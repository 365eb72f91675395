import EntityStore.Console.Arguments
import EntityStore.Console.LogLevel
import EntityStore.Number.Numeral
import EntityStore.Settings

/-!
# Commands

A command line begins with options that hold for all commands, which say what database to open and
how to print.  The name of a command follows, and then what that command takes.
`Invocation.parse?` reads it all; it gives no result when the command line is not understood.

The options that hold for all commands are used as soon as the name of the command is known.  So when
the log level among them is refused, what follows the name is never looked at.
-/

namespace EntityStore.Console

/-- The options that hold for all commands. -/
structure Globals where
  endpoint : Option String := none
  key : Option String := none
  database : Option String := none
  containersFile : Option String := none
  autoRegister : Bool := false
  json : Bool := false
deriving DecidableEq, Repr

/-- A filter as it is written on the command line. -/
structure FilterArguments where
  text : Option String := none
  conditions : List String := []
deriving DecidableEq, Repr

/-- Where a document comes from: a text or a file. -/
structure DocumentArguments where
  text : Option String := none
  file : Option String := none
deriving DecidableEq, Repr

/-- What a command line asks for. -/
inductive Command where
  | compile (filter : FilterArguments) (sort : List String) (fields : List String) (count : Bool)
  | get (entity id : String) (partition : Option String)
  | create (entity : String) (id : Option String) (document : DocumentArguments)
  | replace (entity id : String) (document : DocumentArguments)
  | delete (entity id : String) (partition : Option String)
  | readMap (entity : String) (ids : List String) (partition : Option String)
  | query (entity : String) (filter : FilterArguments) (sort : List String)
      (limit : Option Int) (continuation : Option String)
  | count (entity : String) (filter : FilterArguments)
deriving DecidableEq, Repr

/-- A command line that is understood, or has been as far as a log level that is refused. -/
inductive Invocation where
  | version
  | unlogged (e : LogLevelError)
  | command (globals : Globals) (command : Command)
deriving DecidableEq, Repr

/-! ### Options -/

/-- The options that hold for all commands. -/
def globalOptions : List OptionSpec :=
  [{ name := "endpoint" }, { name := "key" }, { name := "database" },
   { name := "containers", letter := some 'c' }, { name := "auto-register", takesValue := false },
   { name := "json", takesValue := false }, { name := "log-level" },
   { name := "version", takesValue := false }]

/-- The options for a filter. -/
def filterOptions : List OptionSpec :=
  [{ name := "filter", letter := some 'f' }, { name := "where", letter := some 'w' }]

/-- The option for sort keys. -/
def sortOption : OptionSpec := { name := "sort", letter := some 's' }

/-- The option for a partition value. -/
def partitionOption : OptionSpec := { name := "pk" }

/-- The options for a document. -/
def documentOptions : List OptionSpec := [{ name := "doc" }, { name := "file" }]

/-! ### What the options say -/

/-- The options that hold for all commands, as they are given. -/
def globalsOf (a : Arguments) : Globals where
  endpoint := a.valueOf? "endpoint"
  key := a.valueOf? "key"
  database := a.valueOf? "database"
  containersFile := a.valueOf? "containers"
  autoRegister := a.isGiven "auto-register"
  json := a.isGiven "json"

/-- The filter, as it is given. -/
def filterOfArguments (a : Arguments) : FilterArguments := ⟨a.valueOf? "filter", a.valuesOf "where"⟩

/-- The document, as it is given. -/
def documentOfArguments (a : Arguments) : DocumentArguments := ⟨a.valueOf? "doc", a.valueOf? "file"⟩

/-- A page size, which has to be a whole number. -/
def limitOf? (a : Arguments) : Option (Option Int) :=
  match a.valueOf? "limit" with
  | none => some none
  | some text =>
    match Numeral.read text with
    | .ok n => some (some n)
    | .error _ => none

/-! ### Commands -/

/-- The names of the commands. -/
def commandNames : List String :=
  ["compile", "get", "create", "replace", "delete", "read-map", "query", "count"]

/-- The arguments of a command with these options. -/
def argumentsOf (specs : List OptionSpec) (rest : List String) : Option Arguments :=
  parseArguments specs false rest

/-- The command of a name. -/
def commandOf? (name : String) (rest : List String) : Option Command := do
  match name with
  | "compile" =>
    let a ← argumentsOf
      (filterOptions ++ [sortOption, { name := "field" }, { name := "count", takesValue := false }])
      rest
    match a.operands with
    | [] =>
      some (.compile (filterOfArguments a) (a.valuesOf "sort") (a.valuesOf "field")
        (a.isGiven "count"))
    | _ => none
  | "get" =>
    let a ← argumentsOf [partitionOption] rest
    match a.operands with
    | [entity, id] => some (.get entity id (a.valueOf? "pk"))
    | _ => none
  | "create" =>
    let a ← argumentsOf ({ name := "id" } :: documentOptions) rest
    match a.operands with
    | [entity] => some (.create entity (a.valueOf? "id") (documentOfArguments a))
    | _ => none
  | "replace" =>
    let a ← argumentsOf documentOptions rest
    match a.operands with
    | [entity, id] => some (.replace entity id (documentOfArguments a))
    | _ => none
  | "delete" =>
    let a ← argumentsOf [partitionOption] rest
    match a.operands with
    | [entity, id] => some (.delete entity id (a.valueOf? "pk"))
    | _ => none
  | "read-map" =>
    let a ← argumentsOf [partitionOption] rest
    match a.operands with
    | entity :: id :: ids => some (.readMap entity (id :: ids) (a.valueOf? "pk"))
    | _ => none
  | "query" =>
    let a ← argumentsOf
      (filterOptions ++ [sortOption, { name := "limit" }, { name := "continuation" }]) rest
    let limit ← limitOf? a
    match a.operands with
    | [entity] =>
      some (.query entity (filterOfArguments a) (a.valuesOf "sort") limit
        (a.valueOf? "continuation"))
    | _ => none
  | "count" =>
    let a ← argumentsOf filterOptions rest
    match a.operands with
    | [entity] => some (.count entity (filterOfArguments a))
    | _ => none
  | _ => none

/-- **What a command line asks for.** -/
def Invocation.parse? (arguments : List String) : Option Invocation := do
  let a ← parseArguments globalOptions true arguments
  if a.isGiven "version" then some .version
  else
    match a.operands with
    | [] => none
    | name :: rest =>
      match (a.valueOf? "log-level").bind logLevelError? with
      | some e => if commandNames.contains name then some (.unlogged e) else none
      | none => (commandOf? name rest).map (.command (globalsOf a))

/-! ### Settings -/

/-- **The settings of a command**: those of the environment, unless an option that is not empty
says otherwise. -/
def Globals.settings (g : Globals) (env : Environment) : Except ConfigError Settings := do
  let base ← Settings.ofEnvironment env
  let given (value : Option String) : Option String := value.filter fun s => !s.isEmpty
  return { base with
    endpoint := (given g.endpoint).or base.endpoint
    key := (given g.key).or base.key
    database := (given g.database).getD base.database
    autoRegister := g.autoRegister || base.autoRegister
    containersFile := (given g.containersFile).or base.containersFile }

/-! ### Files -/

/-- The files of a document. -/
def Command.files : Command → List String
  | .create _ _ document | .replace _ _ document => document.file.toList
  | _ => []

/-- The files that a command line may need, the one of a document and the one of the containers. -/
def Invocation.files (env : Environment) : Invocation → List String
  | .version | .unlogged _ => []
  | .command globals asked =>
    let containers := match globals.settings env with
      | .ok settings => settings.containersFile.toList
      | .error _ => []
    asked.files ++ containers

end EntityStore.Console
