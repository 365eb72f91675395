import EntityStore.Console.Conditions
import EntityStore.Console.Document
import EntityStore.Container.Load
import EntityStore.Remote.Trace
import EntityStore.Remote.Wire
import EntityStore.Store.Work

/-!
# Running commands

A `Host` is what a command finds where it runs: environment variables, files, an account of the
service and a backend.  `Host.run` runs a command line on a host.

All that can be told from the command line alone comes first: the document, the filter and the query
are read before anything is opened.  Then the settings are put together, the container file is read
and the database opened, in this order.  The store is closed again whether the call comes to an
answer or to a failure, and only then is anything printed.  Nobody has provided for a result that
cannot be printed: the command then breaks off, although its call has been made.
-/

namespace EntityStore.Console

/-- **What a command finds where it runs.** -/
structure Host (σ κ : Type) where
  environment : Environment
  files : FileSystem
  account : Account σ
  backend : Backend σ κ

/-- The version of the program. -/
def versionText : String := unlines ["docstore 0.1.0"]

/-! ### Queries -/

/-- The filter that is given, or null when there is none. -/
def FilterArguments.read (a : FilterArguments) : Except Outcome Value :=
  match filterOf a.text a.conditions with
  | .ok filter => .ok (filter.getD .null)
  | .error e => .error (.failed .usage e.message)

/-- The query that is given, or the report of its faults. -/
def queryOf (filter : FilterArguments) (sort : List String) (limit : Option Int)
    (continuation : Option String) : Except Outcome Query := do
  let filter ← filter.read
  let fields : Fields :=
    [("filter", filter), ("sort", .list (sort.map .str)),
     ("limit", (limit.map Value.int).getD .null),
     ("continuation_token", .ofText? continuation)]
  (Query.ofValue (.object fields)).mapError fun faults =>
    .failed .usage (Fault.reportAll .query faults)

/-! ### Statements -/

/-- A statement as JSON. -/
def statementJson (s : Statement) : Printout :=
  jsonText (.object [("query", .str s.text), ("parameters", .list (s.parameters.map (·.toValue)))])

/-- A table of parameters; there is none when there are no parameters. -/
def parametersText : List Parameter → Printout
  | [] => .inOneGo true ""
  | ps =>
    let rows := ps.map fun p => [p.name, p.value.shown]
    (Printout.inOneGo true (unlines [""])).andThen
      (.inOneGo (ps.all fun p => p.value.isWritable)
        (unlines ((tableLines? ["name", "value"] rows).getD [])))

/-- A statement as text, with a table of its parameters. -/
def statementText (s : Statement) : Printout :=
  (Printout.inOneGo true (unlines [s.text])).andThen (parametersText s.parameters)

/-- The statement that a command shows. -/
def shownStatement (filter : Value) (sort fields : List String) (count : Bool) :
    Except FilterError Statement :=
  let q : Query := { filter := filter, sort := sort, fields := some fields }
  if count then Sql.countStatement q else Sql.selectStatement q

/-- **Shows the statement of a query**, for which nothing is opened. -/
def compileOutcome (json : Bool) (filter : FilterArguments) (sort fields : List String)
    (count : Bool) : Outcome :=
  match filter.read with
  | .error outcome => outcome
  | .ok filter =>
    match shownStatement filter sort fields count with
    | .error e => .brokenOff (.failure (.filter e)) ""
    | .ok s => .ofPrintout (if json then statementJson s else statementText s) ""

/-! ### Calls -/

/-- **What a command asks of the store**, or how it ends without asking. -/
def Command.call (files : FileSystem) (json : Bool) : Command → Except Outcome Call
  | .compile filter sort fields counting =>
    .error (compileOutcome json filter sort fields counting)
  | .get entity id partition => .ok (.read entity id (.ofText? partition))
  | .create entity id document => do
    let document ← (document.load files).mapError DocumentError.outcome
    return .create entity id (.object document)
  | .replace entity id document => do
    let document ← (document.load files).mapError DocumentError.outcome
    return .replace entity id (.object document)
  | .delete entity id partition => .ok (.delete entity id (.ofText? partition))
  | .readMap entity ids partition =>
    .ok (.readMap entity (.ofText? partition) (.list (ids.map .str)))
  | .query entity filter sort limit continuation => do
    return .query entity (.ready (← queryOf filter sort limit continuation))
  | .count entity filter => do
    return .count entity (.ready (← queryOf filter [] none none))

/-! ### Answers -/

/-- Prints one document. -/
def documentOutcome (json : Bool) (v : Value) : Outcome :=
  if json then .ofPrintout (jsonText v) ""
  else
    match v with
    | .object fields => .ofPrintout (objectText fields) ""
    | v => .brokenOff (.notObject (kindOf v)) ""

/-- Prints the documents found under some ids, and which ids are without one. -/
def documentsOutcome (json : Bool) (ids : List String) (found : Entries String Value) : Outcome :=
  if json then .ofPrintout (jsonText (.object found)) ""
  else
    let documents := ids.filterMap fun id => found.get? id
    let absent := ids.filter fun id => !found.contains id
    .ofPrintout (documentsText (documents.filterMap Value.fields?))
      (if absent.isEmpty then "" else errorText ("Not found: " ++ ", ".intercalate absent))

/-- Prints a page of documents, and the token of the next page. -/
def pageOutcome (json : Bool) (r : QueryResult) : Outcome :=
  if json then .ofPrintout (jsonText r.toValue) ""
  else
    .ofPrintout (documentsText r.items)
      (match r.continuationToken with
        | some token => if token.isEmpty then "" else unlines ["continuation: " ++ token]
        | none => "")

/-- Prints how many documents there are. -/
def countOutcome (json : Bool) (n : Int) : Outcome :=
  .ofPrintout
    (if json then jsonText (.object [("count", .int n)])
      else .inOneGo (Numeral.isWritable n) (unlines [toString n])) ""

/-- **What a command makes of the answer of the store.** -/
def Command.report {κ : Type} (json : Bool) : Command → Answer κ → Outcome
  | .get entity id _, .noDocument => .failed .notFound (entity ++ " '" ++ id ++ "' not found")
  | .delete entity id _, .deleted => .printed (unlines ["Deleted " ++ entity ++ " '" ++ id ++ "'"])
  | .readMap _ ids _, .documents found => documentsOutcome json ids found
  | _, .document v => documentOutcome json v
  | _, .page r => pageOutcome json r
  | _, .count n => countOutcome json n
  | _, _ => .printed ""

/-! ### Running -/

namespace Host

variable {σ κ : Type}

/-- The settings of a command, and the configurations in their container file. -/
def configure (host : Host σ κ) (globals : Globals) :
    Except Failure (Settings × List ContainerConfig) := do
  let settings ← (globals.settings host.environment).mapError .config
  match settings.containersFile with
  | none => return (settings, [])
  | some path => return (settings, ← ContainerConfig.load path (host.files (normalPath path)))

/-- The store with these settings and configurations, whose database is open. -/
def session (settings : Settings) (configs : List ContainerConfig) (s : σ) : Session σ κ where
  router := { registry := Registry.ofList configs settings.autoRegister }
  pageSize := settings.pageSize
  outside := s

/-- **Opens a store, makes a call and closes the store again.** -/
def call (host : Host σ κ) (globals : Globals) (call : Call) (s : σ) :
    Except Failure (Answer κ) × σ :=
  match host.configure globals with
  | .error e => (.error e, s)
  | .ok (settings, configs) =>
    match host.account.openWith settings s with
    | (.error e, s) => (.error e, s)
    | (.ok (), s) =>
      let (answer, session) := call.run host.backend (session settings configs s)
      (answer, (session.close { host.backend with close := host.account.close }).outside)

/-- Runs a command. -/
def perform (host : Host σ κ) (globals : Globals) (command : Command) (s : σ) : Outcome × σ :=
  match command.call host.files globals.json with
  | .error outcome => (outcome, s)
  | .ok call =>
    match host.call globals call s with
    | (.error e, s) => (.ofFailure e, s)
    | (.ok answer, s) => (command.report globals.json answer, s)

/-- **Runs a command line.** -/
def run (host : Host σ κ) (arguments : List String) (s : σ) : Outcome × σ :=
  match Invocation.parse? arguments with
  | none => (.misunderstood, s)
  | some .version => (.printed versionText, s)
  | some (.unlogged e) => (.brokenOff (.logLevel e) "", s)
  | some (.command globals command) => host.perform globals command s

/-- The host with an account and a backend that leave a trace. -/
def traced (host : Host σ κ) : Host (Traced σ) κ :=
  { host with account := host.account.traced, backend := host.backend.traced }

end Host

end EntityStore.Console
