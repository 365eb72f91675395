import EntityStore.Console.LogLevel
import EntityStore.Console.Printing
import EntityStore.Failure

/-!
# Outcomes

A command ends in one of three ways.  Either the command line was not understood; or the command
came to its end, with an exit code and with what it has printed as its output and as its errors; or
something broke off that nobody had provided for.

Failures of the store are provided for: each has an exit code and is printed as an error.  What breaks
off prints no error, and whatever has been printed until then stays printed.
-/

namespace EntityStore.Console

/-- How a command went, as it is told to whoever has started it. -/
inductive ExitCode where
  | success
  | failure
  | usage
  | notFound
  | configuration
deriving DecidableEq, Repr

namespace ExitCode

/-- The number of an exit code. -/
def toNat : ExitCode → Nat
  | .success => 0
  | .failure => 1
  | .usage => 2
  | .notFound => 3
  | .configuration => 4

/-- **The exit code of a failure of the store.** -/
def ofFailure : Failure → ExitCode
  | .config _ => .configuration
  | .missing _ | .documentNotObject | .partitionRequired .. | .unknownEntity _ => .usage
  | .absent .. => .notFound
  | _ => .failure

end ExitCode

/-- What nobody has provided for: a failure outside of the store, a document that is no object, or a
log level that is none. -/
inductive Breakage where
  | failure (e : Failure)
  | notObject (kind : String)
  | logLevel (e : LogLevelError)

/-- **How a command ends.** -/
inductive Outcome where
  | misunderstood
  | finished (code : ExitCode) (output errors : String)
  | brokenOff (reason : Breakage) (output : String)

namespace Outcome

/-- A command that has printed something and nothing went wrong. -/
def printed (output : String) : Outcome := .finished .success output ""

/-- A command that prints its result and then a notice, unless printing the result stops. -/
def ofPrintout (p : Printout) (notice : String) : Outcome :=
  if p.isWhole then .finished .success p.text notice
  else .brokenOff (.failure (.numeral .unwritable)) p.text

/-- A command that has printed nothing but an error. -/
def failed (code : ExitCode) (message : String) : Outcome := .finished code "" (errorText message)

/-- A command that came to a failure of the store. -/
def ofFailure (e : Failure) : Outcome := .failed (.ofFailure e) e.message

/-- The number that a command exits with. -/
def exitCode : Outcome → Nat
  | .misunderstood => ExitCode.usage.toNat
  | .finished code _ _ => code.toNat
  | .brokenOff .. => ExitCode.failure.toNat

/-- What a command prints as its output. -/
def output : Outcome → String
  | .finished _ output _ | .brokenOff _ output => output
  | .misunderstood => ""

/-- What a command prints as its errors. -/
def errors : Outcome → String
  | .finished _ _ errors => errors
  | _ => ""

end Outcome

end EntityStore.Console
