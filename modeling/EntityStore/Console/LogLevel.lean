/-!
# Log levels

What a command logs is no part of what it prints, so of the option for a log level only this
matters: which levels are refused.  A level is a name, taken in capitals, in the logging library.
A name that is not there stands for the usual level, so that nearly every text will do.  But two
names are there and are no levels, the pattern of a log line and the table of its styles, and with
these a command breaks off before it has begun.
-/

namespace EntityStore.Console

/-- A name in the logging library that is no level. -/
inductive LogLevelError where
  | pattern
  | styles
deriving DecidableEq, Repr

/-- The capitals of a character, if they are ASCII.  Every other character stays as it is. -/
def capitals : Char → List Char
  | 'ß' => ['S', 'S']
  | 'ı' => ['I']
  | 'ſ' => ['S']
  | 'ﬀ' => ['F', 'F']
  | 'ﬁ' => ['F', 'I']
  | 'ﬂ' => ['F', 'L']
  | 'ﬃ' => ['F', 'F', 'I']
  | 'ﬄ' => ['F', 'F', 'L']
  | 'ﬅ' | 'ﬆ' => ['S', 'T']
  | c => [c.toUpper]

/-- **Why a log level is refused**, and `none` for one that is not. -/
def logLevelError? (level : String) : Option LogLevelError :=
  let name := String.ofList (level.toList.flatMap capitals)
  if name = "BASIC_FORMAT" then some .pattern
  else if name = "_STYLES" then some .styles
  else none

end EntityStore.Console
