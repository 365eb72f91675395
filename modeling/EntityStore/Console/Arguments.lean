/-!
# Arguments

A command line is a list of arguments.  An argument that begins with a hyphen gives options, and
every other one is an operand.  An option has a long name behind two hyphens and perhaps a letter
behind one.  A value is the rest of the argument, behind an equals sign in the case of a long name,
or else the next argument, whatever it looks like.  Letters of options without a value may share a
hyphen.

Two hyphens alone end the options.  `parseArguments` gives no result when an option is not known, or
has a value missing or too many.
-/

namespace EntityStore.Console

/-- An option: its name, its letter if it has one, and whether it takes a value. -/
structure OptionSpec where
  name : String
  letter : Option Char := none
  takesValue : Bool := true
deriving DecidableEq, Repr

/-- Options with their values, in order, and operands. -/
structure Arguments where
  options : List (String × String) := []
  operands : List String := []
deriving DecidableEq, Repr

namespace Arguments

/-- Puts options in front. -/
def withOptions (options : List (String × String)) (a : Arguments) : Arguments :=
  { a with options := options ++ a.options }

/-- Puts an operand in front. -/
def withOperand (operand : String) (a : Arguments) : Arguments :=
  { a with operands := operand :: a.operands }

/-- All values of an option, in order. -/
def valuesOf (a : Arguments) (name : String) : List String :=
  (a.options.filter fun p => p.1 == name).map Prod.snd

/-- The value of an option, the last of several. -/
def valueOf? (a : Arguments) (name : String) : Option String := (a.valuesOf name).getLast?

/-- Whether an option is given. -/
def isGiven (a : Arguments) (name : String) : Bool := a.options.any fun p => p.1 == name

end Arguments

/-- What one argument gives: options, and the name of one whose value is the next argument. -/
structure OptionArgument where
  options : List (String × String)
  pending : Option String
deriving DecidableEq, Repr

/-- The options behind a single hyphen. -/
def readLetters (specs : List OptionSpec) : List Char → Option OptionArgument
  | [] => some ⟨[], none⟩
  | c :: r =>
    match specs.find? fun s => s.letter == some c with
    | none => none
    | some s =>
      if !s.takesValue then
        (readLetters specs r).map fun a => { a with options := (s.name, "") :: a.options }
      else if r.isEmpty then some ⟨[], some s.name⟩
      else some ⟨[(s.name, String.ofList r)], none⟩

/-- The option behind two hyphens. -/
def readLong (specs : List OptionSpec) (s : List Char) : Option OptionArgument :=
  let name := String.ofList (s.takeWhile (· ≠ '='))
  match specs.find? (·.name == name), s.dropWhile (· ≠ '=') with
  | none, _ => none
  | some spec, _ :: value =>
    if spec.takesValue then some ⟨[(name, String.ofList value)], none⟩ else none
  | some spec, [] =>
    if spec.takesValue then some ⟨[], some name⟩ else some ⟨[(name, "")], none⟩

/-- What an argument that begins with a hyphen gives. -/
def readOption (specs : List OptionSpec) : List Char → Option OptionArgument
  | '-' :: '-' :: r => readLong specs r
  | '-' :: r => readLetters specs r
  | _ => none

/-- Whether an argument gives options. -/
def isOption (argument : String) : Bool :=
  argument.toList.head? = some '-' && 1 < argument.length

/-- **The options and operands of a command line.**  With `upToOperand` everything from the first
operand on is left alone. -/
def parseArguments (specs : List OptionSpec) (upToOperand : Bool) :
    List String → Option Arguments
  | [] => some {}
  | argument :: r =>
    if argument = "--" then some { operands := r }
    else if isOption argument then
      match readOption specs argument.toList with
      | none => none
      | some ⟨options, none⟩ => (parseArguments specs upToOperand r).map (.withOptions options)
      | some ⟨options, some name⟩ =>
        match r with
        | [] => none
        | value :: r =>
          (parseArguments specs upToOperand r).map (.withOptions (options ++ [(name, value)]))
    else if upToOperand then some { operands := argument :: r }
    else (parseArguments specs upToOperand r).map (.withOperand argument)

end EntityStore.Console
