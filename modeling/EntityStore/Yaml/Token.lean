import EntityStore.Number.Numeral
import EntityStore.Time.DateTime

/-!
# YAML tokens

A YAML text is first read as a list of tokens: marks for where a collection begins and ends, for
keys, values and entries, and the scalars with their anchors and tags.  Block collections have no
brackets of their own; the marks for their ends follow from the indentation.
-/

namespace EntityStore.Yaml

/-- Why a text does not give a value.  Most texts that give none are malformed; the other faults
are those of a scalar whose form promises a value that does not exist. -/
inductive Fault where
  | malformed
  | numeral (e : NumeralError)
  | calendar (e : CalendarFault)
  | notNumber (shown : String)
  | unknownWord (shown : String)
  | noNumeral
  | noTimestamp
  | noCharacter
deriving DecidableEq, Repr

/-- The wording of a fault. -/
def Fault.message : Fault → String
  | .malformed => "malformed"
  | .numeral e => e.message
  | .calendar e => e.message
  | .notNumber shown => "could not convert string to float: " ++ shown
  | .unknownWord shown => shown
  | .noNumeral => "string index out of range"
  | .noTimestamp => "'NoneType' object has no attribute 'groupdict'"
  | .noCharacter => "chr() arg not in range(0x110000)"

/-- A directive in front of a document. -/
inductive Directive where
  | version (major minor : Nat)
  | tag (handle start : String)
  | other
deriving DecidableEq, Repr

/-- A token of a YAML text. -/
inductive Token where
  | directive (d : Directive)
  | documentStart
  | documentEnd
  | blockSequenceStart
  | blockMappingStart
  | blockEnd
  | flowSequenceStart
  | flowSequenceEnd
  | flowMappingStart
  | flowMappingEnd
  | flowEntry
  | blockEntry
  | key
  | value
  | alias_ (name : String)
  | anchor (name : String)
  | tag (handle : Option String) (suffix : String)
  | scalar (text : String) (plain : Bool)
deriving DecidableEq, Repr

end EntityStore.Yaml
