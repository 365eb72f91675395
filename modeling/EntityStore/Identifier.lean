import EntityStore.Text.Quoted

/-!
# Generated ids

A generated id has 128 bits: the time in milliseconds in the first 48, the version 7 in the next
four, the variant `10` in the two bits after the next twelve, and random bits everywhere else.  It
is written in hexadecimal, in groups of 8, 4, 4, 4 and 12 digits.  Ids of different milliseconds
are therefore ordered by time, as numbers and as texts.
-/

namespace EntityStore.Identifier

/-- How many nanoseconds a millisecond has. -/
def nanosecondsPerMillisecond : Int := 1000000

/-- Replaces `width` bits of a number, of which the lowest has the place `low`. -/
def setBits (n low width value : Nat) : Nat :=
  n / Nat.pow 2 (low + width) * Nat.pow 2 (low + width) + value * Nat.pow 2 low + n % Nat.pow 2 low

/-- The bits of the id of a time in nanoseconds and 80 random bits. -/
def bits (time : Int) (random : Nat) : Nat :=
  let milliseconds := (time / nanosecondsPerMillisecond % Nat.pow 2 48).toNat
  setBits (setBits (milliseconds * Nat.pow 2 80 + random % Nat.pow 2 80) 76 4 7) 62 2 2

/-- The text of 128 bits. -/
def text (bits : Nat) : String :=
  let ds := Text.hexDigits 32 bits
  let group (start length : Nat) : String := String.ofList ((ds.drop start).take length)
  "-".intercalate [group 0 8, group 8 4, group 12 4, group 16 4, group 20 12]

/-- **The id generated at a time in nanoseconds** from 80 random bits. -/
def generate (time : Int) (random : Nat) : String :=
  text (bits time random)

end EntityStore.Identifier
