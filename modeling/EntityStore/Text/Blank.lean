/-!
# Blank characters

Two sets of characters count as empty space around a text.  `isWhiteSpace` is the Unicode
property `White_Space`; `isBlank` adds to it the four information separators U+001C to U+001F.
Command-line words are separated by blanks, and the text of a number is trimmed of white space.

`trimList` removes a set of characters from both ends, and `splitThree` cuts a text at its first two
runs of blanks, leaving whatever stands in the third part as it is.
-/

namespace EntityStore.Text

/-! ### The two sets -/

/-- The Unicode property `White_Space`. -/
def isWhiteSpace (c : Char) : Bool :=
  let n := c.toNat
  (0x9 ≤ n && n ≤ 0xD) || n == 0x20 || n == 0x85 || n == 0xA0 || n == 0x1680
    || (0x2000 ≤ n && n ≤ 0x200A) || n == 0x2028 || n == 0x2029 || n == 0x202F || n == 0x205F
    || n == 0x3000

/-- White space, and the information separators U+001C to U+001F. -/
def isBlank (c : Char) : Bool :=
  isWhiteSpace c || (0x1C ≤ c.toNat && c.toNat ≤ 0x1F)

/-! ### Trimming -/

/-- Removes from both ends the characters that satisfy `p`. -/
def trimList (p : Char → Bool) (s : List Char) : List Char :=
  ((s.dropWhile p).reverse.dropWhile p).reverse

/-- Whether a text holds nothing but blanks. -/
def isBlankText (s : String) : Bool :=
  s.toList.all isBlank

/-! ### Cutting at blanks -/

/-- The first word of a text and what follows it, leading blanks skipped; `none` when there is no
word. -/
def firstWord? (s : List Char) : Option (List Char × List Char) :=
  match s.dropWhile isBlank with
  | [] => none
  | c :: r => some ((c :: r).takeWhile (!isBlank ·), (c :: r).dropWhile (!isBlank ·))

/-- **The parts of a text cut at its first two runs of blanks.**  The third part keeps every
blank after its first character. -/
def splitThree (s : String) : List String :=
  match firstWord? s.toList with
  | none => []
  | some (a, r) =>
    match firstWord? r with
    | none => [String.ofList a]
    | some (b, r) =>
      match r.dropWhile isBlank with
      | [] => [String.ofList a, String.ofList b]
      | c => [String.ofList a, String.ofList b, String.ofList c]

end EntityStore.Text
