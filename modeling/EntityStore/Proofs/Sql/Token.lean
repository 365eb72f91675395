import EntityStore.Sql.Condition
import EntityStore.Proofs.Text.Quoted

/-!
# The tokens of a statement

`Token.lex` cuts a text into tokens: words, numbers, quoted texts, placeholders, comparators and
punctuation.  Blanks separate tokens and are no part of any.  A quoted text is one token, whatever
stands in it, and its escapes are undone.

A token goes on as far as it can, so where it ends depends on the character behind it.  `Breaks r`
says that `r` begins with none that could belong to the token before it.
-/

namespace EntityStore.Sql

/-- A token of a statement.  The name of a placeholder includes its first character, `@`. -/
inductive Token where
  | word (s : String)
  | number (digits : String)
  | quoted (s : String)
  | placeholder (name : String)
  | comparator (c : Comparator)
  | dot
  | comma
  | star
  | opening
  | closing
  | openingBracket
  | closingBracket
deriving DecidableEq, Repr

namespace Token

/-! ### Cutting a text into tokens -/

/-- The token that a punctuation character is. -/
def punctuation? : Char → Option Token
  | '.' => some .dot
  | ',' => some .comma
  | '*' => some .star
  | '(' => some .opening
  | ')' => some .closing
  | '[' => some .openingBracket
  | ']' => some .closingBracket
  | _ => none

/-- A comparator or a punctuation character, and what follows it. -/
def mark? : Char → List Char → Option (Token × List Char)
  | '!', '=' :: r => some (.comparator .ne, r)
  | '>', '=' :: r => some (.comparator .ge, r)
  | '<', '=' :: r => some (.comparator .le, r)
  | '=', r => some (.comparator .eq, r)
  | '>', r => some (.comparator .gt, r)
  | '<', r => some (.comparator .lt, r)
  | c, r => (punctuation? c).map (·, r)

/-- The token that begins with a character that is not blank, and what follows it. -/
def next? (c : Char) (r : List Char) : Option (Token × List Char) :=
  if c = '"' then (Text.scan r).map fun (s, rest) => (.quoted (String.ofList s), rest)
  else if isIdentifierStart c then
    some (.word (String.ofList (c :: r.takeWhile isIdentifierChar)), r.dropWhile isIdentifierChar)
  else if Text.isDecimalDigit c then
    some (.number (String.ofList (c :: r.takeWhile Text.isDecimalDigit)),
      r.dropWhile Text.isDecimalDigit)
  else if c = '@' then
    some (.placeholder (String.ofList (c :: r.takeWhile isIdentifierChar)),
      r.dropWhile isIdentifierChar)
  else mark? c r

/-- A unit put in front of what is read leaves the rest alone. -/
theorem rest_of_bind {α : Type} {o : Option α} {unit : α → Nat}
    {scanned : Option (List Nat × List Char)} {p : List Nat × List Char}
    (h : (o.bind fun a => scanned.bind fun q => some (unit a :: q.1, q.2)) = some p) :
    ∃ q, scanned = some q ∧ q.2 = p.2 := by
  obtain ⟨a, -, h⟩ := Option.bind_eq_some_iff.1 h
  obtain ⟨q, hq, h⟩ := Option.bind_eq_some_iff.1 h
  cases h
  exact ⟨q, hq, rfl⟩

/-- Reading the inside of a quoted text never makes the rest longer. -/
theorem length_scanUnits {s : List Char} {p : List Nat × List Char}
    (h : Text.scanUnits s = some p) : p.2.length ≤ s.length := by
  fun_induction Text.scanUnits s generalizing p with
  | case1 => cases h
  | case2 s =>
    cases h
    exact Nat.le_succ _
  -- An escape takes more than one character for one unit.
  | case3 a b c d s ih =>
    obtain ⟨q, hs, hp⟩ := rest_of_bind h
    have hle := ih hs
    rw [hp] at hle
    simp only [List.length_cons]
    omega
  | case4 c s _ ih =>
    obtain ⟨q, hs, hp⟩ := rest_of_bind h
    have hle := ih hs
    rw [hp] at hle
    simp only [List.length_cons]
    omega
  | case5 c s _ _ _ ih =>
    obtain ⟨q, hs, hp⟩ := @rest_of_bind _ _ (fun _ => c.toNat) _ _ h
    have hle := ih hs
    rw [hp] at hle
    exact Nat.le_succ_of_le hle

/-- What follows a token is no longer than what followed its first character. -/
theorem length_next? {c : Char} {r rest : List Char} {t : Token}
    (h : next? c r = some (t, rest)) : rest.length ≤ r.length := by
  unfold next? at h
  split_ifs at h
  · obtain ⟨⟨s, q⟩, hs, heq⟩ := Option.map_eq_some_iff.1 h
    cases heq
    obtain ⟨⟨ns, q'⟩, hn, heq⟩ := Option.map_eq_some_iff.1 hs
    cases heq
    exact length_scanUnits hn
  · cases h; exact (List.dropWhile_sublist _).length_le
  · cases h; exact (List.dropWhile_sublist _).length_le
  · cases h; exact (List.dropWhile_sublist _).length_le
  · -- Comparators of two characters take one more off what follows.
    unfold mark? at h
    split at h
    · cases h; exact Nat.le_succ _
    · cases h; exact Nat.le_succ _
    · cases h; exact Nat.le_succ _
    · cases h; exact Nat.le_refl _
    · cases h; exact Nat.le_refl _
    · cases h; exact Nat.le_refl _
    · obtain ⟨t', -, heq⟩ := Option.map_eq_some_iff.1 h
      cases heq
      exact Nat.le_refl _

/-- **The tokens of a text**; `none` when a quoted text is not closed, or a character stands where
no token begins with it. -/
def lex : List Char → Option (List Token)
  | [] => some []
  | c :: r =>
    if c.isWhitespace then lex r
    else
      match _h : next? c r with
      | some (t, rest) => (lex rest).map (t :: ·)
      | none => none
termination_by s => s.length
decreasing_by
  · exact Nat.lt_succ_self _
  · exact Nat.lt_succ_of_le (length_next? _h)

/-- The name of a placeholder, when the token is one. -/
def placeholder? : Token → Option String
  | .placeholder name => some name
  | _ => none

/-- The placeholders among tokens, in order. -/
def placeholders (ts : List Token) : List String := ts.filterMap placeholder?

@[simp] theorem placeholders_nil : placeholders [] = [] := rfl

@[simp] theorem placeholders_append (ts us : List Token) :
    placeholders (ts ++ us) = placeholders ts ++ placeholders us := List.filterMap_append

/-! ### Unfolding -/

theorem lex_blank {c : Char} (hc : c.isWhitespace = true) (r : List Char) :
    lex (c :: r) = lex r := by
  rw [lex, if_pos hc]

theorem lex_cons {c : Char} {r rest : List Char} {t : Token} (hc : c.isWhitespace = false)
    (h : next? c r = some (t, rest)) : lex (c :: r) = (lex rest).map (t :: ·) := by
  rw [lex, hc, if_neg (by decide)]
  split
  · next h' =>
    obtain ⟨rfl, rfl⟩ := Prod.mk.inj (Option.some.inj (h.symm.trans h'))
    rfl
  · next h' => rw [h] at h'; contradiction

/-! ### Where tokens begin and end -/

/-- A decimal digit is an ASCII digit or comes long after ASCII. -/
theorem decimalDigit_range {c : Char} (h : Text.isDecimalDigit c = true) :
    (0x30 ≤ c.toNat ∧ c.toNat < 0x3A) ∨ 0x660 ≤ c.toNat := by
  have far : ∀ z ∈ Text.zeros, z = 0x30 ∨ 0x660 ≤ z := by decide
  rw [Text.isDecimalDigit, Text.decimalDigit?, Option.isSome_map, List.find?_isSome] at h
  obtain ⟨z, hz, hc⟩ := h
  simp only [Bool.and_eq_true, decide_eq_true_eq] at hc
  rcases far z hz with rfl | hz <;> omega

/-- What begins an identifier is a letter or an underscore of ASCII. -/
theorem identifierStart_range {c : Char} (h : isIdentifierStart c = true) :
    0x41 ≤ c.toNat ∧ c.toNat ≤ 0x7A := by
  change (decide (c.val ≥ 'A'.val ∧ c.val ≤ 'Z'.val) || (c.val ≥ 'a'.val && c.val ≤ 'z'.val)
    || decide (c = '_')) = true at h
  rw [Bool.or_eq_true, Bool.or_eq_true, Bool.and_eq_true, decide_eq_true_eq, decide_eq_true_eq,
    decide_eq_true_eq, decide_eq_true_eq] at h
  rcases h with (⟨hlo, hhi⟩ | ⟨hlo, hhi⟩) | rfl
  · have hlo' : 0x41 ≤ c.toNat := UInt32.le_iff_toNat_le.1 hlo
    have hhi' : c.toNat ≤ 0x5A := UInt32.le_iff_toNat_le.1 hhi
    omega
  · have hlo' : 0x61 ≤ c.toNat := UInt32.le_iff_toNat_le.1 hlo
    have hhi' : c.toNat ≤ 0x7A := UInt32.le_iff_toNat_le.1 hhi
    omega
  · decide

/-- A decimal digit does not begin an identifier. -/
theorem not_identifierStart_of_decimalDigit {c : Char} (hc : Text.isDecimalDigit c = true) :
    isIdentifierStart c = false := by
  by_contra h
  rw [Bool.not_eq_false] at h
  have hrange := decimalDigit_range hc
  have hstart := identifierStart_range h
  omega

/-- A blank begins neither an identifier nor a number. -/
theorem not_blank {c : Char} (hc : isIdentifierStart c = true ∨ Text.isDecimalDigit c = true) :
    c.isWhitespace = false := by
  by_contra h
  simp only [Bool.not_eq_false, Char.isWhitespace, Bool.or_eq_true, decide_eq_true_eq] at h
  rcases h with ((rfl | rfl) | rfl) | rfl <;> revert hc <;> decide

/-- Whether a character cannot go on with a word, a number, a placeholder or a comparator. -/
def isBreak (c : Char) : Bool :=
  !isIdentifierChar c && !Text.isDecimalDigit c && c != '='

/-- A text that is empty or begins with a character that goes on with no token. -/
def Breaks (r : List Char) : Prop := ∀ c ∈ r.head?, isBreak c = true

theorem Breaks.nil : Breaks [] := by
  intro c hc
  cases hc

theorem Breaks.cons {c : Char} (hc : isBreak c = true) (r : List Char) : Breaks (c :: r) := by
  intro d hd
  cases hd
  exact hc

/-- A run of characters of a class ends where a character of another class stands. -/
theorem span_eq {p : Char → Bool} {w r : List Char} (hw : ∀ c ∈ w, p c = true)
    (hr : ∀ c ∈ r.head?, p c = false) :
    (w ++ r).takeWhile p = w ∧ (w ++ r).dropWhile p = r := by
  rw [List.takeWhile_append_of_pos hw, List.dropWhile_append_of_pos hw]
  cases r with
  | nil => simp
  | cons c r =>
    have hc : p c = false := hr c rfl
    simp [List.takeWhile, List.dropWhile, hc]

theorem Breaks.identifierChar {r : List Char} (hr : Breaks r) :
    ∀ c ∈ r.head?, isIdentifierChar c = false := by
  intro c hc
  have hb := hr c hc
  simp only [isBreak, Bool.and_eq_true, Bool.not_eq_true'] at hb
  exact hb.1.1

theorem Breaks.decimalDigit {r : List Char} (hr : Breaks r) :
    ∀ c ∈ r.head?, Text.isDecimalDigit c = false := by
  intro c hc
  have hb := hr c hc
  simp only [isBreak, Bool.and_eq_true, Bool.not_eq_true'] at hb
  exact hb.1.2

end Token

end EntityStore.Sql
