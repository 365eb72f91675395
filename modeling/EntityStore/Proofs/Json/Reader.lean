import EntityStore.Json.Reader
import EntityStore.Proofs.Store.Run
import Mathlib.Data.List.TakeWhile
import Mathlib.Data.Option.Basic

/-!
# What the JSON reader consumes

Every part of the reader takes at least one character off the text in front of it, and leaves the
end of that text as it is (`Reads`).  Two things follow.  A numeral is refused for its length only
in a text that holds a run of that many digits (`longDigits_of_read`); and since each call goes on
with less, the reader never stops for want of fuel: with more it reads the same (`readValue_more`).
-/

namespace EntityStore.Json

/-- A text holds a run of more digits than a whole number may have. -/
def LongDigits (s : List Char) : Prop :=
  ∃ ds, ds <:+: s ∧ (∀ c ∈ ds, c.isDigit) ∧ maxDigits < ds.length

theorem LongDigits.mono {s t : List Char} (h : s <:+: t) (hs : LongDigits s) : LongDigits t := by
  obtain ⟨ds, hds, hdigits, hlong⟩ := hs
  exact ⟨ds, hds.trans h, hdigits, hlong⟩

/-- One text is what is left of another, of which something has been read. -/
structure LeftOf (s r : List Char) : Prop where
  suffix : r <:+ s
  shorter : r.length < s.length

/-- **What can come of reading the start of a text**: something is read and the rest is left, or
the text is not JSON, or there is a numeral with too many digits in it. -/
inductive Reads {α : Type} (s : List Char) : Except ReadError (α × List Char) → Prop
  | ok {a : α} {r : List Char} (h : LeftOf s r) : Reads s (.ok (a, r))
  | malformed : Reads s (.error .malformed)
  | numeral {e : NumeralError} (h : LongDigits s) : Reads s (.error (.numeral e))

section

variable {α β : Type} {s t r : List Char} {x : Except ReadError (α × List Char)}

theorem LeftOf.trans (h : LeftOf s t) (ht : r <:+ t) : LeftOf s r := by
  have hle := ht.length_le
  have hlt := h.shorter
  exact ⟨ht.trans h.suffix, by omega⟩

theorem LeftOf.cons (c : Char) (h : r <:+ t) : LeftOf (c :: t) r := by
  have hle := h.length_le
  refine ⟨h.trans (List.suffix_cons c t), ?_⟩
  rw [List.length_cons]
  omega

theorem leftOf_tail (c : Char) (t : List Char) : LeftOf (c :: t) t := .cons c (List.suffix_refl t)

theorem skipBlanks_suffix (s : List Char) : skipBlanks s <:+ s := List.dropWhile_suffix _

theorem LeftOf.blanks (h : LeftOf s r) : LeftOf s (skipBlanks r) := h.trans (skipBlanks_suffix r)

/-- Behind blanks there is one more character. -/
theorem LeftOf.behind {c : Char} (h : LeftOf s t) (hc : skipBlanks t = c :: r) : LeftOf s r := by
  have hblanks := h.blanks
  rw [hc] at hblanks
  exact hblanks.trans (List.suffix_cons c r)

/-! ### Reading in steps -/

namespace Reads

/-- What is read of the end of a text. -/
theorem mono (hst : s <:+ t) (h : Reads s x) : Reads t x := by
  cases h with
  | ok h =>
    have hle := hst.length_le
    have hlt := h.shorter
    exact .ok ⟨h.suffix.trans hst, by omega⟩
  | malformed => exact .malformed
  | numeral h => exact .numeral (h.mono hst.isInfix)

/-- Something more is made of what has been read. -/
theorem map (f : α → β) (h : Reads s x) : Reads s (x.map fun p => (f p.1, p.2)) := by
  cases h with
  | ok h => exact .ok h
  | malformed => exact .malformed
  | numeral h => exact .numeral h

/-- **Reading goes on with what has been left.** -/
theorem bind {f : α × List Char → Except ReadError (β × List Char)} (h : Reads s x)
    (hf : ∀ a r, LeftOf s r → Reads s (f (a, r))) : Reads s (x >>= f) := by
  cases h with
  | ok h => exact hf _ _ h
  | malformed => exact .malformed
  | numeral h => exact .numeral h

end Reads

/-! ### Numbers -/

theorem wholePart?_eq_some {whole : List Char} (h : wholePart? s = some (whole, r)) :
    whole ++ r = s ∧ (∀ c ∈ whole, c.isDigit) ∧ whole ≠ [] := by
  unfold wholePart? at h
  split at h
  · cases h
    refine ⟨rfl, fun c hc => ?_, by simp⟩
    rw [List.mem_singleton.1 hc]
    rfl
  · next c t _ =>
    split at h
    · next hc =>
      cases h
      refine ⟨by rw [List.cons_append, List.takeWhile_append_dropWhile], ?_, by simp⟩
      intro d hd
      rcases List.mem_cons.1 hd with rfl | hd
      · exact hc
      · exact List.mem_takeWhile_imp hd
    · cases h
  · cases h

theorem fractionPart?_suffix {fraction : List Char} (h : fractionPart? s = some (fraction, r)) :
    r <:+ s := by
  unfold fractionPart? at h
  split at h
  · next c t =>
    split at h
    · cases h
      have hrest : t.dropWhile Char.isDigit <:+ t := List.dropWhile_suffix _
      exact (hrest.trans (List.suffix_cons c t)).trans (List.suffix_cons '.' _)
    · cases h
  · cases h

theorem signed_suffix (s : List Char) : (Numeral.signed s).2 <:+ s := by
  unfold Numeral.signed
  split
  · exact List.suffix_cons _ _
  · exact List.suffix_cons _ _
  · exact List.suffix_refl _

theorem exponentPart?_suffix {exponent : Int} (h : exponentPart? s = some (exponent, r)) :
    r <:+ s := by
  unfold exponentPart? at h
  split at h
  · next c t =>
    have hsigned := signed_suffix t
    have htail := List.suffix_cons c t
    dsimp only at h
    split_ifs at h
    all_goals
      cases h
      exact ((List.dropWhile_suffix _).trans hsigned).trans htail
  · cases h

/-- A number is made of its parts, unless it is a whole one with too many digits. -/
theorem numberOf_spec (negative : Bool) (whole : List Char) (fraction : Option (List Char))
    (exponent : Option Int) :
    (∃ v, numberOf negative whole fraction exponent = .ok v)
      ∨ ∃ e, numberOf negative whole fraction exponent = .error (.numeral e)
        ∧ maxDigits < whole.length := by
  unfold numberOf
  split
  · by_cases hlong : maxDigits < whole.length
    · rw [if_pos hlong]
      exact .inr ⟨_, rfl, hlong⟩
    · rw [if_neg hlong]
      exact .inl ⟨_, rfl⟩
  · exact .inl ⟨_, rfl⟩

theorem readUnsigned_reads (negative : Bool) (s : List Char) :
    Reads s (readUnsigned negative s) := by
  unfold readUnsigned
  split
  · exact .malformed
  · next whole r hwhole =>
    obtain ⟨hsplit, hdigits, hsome⟩ := wholePart?_eq_some hwhole
    -- Whatever is read behind the whole part, what is left is an end of the text behind it.
    have hnumber : ∀ (fraction : Option (List Char)) (exponent : Option Int) (r' : List Char),
        r' <:+ r → Reads s ((numberOf negative whole fraction exponent).map (·, r')) := by
      intro fraction exponent r' hr'
      rcases numberOf_spec negative whole fraction exponent with ⟨v, hv⟩ | ⟨e, he, hlong⟩
      · rw [hv]
        have hlength := List.length_pos_iff.2 hsome
        have hle := hr'.length_le
        refine .ok ⟨hr'.trans ⟨whole, hsplit⟩, ?_⟩
        rw [← hsplit, List.length_append]
        omega
      · rw [he]
        exact .numeral ⟨whole, ⟨[], r, hsplit⟩, hdigits, hlong⟩
    dsimp only
    cases hfraction : fractionPart? r with
    | none =>
      dsimp only
      cases hexponent : exponentPart? r with
      | none => exact hnumber _ _ _ (List.suffix_refl r)
      | some p => exact hnumber _ _ _ (exponentPart?_suffix hexponent)
    | some p =>
      have hrest := fractionPart?_suffix hfraction
      dsimp only
      cases hexponent : exponentPart? p.2 with
      | none => exact hnumber _ _ _ hrest
      | some q => exact hnumber _ _ _ ((exponentPart?_suffix hexponent).trans hrest)

/-- A word or a number. -/
theorem readAtom_reads (s : List Char) : Reads s (readAtom s) := by
  unfold readAtom
  split
  · next w v hfound =>
    -- None of the words is empty.
    have hnonempty : ∀ p ∈ words, p.1 ≠ [] := by decide
    have hword := hnonempty _ (List.mem_of_find?_eq_some hfound)
    have hprefix := List.find?_some hfound
    have hlength := List.length_pos_iff.2 hword
    have hle := (List.isPrefixOf_iff_prefix.1 hprefix).length_le
    refine .ok ⟨List.drop_suffix _ s, ?_⟩
    rw [List.length_drop]
    dsimp only at hlength hle
    omega
  · split
    · exact (readUnsigned_reads true _).mono (List.suffix_cons _ _)
    · exact readUnsigned_reads false _

/-! ### Strings -/

theorem scanUnits_leftOf {units : List Nat} (h : Text.scanUnits s = some (units, r)) :
    LeftOf s r := by
  induction s using Text.scanUnits.induct generalizing units r with
  -- The text ends before it is closed.
  | case1 => cases h
  | case2 t =>
    cases h
    exact leftOf_tail _ _
  | case3 a b c d t ih =>
    rw [Text.scanUnits] at h
    obtain ⟨n, -, h⟩ := Option.bind_eq_some_iff.1 h
    obtain ⟨⟨ns, rest⟩, hrest, h⟩ := Option.bind_eq_some_iff.1 h
    cases h
    -- An escape of four digits is left out as a whole.
    have hescape : t <:+ 'u' :: a :: b :: c :: d :: t := ⟨['u', a, b, c, d], rfl⟩
    exact .cons _ ((ih hrest).suffix.trans hescape)
  | case4 c t hunit ih =>
    rw [Text.scanUnits] at h
    · obtain ⟨n, -, h⟩ := Option.bind_eq_some_iff.1 h
      obtain ⟨⟨ns, rest⟩, hrest, h⟩ := Option.bind_eq_some_iff.1 h
      cases h
      exact .cons _ ((ih hrest).suffix.trans (List.suffix_cons c t))
    · exact hunit
  | case5 c t hquote hescape _ ih =>
    rw [Text.scanUnits] at h
    · obtain ⟨-, -, h⟩ := Option.bind_eq_some_iff.1 h
      obtain ⟨⟨ns, rest⟩, hrest, h⟩ := Option.bind_eq_some_iff.1 h
      cases h
      exact .cons _ (ih hrest).suffix
    all_goals assumption

theorem readText_reads (s : List Char) : Reads s (readText s) := by
  unfold readText
  split
  · next t r hscan =>
    obtain ⟨⟨units, rest⟩, hunits, heq⟩ := Option.map_eq_some_iff.1 hscan
    cases heq
    exact .ok (scanUnits_leftOf hunits)
  · exact .malformed

theorem readKey_reads (s : List Char) : Reads s (readKey s) := by
  unfold readKey
  split
  · next t =>
    refine Reads.mono (List.suffix_cons _ t) ((readText_reads t).bind fun k r hr => ?_)
    dsimp only
    split
    · next r' hcolon => exact .ok (hr.behind hcolon).blanks
    · exact .malformed
  · exact .malformed

/-! ### Values -/

/-- **Values, items and fields are read in this way**, whatever the fuel. -/
theorem reads (n : Nat) : (∀ s, Reads s (readValue n s)) ∧ (∀ s, Reads s (readItems n s))
    ∧ ∀ s, Reads s (readFields n s) := by
  induction n with
  | zero =>
    refine ⟨fun s => ?_, fun s => ?_, fun s => ?_⟩
    · rw [readValue]
      exact .malformed
    · rw [readItems]
      exact .malformed
    · rw [readFields]
      exact .malformed
  | succ n ih =>
    obtain ⟨hvalue, hitems, hfields⟩ := ih
    refine ⟨fun s => ?_, fun s => ?_, fun s => ?_⟩
    · rw [readValue.eq_def]
      dsimp only
      split
      · -- A text, a list, an object, or else an atom.
        next t => exact ((readText_reads t).mono (List.suffix_cons _ t)).map _
      · next t =>
        have ht := leftOf_tail '[' t
        split
        · next r hclosed => exact .ok (ht.behind hclosed)
        · exact ((hitems _).mono ht.blanks.suffix).map _
      · next t =>
        have ht := leftOf_tail '\x7b' t
        split
        · next r hclosed => exact .ok (ht.behind hclosed)
        · exact ((hfields _).mono ht.blanks.suffix).map fun fields =>
            Value.object (Entries.ofList fields)
      · exact readAtom_reads s
    · -- An item, then the end of the list or more items.
      rw [readItems]
      refine (hvalue s).bind fun v r hr => ?_
      dsimp only
      split
      · next r' hclosed => exact .ok (hr.behind hclosed)
      · next r' hmore =>
        have hnext := (hr.behind hmore).blanks.suffix
        exact ((hitems _).mono hnext).map fun items => v :: items
      · exact .malformed
    · -- A key and its value, then the end of the object or more fields.
      rw [readFields]
      refine (readKey_reads s).bind fun k r hr => ?_
      refine ((hvalue r).mono hr.suffix).bind fun v r' hr' => ?_
      dsimp only
      split
      · next r'' hclosed => exact .ok (hr'.behind hclosed)
      · next r'' hmore =>
        have hnext := (hr'.behind hmore).blanks.suffix
        exact ((hfields _).mono hnext).map fun fields => (k, v) :: fields
      · exact .malformed

/-- **A numeral is refused only in a text with a run of too many digits.** -/
theorem longDigits_of_read {text : String} {e : NumeralError}
    (h : read text = .error (.numeral e)) : LongDigits text.toList := by
  have hblanks := skipBlanks_suffix text.toList
  have hreads := (reads (2 * text.toList.length + 2)).1 (skipBlanks text.toList)
  rcases error_of_bind h with h | ⟨⟨v, r⟩, -, h⟩
  · rw [h] at hreads
    cases hreads with
    | numeral hlong => exact hlong.mono hblanks.isInfix
  · dsimp only at h
    split_ifs at h <;> cases h

/-! ### Fuel -/

/-- Two ways to go on that agree on whatever can be left. -/
theorem Reads.bind_congr {f g : α × List Char → Except ReadError β} (h : Reads s x)
    (hfg : ∀ a r, LeftOf s r → f (a, r) = g (a, r)) : (x >>= f) = (x >>= g) := by
  cases h with
  | ok h => exact hfg _ _ h
  | malformed => rfl
  | numeral => rfl

/-- One more step of fuel changes nothing, once there is enough. -/
theorem read_succ (n : Nat) :
    (∀ s : List Char, 2 * s.length + 1 ≤ n → readValue (n + 1) s = readValue n s)
      ∧ (∀ s : List Char, 2 * s.length + 2 ≤ n → readItems (n + 1) s = readItems n s)
      ∧ ∀ s : List Char, 2 * s.length + 2 ≤ n → readFields (n + 1) s = readFields n s := by
  induction n with
  | zero =>
    refine ⟨fun s h => ?_, fun s h => ?_, fun s h => ?_⟩ <;> omega
  | succ n ih =>
    obtain ⟨hvalue, hitems, hfields⟩ := ih
    refine ⟨fun s h => ?_, fun s h => ?_, fun s h => ?_⟩
    · -- Behind a bracket the text is shorter by one, which makes up for the items' greater need.
      have hinside : ∀ c t, s = c :: t → 2 * (skipBlanks t).length + 2 ≤ n := by
        rintro c t rfl
        have hshorter := (leftOf_tail c t).blanks.shorter
        omega
      rw [readValue.eq_def, readValue.eq_def]
      dsimp only
      split
      · rfl
      · next t =>
        have hrest := hitems _ (hinside _ t rfl)
        generalize skipBlanks t = r at hrest ⊢
        split
        · rfl
        · rw [hrest]
      · next t =>
        have hrest := hfields _ (hinside _ t rfl)
        generalize skipBlanks t = r at hrest ⊢
        split
        · rfl
        · rw [hrest]
      · rfl
    · -- Behind an item and a comma the text is shorter too.
      rw [readItems, readItems, hvalue s (by omega)]
      refine ((reads n).1 s).bind_congr fun v r hr => ?_
      dsimp only
      split
      · rfl
      · next r' hmore =>
        have hshorter := (hr.behind hmore).blanks.shorter
        rw [hitems _ (by omega)]
      · rfl
    · -- Between the key and the value there is a colon, which leaves enough for the value.
      rw [readFields, readFields]
      refine (readKey_reads s).bind_congr fun k r hr => ?_
      have hkey := hr.shorter
      dsimp only
      rw [hvalue r (by omega)]
      refine ((reads n).1 r).bind_congr fun v r' hr' => ?_
      dsimp only
      split
      · rfl
      · next r'' hmore =>
        have hshorter := (hr'.behind hmore).blanks.shorter
        rw [hfields _ (by omega)]
      · rfl

/-- **There is fuel enough**: with more, a value is read as it is with twice its length and one. -/
theorem readValue_more {n : Nat} (h : 2 * s.length + 1 ≤ n) :
    readValue n s = readValue (2 * s.length + 1) s := by
  induction n, h using Nat.le_induction with
  | base => rfl
  | succ n hn ih => rw [(read_succ n).1 s hn, ih]

end

end EntityStore.Json
