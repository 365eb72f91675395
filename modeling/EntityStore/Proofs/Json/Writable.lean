import EntityStore.Json.Reader
import EntityStore.Proofs.Entries
import EntityStore.Proofs.Store.Run
import EntityStore.Value.Shown
import Mathlib.Algebra.Ring.Nat

/-!
# What is read as JSON can be written

Whole numbers of more digits than can be written are not read either.  So every value that a JSON
text denotes can be written (`isWritable_of_read`), and an object that cannot is no JSON object.

The proof follows the reader: whatever one of its parts gives can be written if what it is made of
can (`Only`).  Numbers are where something has to be shown, namely that a number is less than ten to
the power of its digits.
-/

namespace EntityStore

theorem Value.areWritableFields_iff {fields : Fields} :
    Value.areWritableFields fields = true ↔ ∀ p ∈ fields, p.2.isWritable = true := by
  induction fields with
  | nil => simp [Value.areWritableFields]
  | cons p r ih => rw [Value.areWritableFields, Bool.and_eq_true, ih, List.forall_mem_cons]

/-- Fields that are written one after the other are all from the list. -/
theorem Entries.mem_ofList {κ ν : Type} [BEq κ] {l : List (κ × ν)} {p : κ × ν}
    (h : p ∈ Entries.ofList l) : ∃ q ∈ l, p.2 = q.2 := by
  have hfrom (e : Entries κ ν) (hp : p ∈ l.foldl (fun e q => e.put q.1 q.2) e) :
      p ∈ e ∨ ∃ q ∈ l, p.2 = q.2 := by
    clear h
    induction l generalizing e with
    | nil => exact .inl hp
    | cons q r ih =>
      rcases ih _ hp with hput | ⟨q', hq', heq⟩
      · rcases Entries.value_of_mem_put hput with hvalue | hmem
        · exact .inr ⟨q, List.mem_cons_self, hvalue⟩
        · exact .inl hmem
      · exact .inr ⟨q', List.mem_cons_of_mem q hq', heq⟩
  rcases hfrom [] h with hnil | hmem
  · cases hnil
  · exact hmem

/-- **A number is less than ten to the power of its digits.** -/
theorem Text.ofDigits_lt {ds : List Nat} (h : ∀ d ∈ ds, d < 10) :
    Text.ofDigits ds < 10 ^ ds.length := by
  have hfrom (n : Nat) : ds.foldl (fun n d => 10 * n + d) n < (n + 1) * 10 ^ ds.length := by
    induction ds generalizing n with
    | nil => exact Nat.lt_of_lt_of_eq (Nat.lt_succ_self n) (Nat.mul_one _).symm
    | cons d ds ih =>
      obtain ⟨hd, hds⟩ := List.forall_mem_cons.1 h
      have hstep : 10 * n + d + 1 ≤ (n + 1) * 10 := by omega
      rw [List.foldl_cons, List.length_cons, Nat.pow_succ', ← Nat.mul_assoc]
      exact Nat.lt_of_lt_of_le (ih hds _) (Nat.mul_le_mul_right _ hstep)
  exact Nat.lt_of_lt_of_eq (hfrom 0) (Nat.one_mul _)

/-- Digits spell a number that can be written, when there are not too many of them. -/
theorem Numeral.isWritable_ofDigits {ds : List Nat} (h : ∀ d ∈ ds, d < 10)
    (hlength : ds.length ≤ maxDigits) (negative : Bool) :
    Numeral.isWritable (if negative then -(Text.ofDigits ds : Int) else Text.ofDigits ds) = true := by
  have hsize : (if negative then -(Text.ofDigits ds : Int) else Text.ofDigits ds).natAbs
      = Text.ofDigits ds := by
    cases negative <;> simp
  rw [Numeral.isWritable, decide_eq_true_eq, hsize]
  generalize maxDigits = limit at hlength ⊢
  exact Nat.lt_of_lt_of_le (Text.ofDigits_lt h) (Nat.pow_le_pow_right (by decide) hlength)

namespace Json

/-! ### Readers -/

/-- **A reader that gives only what has a property.** -/
def Only {α : Type} (P : α → Prop) (x : Except ReadError (α × List Char)) : Prop :=
  ∀ a r, x = .ok (a, r) → P a

section

variable {α β : Type} {P : α → Prop} {Q : β → Prop} {x : Except ReadError (α × List Char)}

theorem only_error (e : ReadError) : Only P (.error e) := by
  rintro a r ⟨⟩

theorem only_ok {a : α} (h : P a) (r : List Char) : Only P (.ok (a, r)) := by
  rintro a r ⟨⟩
  exact h

theorem Only.map {f : α → β} (h : Only P x) (hf : ∀ a, P a → Q (f a)) :
    Only Q (x.map fun p => (f p.1, p.2)) := by
  intro b r hb
  obtain ⟨⟨a, r'⟩, hx, heq⟩ := ok_of_map hb
  cases heq
  exact hf a (h a r' hx)

theorem Only.bind {f : α × List Char → Except ReadError (β × List Char)} (h : Only P x)
    (hf : ∀ a r, P a → Only Q (f (a, r))) : Only Q (x >>= f) := by
  intro b r hb
  obtain ⟨⟨a, r'⟩, hx, hfb⟩ := ok_of_bind hb
  exact hf a r' (h a r' hx) b r hfb

end

/-! ### Numbers -/

theorem asciiDigit?_lt {c : Char} {d : Nat} (h : Text.asciiDigit? c = some d) : d < 10 := by
  unfold Text.asciiDigit? at h
  split at h
  · next hc =>
    cases h
    rw [Char.isDigit, Bool.and_eq_true, decide_eq_true_eq, decide_eq_true_eq] at hc
    have hhigh : c.toNat ≤ 57 := hc.2
    have hzero : '0'.toNat = 48 := rfl
    omega
  · cases h

/-- A whole number has been read from no more digits than are ever written. -/
theorem isWritable_numberOf {negative : Bool} {whole : List Char} {fraction : Option (List Char)}
    {exponent : Option Int} {v : Value} (h : numberOf negative whole fraction exponent = .ok v) :
    v.isWritable = true := by
  unfold numberOf at h
  split at h
  · split at h
    · cases h
    · next hlength =>
      cases h
      have hdigits : ∀ d ∈ whole.filterMap Text.asciiDigit?, d < 10 := by
        intro d hd
        obtain ⟨c, -, hc⟩ := List.mem_filterMap.1 hd
        exact asciiDigit?_lt hc
      have hle := List.length_filterMap_le Text.asciiDigit? whole
      exact Numeral.isWritable_ofDigits hdigits (by omega) negative
  · cases h
    rfl

theorem only_readUnsigned (negative : Bool) (s : List Char) :
    Only (fun v => v.isWritable = true) (readUnsigned negative s) := by
  unfold readUnsigned
  split
  · exact only_error _
  · intro v r h
    obtain ⟨w, hw, heq⟩ := ok_of_map h
    cases heq
    exact isWritable_numberOf hw

theorem only_readAtom (s : List Char) : Only (fun v => v.isWritable = true) (readAtom s) := by
  unfold readAtom
  split
  · next w v hfound =>
    have hwords : ∀ p ∈ words, p.2.isWritable = true := by
      simp [words, Value.isWritable, Scalar.isWritable]
    refine only_ok ?_ _
    exact hwords _ (List.mem_of_find?_eq_some hfound)
  · split
    · exact only_readUnsigned true _
    · exact only_readUnsigned false _

/-! ### Values -/

/-- **Values, items and fields that are read can be written**, whatever the fuel. -/
theorem only_writable (n : Nat) :
    (∀ s, Only (fun v => v.isWritable = true) (readValue n s))
      ∧ (∀ s, Only (fun items => Value.areWritable items = true) (readItems n s))
      ∧ ∀ s, Only (fun fields => Value.areWritableFields fields = true) (readFields n s) := by
  induction n with
  | zero =>
    refine ⟨fun s => ?_, fun s => ?_, fun s => ?_⟩
    · rw [readValue]
      exact only_error _
    · rw [readItems]
      exact only_error _
    · rw [readFields]
      exact only_error _
  | succ n ih =>
    obtain ⟨hvalue, hitems, hfields⟩ := ih
    refine ⟨fun s => ?_, fun s => ?_, fun s => ?_⟩
    · rw [readValue.eq_def]
      dsimp only
      split
      · -- a text
        intro v r h
        obtain ⟨t, -, heq⟩ := ok_of_map h
        cases heq
        rfl
      · split
        · exact only_ok (by rfl) _
        · exact (hitems _).map fun items h => h
      · split
        · exact only_ok (by rfl) _
        · refine (hfields _).map (f := fun fields => Value.object (Entries.ofList fields))
            fun fields h => ?_
          -- Of fields with one key the last is kept, which is one of those that have been read.
          refine Value.areWritableFields_iff.2 fun p hp => ?_
          obtain ⟨q, hq, heq⟩ := Entries.mem_ofList hp
          rw [heq]
          exact Value.areWritableFields_iff.1 h q hq
      · exact only_readAtom s
    · rw [readItems]
      refine (hvalue s).bind fun v r hv => ?_
      dsimp only
      split
      · exact only_ok (by simp [Value.areWritable, hv]) _
      · refine (hitems _).map fun items h => ?_
        rw [Value.areWritable, hv, h, Bool.and_self]
      · exact only_error _
    · rw [readFields]
      have hkey : Only (fun _ => True) (readKey s) := fun _ _ _ => trivial
      refine hkey.bind fun k r _ => (hvalue r).bind fun v r' hv => ?_
      dsimp only
      split
      · exact only_ok (by simp [Value.areWritableFields, hv]) _
      · refine (hfields _).map fun fields h => ?_
        rw [Value.areWritableFields, hv, h, Bool.and_self]
      · exact only_error _

/-- **What a JSON text denotes can be written.** -/
theorem isWritable_of_read {text : String} {v : Value} (h : read text = .ok v) :
    v.isWritable = true := by
  obtain ⟨⟨w, r⟩, hw, h⟩ := ok_of_bind h
  dsimp only at h
  split at h
  · cases h
    exact (only_writable _).1 _ _ _ hw
  · cases h

/-- **A JSON object** is what some JSON text denotes. -/
def IsObject (fields : Fields) : Prop := ∃ text, read text = .ok (.object fields)

theorem IsObject.isWritable {fields : Fields} (h : IsObject fields) {key : String} {v : Value}
    (hkey : fields.get? key = some v) : v.isWritable = true := by
  obtain ⟨text, htext⟩ := h
  obtain ⟨p, hp, rfl⟩ := Entries.exists_mem_of_get? hkey
  exact Value.areWritableFields_iff.1 (isWritable_of_read htext) p hp

end Json

end EntityStore
