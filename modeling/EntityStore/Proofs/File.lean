import EntityStore.File
import Mathlib.Tactic.SplitIfs

/-!
# Texts in files

The bytes of a file are read as a text exactly when they are the UTF-8 form of one
(`Text.decode?_eq_none_iff`).  Why a file cannot be read is told on one line, whatever the path of
the file holds: line feeds are shown by an escape (`FileError.oneLine_message`).
-/

namespace EntityStore

namespace Text

/-! ### Bytes -/

/-- **Bytes that are the UTF-8 form of a text.** -/
def IsUtf8 (bytes : List UInt8) : Prop := ∃ text : String, text.toUTF8 = ⟨bytes.toArray⟩

theorem fromUTF8?_eq_none_iff {b : ByteArray} :
    String.fromUTF8? b = none ↔ ¬ ∃ text : String, text.toUTF8 = b := by
  unfold String.fromUTF8?
  split
  · next hvalid =>
    refine ⟨by rintro ⟨⟩, fun hnone => ?_⟩
    exact absurd ⟨String.fromUTF8 b hvalid, rfl⟩ hnone
  · next hinvalid =>
    refine ⟨fun _ => ?_, fun _ => rfl⟩
    rintro ⟨text, rfl⟩
    exact hinvalid text.isValidUTF8

/-- **Bytes are read as a text when they are the form of one**, and only then. -/
theorem decode?_eq_none_iff {bytes : List UInt8} : decode? bytes = none ↔ ¬ IsUtf8 bytes := by
  rw [decode?, Option.map_eq_none_iff, fromUTF8?_eq_none_iff, IsUtf8]

/-! ### Lines -/

/-- A text without a line feed. -/
def OneLine (s : String) : Prop := '\n' ∉ s.toList

instance (s : String) : Decidable (OneLine s) := inferInstanceAs (Decidable ('\n' ∉ s.toList))

theorem OneLine.append {s t : String} (hs : OneLine s) (ht : OneLine t) : OneLine (s ++ t) := by
  rw [OneLine, String.toList_append, List.mem_append]
  rintro (h | h)
  · exact hs h
  · exact ht h

theorem lineFeed_not_mem_hexDigits (width n : Nat) : '\n' ∉ hexDigits width n := by
  induction width generalizing n with
  | zero => simp [hexDigits]
  | succ w ih =>
    have hdigit : ∀ m < 16, '\n' ≠ hexDigit m := by decide
    rw [hexDigits, List.mem_append, List.mem_singleton]
    rintro (h | h)
    · exact ih _ h
    · exact hdigit _ (Nat.mod_lt n (by decide)) h

/-- A code point is escaped with a letter and digits. -/
theorem lineFeed_not_mem_codePointEscape (n : Nat) : '\n' ∉ codePointEscape n := by
  unfold codePointEscape
  split_ifs <;> simp [lineFeed_not_mem_hexDigits]

/-- No character stands as a line feed between two marks, itself included. -/
theorem lineFeed_not_mem_shownChar {mark : Char} (hmark : mark ≠ '\n') (c : Char) :
    '\n' ∉ shownChar mark c := by
  unfold shownChar
  split_ifs with hescaped hfeed
  · rcases hescaped with rfl | rfl
    · simp [hmark.symm]
    · decide
  · decide
  · decide
  · decide
  · rw [List.mem_singleton]
    exact fun h => hfeed h.symm
  · exact lineFeed_not_mem_codePointEscape _

/-- **A shown text is on one line.** -/
theorem oneLine_shown (s : String) : OneLine (shown s) := by
  have hmark : shownMark s.toList ≠ '\n' := by
    unfold shownMark
    split <;> decide
  rw [OneLine, shown, String.toList_ofList]
  simp only [List.cons_append, List.mem_cons, List.mem_append, List.mem_flatMap, List.not_mem_nil,
    or_false, not_or]
  refine ⟨hmark.symm, ?_, hmark.symm⟩
  rintro ⟨c, -, hc⟩
  exact lineFeed_not_mem_shownChar hmark c hc

end Text

/-- **Why a file cannot be read is told on one line.** -/
theorem FileError.oneLine_message (path : String) (e : FileError) :
    Text.OneLine (e.message path) := by
  refine Text.OneLine.append ?_ (Text.oneLine_shown _)
  cases e <;> decide

end EntityStore
