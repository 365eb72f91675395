import Mathlib.Tactic.SplitIfs

/-!
# Texts in parts

A text that is cut at a separator has parts.  Every character of the text but a separator stands in
one of them, and the parts hold nothing else.
-/

namespace EntityStore.Text

variable {separator c : Char} {s part : List Char}

/-- A character of a text that is cut is a separator or stands in a part. -/
theorem mem_splitOn (separator : Char) (hc : c ∈ s) :
    c = separator ∨ ∃ part ∈ s.splitOn separator, c ∈ part := by
  induction s with
  | nil => contradiction
  | cons d s ih =>
    obtain ⟨first, rest, hs⟩ := List.exists_cons_of_ne_nil (List.splitOn_ne_nil separator s)
    rw [List.splitOn_cons_eq_if_modifyHead]
    rw [hs] at ih ⊢
    by_cases hd : d = separator
    · -- The text is cut here, so its other parts are as before.
      rw [if_pos (beq_iff_eq.2 hd)]
      rcases List.mem_cons.1 hc with rfl | hc
      · exact .inl hd
      · obtain h | ⟨part, hpart, hmem⟩ := ih hc
        · exact .inl h
        · exact .inr ⟨part, List.mem_cons_of_mem _ hpart, hmem⟩
    · -- The character goes to the first part.
      rw [if_neg (by simpa using hd), List.modifyHead_cons]
      rcases List.mem_cons.1 hc with rfl | hc
      · exact .inr ⟨_, List.mem_cons_self, List.mem_cons_self⟩
      · obtain h | ⟨part, hpart, hmem⟩ := ih hc
        · exact .inl h
        · right
          rcases List.mem_cons.1 hpart with rfl | hpart
          · exact ⟨_, List.mem_cons_self, List.mem_cons_of_mem d hmem⟩
          · exact ⟨part, List.mem_cons_of_mem _ hpart, hmem⟩

/-- What stands in a part stands in the whole. -/
theorem mem_of_mem_splitOn (hpart : part ∈ s.splitOn separator) (hc : c ∈ part) : c ∈ s := by
  induction s generalizing part with
  | nil =>
    rw [List.splitOn_nil, List.mem_singleton] at hpart
    rwa [hpart] at hc
  | cons d s ih =>
    obtain ⟨first, rest, hs⟩ := List.exists_cons_of_ne_nil (List.splitOn_ne_nil separator s)
    rw [List.splitOn_cons_eq_if_modifyHead] at hpart
    rw [hs] at ih hpart
    split_ifs at hpart with hd
    · rcases List.mem_cons.1 hpart with rfl | hpart
      · cases hc
      · exact List.mem_cons_of_mem d (ih hpart hc)
    · rw [List.modifyHead_cons] at hpart
      rcases List.mem_cons.1 hpart with rfl | hpart
      · rcases List.mem_cons.1 hc with rfl | hc
        · exact List.mem_cons_self
        · exact List.mem_cons_of_mem d (ih List.mem_cons_self hc)
      · exact List.mem_cons_of_mem d (ih (List.mem_cons_of_mem _ hpart) hc)

/-- A text without separators in front of another belongs to its first part. -/
theorem splitOn_append (hs : separator ∉ s) (r : List Char) :
    (s ++ r).splitOn separator = (r.splitOn separator).modifyHead (s ++ ·) := by
  induction s with
  | nil => cases h : r.splitOn separator <;> simp [h]
  | cons c s ih =>
    have hc : (c == separator) = false := by
      rw [beq_eq_false_iff_ne]
      rintro rfl
      exact hs List.mem_cons_self
    have hs' : separator ∉ s := fun h => hs (List.mem_cons_of_mem c h)
    rw [List.cons_append, List.splitOn_cons_eq_if_modifyHead, hc, if_neg (by decide), ih hs',
      List.modifyHead_modifyHead]
    rfl

end EntityStore.Text
