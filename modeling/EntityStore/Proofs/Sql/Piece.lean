import EntityStore.Proofs.Sql.Token
import Mathlib.Data.List.Forall2

/-!
# Pieces of a statement

`Piece s ts` says that a text `s` is cut into the tokens `ts`, whatever is put behind it, as long
as that cannot belong to the last token of `s`; and that each dot among the tokens has a word
behind it that is not reserved.

The tokens of a statement are found piece by piece.  There is one lemma for each kind of token, and
`Piece.append` and `Piece.intercalate` put pieces together.
-/

namespace EntityStore.Sql

open Token

/-- Whether behind each dot stands a word that is not reserved. -/
def dotsFollowed : List Token → Bool
  | [] => true
  | .dot :: .word s :: r => !isReserved s.toList && dotsFollowed r
  | .dot :: _ => false
  | _ :: r => dotsFollowed r

theorem dotsFollowed_cons {t : Token} (ht : t ≠ .dot) (ts : List Token) :
    dotsFollowed (t :: ts) = dotsFollowed ts := by
  cases t <;> first | rfl | contradiction

theorem dotsFollowed_append {ts us : List Token} (ht : dotsFollowed ts = true)
    (hu : dotsFollowed us = true) : dotsFollowed (ts ++ us) = true := by
  fun_induction dotsFollowed ts with
  | case1 => exact hu
  | case2 s r ih =>
    rw [Bool.and_eq_true] at ht
    rw [List.cons_append, List.cons_append, dotsFollowed, ht.1, Bool.true_and]
    exact ih ht.2
  | case3 => contradiction
  | case4 t r h₁ h₂ ih =>
    rw [List.cons_append, dotsFollowed_cons h₂]
    exact ih ht

/-- **A piece of a statement and its tokens.** -/
structure Piece (s : List Char) (ts : List Token) : Prop where
  lex_append : ∀ r, Breaks r → lex (s ++ r) = (lex r).map (ts ++ ·)
  dots : dotsFollowed ts = true

namespace Piece

variable {s s' : List Char} {ts ts' : List Token}

/-- The tokens of a piece that stands alone. -/
theorem lex_eq (h : Piece s ts) : lex s = some ts := by
  have hs := h.lex_append [] Breaks.nil
  rw [List.append_nil] at hs
  rw [hs, lex, Option.map_some, List.append_nil]

/-- A text without characters has no tokens. -/
theorem ne_nil (h : Piece s ts) (hne : ts ≠ []) : s ≠ [] := by
  rintro rfl
  have hlex := h.lex_eq
  rw [lex] at hlex
  exact hne (Option.some.inj hlex).symm

/-! ### One token -/

theorem nil : Piece [] [] where
  lex_append r _ := by cases h : lex r <;> simp [h]
  dots := rfl

/-- A blank in front has no token. -/
theorem blank {c : Char} (hc : c.isWhitespace = true) (h : Piece s ts) : Piece (c :: s) ts where
  lex_append r hr := by rw [List.cons_append, lex_blank hc, h.lex_append r hr]
  dots := h.dots

/-- A punctuation character in front is a token, whatever follows it. -/
theorem mark {c : Char} {t : Token} (hc : c.isWhitespace = false)
    (hn : ∀ r, next? c r = some (t, r)) (ht : t ≠ .dot) (h : Piece s ts) :
    Piece (c :: s) (t :: ts) where
  lex_append r hr := by
    rw [List.cons_append, lex_cons hc (hn (s ++ r)), h.lex_append r hr, Option.map_map]
    rfl
  dots := by rw [dotsFollowed_cons ht, h.dots]

/-- An identifier at the start of a text, which ends where a character breaks it off. -/
theorem lex_word {w r : List Char} (hw : isIdentifierStart (w.headD ' ') = true)
    (hs : ∀ c ∈ w, isIdentifierChar c = true) (hr : Breaks r) :
    lex (w ++ r) = (lex r).map (.word (String.ofList w) :: ·) := by
  cases w with
  | nil => contradiction
  | cons c w =>
    have hstart : isIdentifierStart c = true := hw
    have hne : c ≠ '"' := by rintro rfl; contradiction
    have hspan := span_eq (fun d hd => hs d (List.mem_cons_of_mem c hd)) hr.identifierChar
    have hnext : next? c (w ++ r) = some (.word (String.ofList (c :: w)), r) := by
      rw [next?, if_neg hne, if_pos hstart, hspan.1, hspan.2]
    exact lex_cons (not_blank (.inl hstart)) hnext

/-- A word that stands in a statement as it is. -/
def isWord (w : String) : Bool :=
  isIdentifierStart (w.toList.headD ' ') && w.toList.all isIdentifierChar

theorem word (w : String) (hw : isWord w = true) : Piece w.toList [.word w] where
  lex_append r hr := by
    rw [isWord, Bool.and_eq_true, List.all_eq_true] at hw
    rw [lex_word hw.1 hw.2 hr, String.ofList_toList]
    rfl
  dots := rfl

theorem number {c : Char} {w : List Char} (hs : ∀ d ∈ c :: w, Text.isDecimalDigit d = true) :
    Piece (c :: w) [.number (String.ofList (c :: w))] where
  lex_append r hr := by
    have hc : Text.isDecimalDigit c = true := hs c List.mem_cons_self
    have hne : c ≠ '"' := by rintro rfl; contradiction
    have hspan := span_eq (fun d hd => hs d (List.mem_cons_of_mem c hd)) hr.decimalDigit
    have hnext : next? c (w ++ r) = some (.number (String.ofList (c :: w)), r) := by
      rw [next?, if_neg hne, not_identifierStart_of_decimalDigit hc, if_neg (by decide),
        if_pos hc, hspan.1, hspan.2]
    exact lex_cons (not_blank (.inr hc)) hnext
  dots := rfl

theorem placeholder {w : List Char} (hs : ∀ c ∈ w, isIdentifierChar c = true) :
    Piece ('@' :: w) [.placeholder (String.ofList ('@' :: w))] where
  lex_append r hr := by
    have hspan := span_eq hs hr.identifierChar
    have hnext : next? '@' (w ++ r) = some (.placeholder (String.ofList ('@' :: w)), r) := by
      rw [next?, if_neg (by decide), if_neg (by decide), if_neg (by decide), if_pos rfl, hspan.1,
        hspan.2]
    exact lex_cons rfl hnext
  dots := rfl

/-- **A quoted text is one token**, whatever it holds. -/
theorem quoted (w : List Char) (h : Piece s ts) :
    Piece ('"' :: Text.escape w ++ '"' :: s) (.quoted (String.ofList w) :: ts) where
  lex_append r hr := by
    have hscan := Text.scan_escape w (s ++ r)
    have hnext : next? '"' (Text.escape w ++ '"' :: (s ++ r))
        = some (.quoted (String.ofList w), s ++ r) := by
      rw [next?, if_pos rfl, hscan]
      rfl
    rw [List.append_assoc, List.cons_append, List.cons_append, lex_cons rfl hnext,
      h.lex_append r hr, Option.map_map]
    rfl
  dots := h.dots

/-! ### Putting pieces together -/

/-- The second of two pieces breaks off the first. -/
def Starts (s : List Char) : Prop := s = [] ∨ ∃ c r, s = c :: r ∧ isBreak c = true

theorem Starts.cons {c : Char} (hc : isBreak c = true) (r : List Char) : Starts (c :: r) :=
  .inr ⟨c, r, rfl, hc⟩

theorem Starts.breaks (h : Starts s') {r : List Char} (hr : Breaks r) : Breaks (s' ++ r) := by
  rcases h with rfl | ⟨c, q, rfl, hc⟩
  · exact hr
  · exact Breaks.cons hc (q ++ r)

theorem Starts.append (h : Starts s) (h' : Starts s') : Starts (s ++ s') := by
  rcases h with rfl | ⟨c, r, rfl, hc⟩
  · exact h'
  · exact .inr ⟨c, r ++ s', rfl, hc⟩

theorem append (h : Piece s ts) (h' : Piece s' ts') (hb : Starts s') :
    Piece (s ++ s') (ts ++ ts') where
  lex_append r hr := by
    rw [List.append_assoc, h.lex_append _ (hb.breaks hr), h'.lex_append r hr, Option.map_map]
    congr 1
    funext q
    exact (List.append_assoc ts ts' q).symm
  dots := dotsFollowed_append h.dots h'.dots

/-- A dot and a word that is not reserved. -/
theorem name {w : List Char} (hw : isIdentifierStart (w.headD ' ') = true)
    (hs : ∀ c ∈ w, isIdentifierChar c = true) (hres : isReserved w = false) (h : Piece s ts)
    (hb : Starts s) : Piece ('.' :: w ++ s) (.dot :: .word (String.ofList w) :: ts) where
  lex_append r hr := by
    have hdot : next? '.' (w ++ (s ++ r)) = some (.dot, w ++ (s ++ r)) := rfl
    rw [List.cons_append, List.cons_append, List.append_assoc, lex_cons rfl hdot,
      lex_word hw hs (hb.breaks hr), h.lex_append r hr, Option.map_map, Option.map_map]
    rfl
  dots := by rw [dotsFollowed, String.toList_ofList, hres, h.dots]; rfl

/-- **Joined pieces have joined tokens**, when the separator breaks off the piece before it and is
a token of its own before every piece. -/
theorem intercalate {separator : List Char} {t : Token} (hbreak : isBreak (separator.headD 'x'))
    (hsep : ∀ {s ts}, Piece s ts → Piece (separator ++ s) (t :: ts))
    {ss : List (List Char)} {tss : List (List Token)} (h : List.Forall₂ Piece ss tss) :
    Piece (separator.intercalate ss) ([t].intercalate tss) := by
  induction h with
  | nil => exact nil
  | @cons s ts ss tss hs hss ih =>
    cases hss with
    | nil =>
      rw [List.intercalate_singleton, List.intercalate_singleton]
      exact hs
    | cons _ _ =>
      rw [List.intercalate_cons_cons, List.intercalate_cons_cons, List.append_assoc,
        List.append_assoc]
      cases separator with
      | nil => contradiction
      | cons c q => exact hs.append (hsep ih) (.cons hbreak _)

/-- A word with a blank behind it, in front of a piece. -/
theorem leading (w : String) (hw : isWord w = true) (h : Piece s ts) :
    Piece (w.toList ++ ' ' :: s) (.word w :: ts) :=
  (word w hw).append (blank rfl h) (.cons rfl s)

/-- A word with blanks around it, in front of a piece. -/
theorem keyword (w : String) (hw : isWord w = true) (h : Piece s ts) :
    Piece (' ' :: w.toList ++ ' ' :: s) (.word w :: ts) :=
  blank rfl (leading w hw h)

/-- A comma with a blank behind it, in front of a piece. -/
theorem comma (h : Piece s ts) : Piece (',' :: ' ' :: s) (.comma :: ts) :=
  mark rfl (fun _ => rfl) (by decide) (blank rfl h)

/-- The symbol of a comparator, cut off by a blank. -/
theorem next_symbol (c : Comparator) :
    ∃ d w, c.symbol.toList = d :: w ∧ d.isWhitespace = false
      ∧ ∀ r, next? d (w ++ ' ' :: r) = some (.comparator c, ' ' :: r) := by
  cases c with
  | eq => exact ⟨'=', [], rfl, rfl, fun _ => rfl⟩
  | ne => exact ⟨'!', ['='], rfl, rfl, fun _ => rfl⟩
  | gt => exact ⟨'>', [], rfl, rfl, fun _ => rfl⟩
  | ge => exact ⟨'>', ['='], rfl, rfl, fun _ => rfl⟩
  | lt => exact ⟨'<', [], rfl, rfl, fun _ => rfl⟩
  | le => exact ⟨'<', ['='], rfl, rfl, fun _ => rfl⟩

/-- A comparator with a blank behind it, in front of a piece. -/
theorem comparator (c : Comparator) (h : Piece s ts) :
    Piece (c.symbol.toList ++ ' ' :: s) (.comparator c :: ts) where
  lex_append r hr := by
    obtain ⟨d, w, hw, hd, hnext⟩ := next_symbol c
    have hrest : lex (' ' :: s ++ r) = (lex r).map (ts ++ ·) := (blank rfl h).lex_append r hr
    rw [hw, List.cons_append, List.cons_append, List.append_assoc, List.cons_append,
      lex_cons hd (hnext (s ++ r)), ← List.cons_append, hrest, Option.map_map]
    rfl
  dots := h.dots

/-- A piece in parentheses. -/
theorem enclosed (h : Piece s ts) : Piece ('(' :: s ++ [')']) (.opening :: ts ++ [.closing]) := by
  have hclose : Piece [')'] [.closing] := mark rfl (fun _ => rfl) (by decide) nil
  have hpiece := h.append hclose (.cons rfl [])
  exact mark rfl (fun _ => rfl) (by decide) hpiece

end Piece

end EntityStore.Sql
