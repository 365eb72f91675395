import EntityStore.Sql.Statement
import EntityStore.Proofs.Sql.Piece
import EntityStore.Proofs.Sql.Reader
import EntityStore.Proofs.Text.Split
import Mathlib.Data.List.TakeWhile
import Mathlib.Data.Nat.Init

/-!
# References are read back

A reference leads from a document to a field by a route of accessors: names behind dots, indexes and
quoted texts in brackets.  `routeOf` is the route that a path is written as, and `readReference`
reads a reference.

`Piece.reference` cuts the reference to any path into the tokens of its route, and
`reads_reference` reads them.  So a path, whatever it holds, is one reference and nothing else, and
a name behind a dot is never a reserved word.
-/

namespace EntityStore.Sql

open Token

/-- One step on the way to a field. -/
inductive Accessor where
  | name (s : String)
  | index (digits : String)
  | quoted (s : String)
deriving DecidableEq, Repr

/-- The way from a document to a field. -/
abbrev Route := List Accessor

/-- The tokens of an accessor. -/
def Accessor.tokens : Accessor → List Token
  | .name s => [.dot, .word s]
  | .index digits => [.openingBracket, .number digits, .closingBracket]
  | .quoted s => [.openingBracket, .quoted s, .closingBracket]

/-- The tokens of a reference. -/
def Route.tokens (route : Route) : List Token :=
  .word documentAlias :: route.flatMap Accessor.tokens

/-! ### Reading -/

/-- The accessors at the front, as many as there are. -/
def readRoute : List Token → Route × List Token
  | .dot :: .word s :: r => (.name s :: (readRoute r).1, (readRoute r).2)
  | .openingBracket :: .number digits :: .closingBracket :: r =>
    (.index digits :: (readRoute r).1, (readRoute r).2)
  | .openingBracket :: .quoted s :: .closingBracket :: r =>
    (.quoted s :: (readRoute r).1, (readRoute r).2)
  | r => ([], r)

/-- **Reads a reference.** -/
def readReference : Reader Route
  | .word w :: r => if w = documentAlias then some (readRoute r) else none
  | _ => none

/-- What goes on with a route. -/
def endsRoute (t : Token) : Prop := t ≠ .dot ∧ t ≠ .openingBracket

theorem readRoute_of_follows {r : List Token} (hr : Follows endsRoute r) : readRoute r = ([], r) := by
  cases r with
  | nil => rfl
  | cons t r =>
    obtain ⟨hdot, hbracket⟩ := hr t rfl
    cases t <;> first | rfl | contradiction

/-- **The tokens of a route are read as that route.** -/
theorem reads_reference (route : Route) : Reads endsRoute readReference route.tokens route := by
  intro r hr
  rw [Route.tokens, List.cons_append, readReference, if_pos rfl]
  congr 1
  induction route with
  | nil => exact readRoute_of_follows hr
  | cons a route ih =>
    rw [List.flatMap_cons, List.append_assoc]
    cases a <;> simp only [Accessor.tokens, List.cons_append, List.nil_append, readRoute, ih]

/-! ### The route of a path -/

/-- The bracketed indexes behind the identifier of a segment. -/
def indexRoute (segment : List Char) : Route :=
  (segment.splitOn '[').tail.map fun s => .index (String.ofList (s.takeWhile Text.isDecimalDigit))

/-- The route of a segment. -/
def segmentRoute (segment : List Char) : Route :=
  if followsDot segment then
    .name (String.ofList (segment.takeWhile isIdentifierChar)) :: indexRoute segment
  else if isIndex segment then [.index (String.ofList (segment.takeWhile Text.isDecimalDigit))]
  else [.quoted (String.ofList segment)]

/-- **The route that a path is written as.** -/
def routeOf (path : String) : Route := (path.toList.splitOn '.').flatMap segmentRoute

/-! ### Indexes behind an identifier -/

/-- The index at the front of a text that goes on with one. -/
theorem areIndexes_digits {s : List Char} (h : areIndexes .digits s = true) :
    ∃ ds r, s = ds ++ ']' :: r ∧ (∀ d ∈ ds, Text.isDecimalDigit d = true)
      ∧ areIndexes .between r = true := by
  induction s with
  | nil => contradiction
  | cons c s ih =>
    by_cases hc : c = ']'
    · subst hc
      exact ⟨[], s, rfl, by simp, h⟩
    · rw [areIndexes] at h
      · rw [Bool.and_eq_true] at h
        obtain ⟨ds, r, rfl, hds, hr⟩ := ih h.2
        refine ⟨c :: ds, r, rfl, ?_, hr⟩
        intro d hd
        rcases List.mem_cons.1 hd with rfl | hd
        · exact h.1
        · exact hds d hd
      · exact hc

/-- Indexes are nothing, a line feed, or an index and indexes. -/
theorem areIndexes_between {s : List Char} (h : areIndexes .between s = true) :
    s = [] ∨ s = ['\n'] ∨ ∃ d ds r, s = '[' :: d :: ds ++ ']' :: r
      ∧ (∀ c ∈ d :: ds, Text.isDecimalDigit c = true) ∧ areIndexes .between r = true := by
  rw [areIndexes.eq_def] at h
  split at h
  · exact .inl rfl
  · exact .inr (.inl rfl)
  · next q _ =>
    cases q with
    | nil => contradiction
    | cons d q =>
      rw [areIndexes, Bool.and_eq_true] at h
      obtain ⟨ds, r, rfl, hds, hr⟩ := areIndexes_digits h.2
      refine .inr (.inr ⟨d, ds, r, rfl, ?_, hr⟩)
      intro c hc
      rcases List.mem_cons.1 hc with rfl | hc
      · exact h.1
      · exact hds c hc
  all_goals contradiction

/-- Brackets, digits and a line feed are all that indexes are made of. -/
theorem mem_indexes {state : IndexState} {s : List Char} (h : areIndexes state s = true) {c : Char}
    (hc : c ∈ s) : c = '[' ∨ c = ']' ∨ c = '\n' ∨ Text.isDecimalDigit c = true := by
  fun_induction areIndexes state s with
  | case1 => cases hc
  | case2 => exact .inr (.inr (.inl (List.mem_singleton.1 hc)))
  | case3 r ih =>
    rcases List.mem_cons.1 hc with rfl | hc
    · exact .inl rfl
    · exact ih h hc
  | case4 d r ih | case6 d r _ ih =>
    rw [Bool.and_eq_true] at h
    rcases List.mem_cons.1 hc with rfl | hc
    · exact .inr (.inr (.inr h.1))
    · exact ih h.2 hc
  | case5 r ih =>
    rcases List.mem_cons.1 hc with rfl | hc
    · exact .inr (.inl rfl)
    · exact ih h hc
  | case7 => contradiction

/-- What holds no bracket has no index in it. -/
theorem indexRoute_append {w : List Char} (hw : '[' ∉ w) (r : List Char) :
    indexRoute (w ++ r) = indexRoute r := by
  rw [indexRoute, Text.splitOn_append hw, List.tail_modifyHead, indexRoute]

/-- A text that begins with an index is cut behind it. -/
theorem splitOn_index {ds r first : List Char} {rest : List (List Char)}
    (hds : ∀ c ∈ ds, Text.isDecimalDigit c = true) (hr : r.splitOn '[' = first :: rest) :
    ('[' :: ds ++ ']' :: r).splitOn '[' = [] :: (ds ++ [']'] ++ first) :: rest := by
  have hno : '[' ∉ ds ++ [']'] := by
    intro h
    rcases List.mem_append.1 h with h | h
    · exact absurd (hds _ h) (by decide)
    · simp at h
  have happend := Text.splitOn_append hno r
  rw [hr, List.modifyHead_cons, List.append_assoc, List.singleton_append] at happend
  rw [List.cons_append, List.splitOn_cons_eq_if_modifyHead, if_pos (by decide), happend]

/-- The first index, and those behind it. -/
theorem indexRoute_cons {ds : List Char} (hds : ∀ c ∈ ds, Text.isDecimalDigit c = true)
    (r : List Char) :
    indexRoute ('[' :: ds ++ ']' :: r) = .index (String.ofList ds) :: indexRoute r := by
  obtain ⟨first, rest, hr⟩ := List.exists_cons_of_ne_nil (List.splitOn_ne_nil '[' r)
  have htake : (ds ++ [']'] ++ first).takeWhile Text.isDecimalDigit = ds := by
    rw [List.append_assoc]
    refine (span_eq hds ?_).1
    intro c hc
    cases hc
    decide
  rw [indexRoute, splitOn_index hds hr, List.tail_cons, List.map_cons, htake, indexRoute, hr,
    List.tail_cons]

/-! ### Segments -/

/-- What begins an identifier can stand in one. -/
theorem identifierChar_of_start {c : Char} (hc : isIdentifierStart c = true) :
    isIdentifierChar c = true := by
  rw [isIdentifierStart, Bool.or_eq_true] at hc
  rw [isIdentifierChar, Char.isAlphanum, Bool.or_eq_true, Bool.or_eq_true]
  exact hc.imp_left .inl

/-- A segment that follows a dot is an identifier that is not reserved, and indexes. -/
theorem followsDot_spec {segment : List Char} (h : followsDot segment = true) :
    ∃ w r, segment = w ++ r ∧ isIdentifierStart (w.headD ' ') = true
      ∧ (∀ c ∈ w, isIdentifierChar c = true) ∧ isReserved w = false
      ∧ areIndexes .between r = true := by
  unfold followsDot at h
  split at h
  · next w hw =>
    cases segment with
    | nil => contradiction
    | cons c s =>
      rw [identifier?] at hw
      split_ifs at hw with hc
      cases hw
      rw [Bool.and_eq_true] at hc
      -- The name is as long as it can be, and what is behind it are indexes.
      refine ⟨c :: s.takeWhile isIdentifierChar, s.dropWhile isIdentifierChar, ?_, hc.1, ?_, ?_,
        hc.2⟩
      · rw [List.cons_append, List.takeWhile_append_dropWhile]
      · intro d hd
        rcases List.mem_cons.1 hd with rfl | hd
        · exact identifierChar_of_start hc.1
        · exact List.mem_takeWhile_imp hd
      · rw [Bool.not_eq_true'] at h
        exact h
  · contradiction

/-- A segment that is an index is digits, perhaps with a line feed behind them. -/
theorem isIndex_spec {segment : List Char} (h : isIndex segment = true) :
    ∃ d ds r, segment = d :: ds ++ r ∧ (∀ c ∈ d :: ds, Text.isDecimalDigit c = true)
      ∧ (r = [] ∨ r = ['\n']) := by
  have hspan := List.takeWhile_append_dropWhile (p := Text.isDecimalDigit) (l := segment)
  have hdigits : ∀ c ∈ segment.takeWhile Text.isDecimalDigit, Text.isDecimalDigit c = true :=
    fun c hc => List.mem_takeWhile_imp hc
  -- The first character is a digit, so that there is one at least.
  have hhead : (segment.head?.map Text.isDecimalDigit).getD false = true := by
    unfold isIndex at h
    split at h
    · exact h
    · exact h
    · contradiction
  cases htake : segment.takeWhile Text.isDecimalDigit with
  | nil =>
    cases segment with
    | nil => contradiction
    | cons c s =>
      have hc : Text.isDecimalDigit c = true := hhead
      rw [List.takeWhile_cons_of_pos hc] at htake
      contradiction
  | cons d ds =>
    rw [htake] at hspan hdigits
    refine ⟨d, ds, segment.dropWhile Text.isDecimalDigit, hspan.symm, hdigits, ?_⟩
    unfold isIndex at h
    split at h
    · next hr => exact .inl hr
    · next hr => exact .inr hr
    · contradiction

/-- Indexes go on with no identifier. -/
theorem areIndexes_breaks {s : List Char} (h : areIndexes .between s = true) : Breaks s := by
  rcases areIndexes_between h with rfl | rfl | ⟨d, ds, r, rfl, -, -⟩
  · exact Breaks.nil
  · exact Breaks.cons (by decide) _
  · exact Breaks.cons (by decide) _

/-! ### The tokens of a reference -/

namespace Piece

/-- The indexes behind an identifier. -/
theorem indexes {s : List Char} (h : areIndexes .between s = true) :
    Piece s ((indexRoute s).flatMap Accessor.tokens) ∧ Starts s := by
  -- An index is any number of characters, so the induction is on the length.
  induction hn : s.length using Nat.strong_induction_on generalizing s with
  | _ n ih =>
  rcases areIndexes_between h with rfl | rfl | ⟨d, ds, r, rfl, hds, hr⟩
  · exact ⟨nil, .inl rfl⟩
  · exact ⟨blank rfl nil, .cons (by decide) _⟩
  · have hlen : r.length < n := by
      rw [← hn]
      simp only [List.length_append, List.length_cons]
      omega
    obtain ⟨hrest, hstart⟩ := ih r.length hlen hr rfl
    have hclose : Piece (']' :: r) (.closingBracket :: (indexRoute r).flatMap Accessor.tokens) :=
      mark rfl (fun _ => rfl) (by decide) hrest
    have hnumber := (number hds).append hclose (.cons (by decide) _)
    rw [indexRoute_cons hds r]
    exact ⟨mark rfl (fun _ => rfl) (by decide) hnumber, .cons (by decide) _⟩

/-- **The accessor of a segment**, which breaks off whatever stands before it. -/
theorem accessor (segment : List Char) :
    Piece (Sql.accessor segment) ((segmentRoute segment).flatMap Accessor.tokens)
      ∧ Starts (Sql.accessor segment) := by
  unfold Sql.accessor segmentRoute
  split_ifs with hdot hindex
  · -- A name behind a point, with the indexes behind it.
    obtain ⟨w, r, rfl, hstart, hchars, hres, hr⟩ := followsDot_spec hdot
    obtain ⟨hindexes, hbreak⟩ := indexes hr
    have hno : '[' ∉ w := fun h => absurd (hchars _ h) (by decide)
    have htake : (w ++ r).takeWhile isIdentifierChar = w :=
      (span_eq hchars (areIndexes_breaks hr).identifierChar).1
    rw [htake, indexRoute_append hno]
    exact ⟨name hstart hchars hres hindexes hbreak, .cons (by decide) _⟩
  · obtain ⟨d, ds, r, rfl, hds, hr⟩ := isIndex_spec hindex
    -- A line feed behind the digits is written into the brackets, where it is a blank.
    have hclose : Piece (r ++ [']']) [.closingBracket] ∧ Starts (r ++ [']']) := by
      have hbracket : Piece [']'] [.closingBracket] := mark rfl (fun _ => rfl) (by decide) nil
      rcases hr with rfl | rfl
      · exact ⟨hbracket, .cons (by decide) _⟩
      · exact ⟨blank rfl hbracket, .cons (by decide) _⟩
    have htake : (d :: ds ++ r).takeWhile Text.isDecimalDigit = d :: ds := by
      refine (span_eq hds ?_).1
      rintro c hc
      rcases hr with rfl | rfl <;> cases hc
      decide
    rw [htake, List.cons_append, List.append_assoc]
    exact ⟨mark rfl (fun _ => rfl) (by decide) ((number hds).append hclose.1 hclose.2),
      .cons (by decide) _⟩
  · -- Anything else stands in quotes in the brackets.
    exact ⟨mark rfl (fun _ => rfl) (by decide) (quoted segment
      (mark rfl (fun _ => rfl) (by decide) nil)), .cons (by decide) _⟩

/-- The accessors of a list of segments. -/
theorem accessors (segments : List (List Char)) :
    Piece (segments.flatMap Sql.accessor)
        ((segments.flatMap segmentRoute).flatMap Accessor.tokens)
      ∧ Starts (segments.flatMap Sql.accessor) := by
  induction segments with
  | nil => exact ⟨nil, .inl rfl⟩
  | cons segment segments ih =>
    obtain ⟨hfirst, hstart⟩ := accessor segment
    rw [List.flatMap_cons, List.flatMap_cons, List.flatMap_append]
    refine ⟨hfirst.append ih.1 ih.2, ?_⟩
    rcases hstart with h | ⟨c, r, h, hc⟩
    · rw [h]
      exact ih.2
    · rw [h]
      exact .inr ⟨c, _, rfl, hc⟩

/-- **The tokens of the reference to a path**, whatever the path holds. -/
theorem reference (path : String) :
    Piece (Sql.reference documentAlias path).toList (routeOf path).tokens := by
  obtain ⟨haccessors, hstart⟩ := accessors (path.toList.splitOn '.')
  have halias : Piece documentAlias.toList [.word documentAlias] :=
    word documentAlias (by decide)
  rw [Sql.reference, String.toList_append, String.toList_ofList]
  exact halias.append haccessors hstart

end Piece

end EntityStore.Sql
