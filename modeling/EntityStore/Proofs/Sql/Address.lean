import EntityStore.Proofs.Number.Numeral
import EntityStore.Proofs.Sql.Reference

/-!
# Paths and the fields that references address

A path asks for a field by an address, a list of properties to go to and of elements to pick
(`addressOf`).  Its segments are cut at dots.  A segment that is an identifier with indexes in
brackets asks for the property of that name and for these elements, a segment of digits for an
element, and any other for the property that is called like the segment, character for character.

The reference to a path is read as an address too (`addressed?`), and `addressed_reference` compares
the two.  They are the same exactly when the reference goes astray at no segment, and it goes astray
at two kinds of segments (`goesAstray`).  Some segments stand in the reference as they are although
they are no ASCII identifiers or numerals: a line feed at the end is passed over, and digits of other
scripts are taken for digits.  And a reserved word with an index behind it is quoted as a whole, so
that the index becomes part of the name.
-/

namespace EntityStore.Sql

open Token

/-- One step of an address. -/
inductive Selector where
  | property (name : String)
  | element (index : Nat)
deriving DecidableEq, Repr

/-! ### What a path asks for -/

/-- Whether a text is an identifier. -/
def isIdentifier (s : List Char) : Bool :=
  isIdentifierStart (s.headD ' ') && s.all isIdentifierChar

/-- The number that a text of ASCII digits spells; `none` for any other text. -/
def numeral? (s : List Char) : Option Nat :=
  if s ≠ [] ∧ s.all Char.isDigit then some (Text.ofDigits (s.filterMap Text.asciiDigit?)) else none

/-- The index that a text spells, digits and a closing bracket. -/
def subscript? (s : List Char) : Option Nat :=
  if s.getLast? = some ']' then numeral? s.dropLast else none

/-- What a segment asks for that is an identifier with indexes in brackets. -/
def subscripted? (segment : List Char) : Option (List Selector) :=
  match segment.splitOn '[' with
  | [] => none
  | w :: rest =>
    if isIdentifier w ∧ rest.all (subscript? · |>.isSome) then
      some (.property (String.ofList w) :: rest.filterMap (subscript? · |>.map .element))
    else none

/-- **What a segment of a path asks for.** -/
def selectorsOf (segment : List Char) : List Selector :=
  match subscripted? segment, numeral? segment with
  | some selectors, _ => selectors
  | none, some index => [.element index]
  | none, none => [.property (String.ofList segment)]

/-- **What a path asks for.** -/
def addressOf (path : String) : List Selector := (path.toList.splitOn '.').flatMap selectorsOf

/-! ### What a reference addresses -/

/-- The step that an accessor makes.  Digits count in whatever script they are. -/
def Accessor.selector : Accessor → Selector
  | .name s | .quoted s => .property s
  | .index digits => .element (Text.ofDigits (digits.toList.filterMap Text.decimalDigit?))

/-- **What a reference addresses**; `none` when the text is not a reference. -/
def addressed? (text : String) : Option (List Selector) := do
  let ts ← Token.lex text.toList
  let (route, r) ← readReference ts
  if r.isEmpty then some (route.map Accessor.selector) else none

theorem addressed?_reference (path : String) :
    addressed? (reference documentAlias path) = some ((routeOf path).map Accessor.selector) := by
  have hlex := (Piece.reference path).lex_eq
  have hread := reads_reference (routeOf path) [] (Follows.nil _)
  rw [List.append_nil] at hread
  rw [addressed?, hlex]
  simp [hread]

/-! ### Where a reference goes astray -/

/-- Whether a character is one of ASCII and no line feed. -/
def isPlain (c : Char) : Bool := c != '\n' && c.toNat < 0x80

/-- **Whether the reference to a path goes astray at a segment.**  A segment that stands in the
reference as it is does when a line feed or a digit of another script is in it, and a segment that is
quoted does when it asks for elements.  A name with indexes that is quoted is a reserved word. -/
def goesAstray (segment : List Char) : Bool :=
  if followsDot segment || isIndex segment then !segment.all isPlain
  else 1 < (selectorsOf segment).length

/-- Whether the reference to a path goes astray at no segment. -/
def isStraight (path : String) : Bool := (path.toList.splitOn '.').all (!goesAstray ·)

theorem isPlain_of_identifierChar {c : Char} (hc : isIdentifierChar c = true) :
    isPlain c = true := by
  have hcases : isIdentifierStart c = true ∨ c.isDigit = true := by
    simp only [isIdentifierChar, isIdentifierStart, Char.isAlphanum, Bool.or_eq_true] at hc ⊢
    tauto
  have hrange : 0x30 ≤ c.toNat ∧ c.toNat ≤ 0x7A := by
    rcases hcases with hstart | hdigit
    · have := identifierStart_range hstart
      omega
    · have := Numeral.toNat_of_isDigit hdigit
      omega
  have hne : c ≠ '\n' := by
    rintro rfl
    exact absurd hrange.1 (by decide)
  simp only [isPlain, Bool.and_eq_true, bne_iff_ne, decide_eq_true_eq]
  exact ⟨hne, by omega⟩

theorem isPlain_of_isDigit {c : Char} (hc : c.isDigit = true) : isPlain c = true := by
  apply isPlain_of_identifierChar
  simp [isIdentifierChar, Char.isAlphanum, hc]

/-- A decimal digit of ASCII is one of the ten. -/
theorem isDigit_of_isPlain {c : Char} (hc : Text.isDecimalDigit c = true)
    (hplain : isPlain c = true) : c.isDigit = true := by
  simp only [isPlain, Bool.and_eq_true, decide_eq_true_eq] at hplain
  have hrange := decimalDigit_range hc
  have hlow : '0'.toNat ≤ c.toNat := by
    show 48 ≤ c.toNat
    omega
  have hhigh : c.toNat ≤ '9'.toNat := by
    show c.toNat ≤ 57
    omega
  rw [Char.isDigit, Bool.and_eq_true, decide_eq_true_eq, decide_eq_true_eq]
  exact ⟨UInt32.le_iff_toNat_le.2 hlow, UInt32.le_iff_toNat_le.2 hhigh⟩

/-! ### Numerals and indexes -/

theorem numeral?_eq_some {s : List Char} (hne : s ≠ []) (hs : ∀ c ∈ s, c.isDigit = true) :
    numeral? s = some (Text.ofDigits (s.filterMap Text.decimalDigit?)) := by
  have hvalues : s.filterMap Text.asciiDigit? = s.filterMap Text.decimalDigit? := by
    apply List.filterMap_congr
    intro c hc
    rw [Numeral.decimalDigit?_of_isDigit (hs c hc), Text.asciiDigit?, if_pos (hs c hc)]
  rw [numeral?, if_pos ⟨hne, List.all_eq_true.2 hs⟩, hvalues]

theorem isDigit_of_numeral? {s : List Char} (h : (numeral? s).isSome = true) :
    s ≠ [] ∧ ∀ c ∈ s, c.isDigit = true := by
  unfold numeral? at h
  split_ifs at h with hs
  · exact ⟨hs.1, List.all_eq_true.1 hs.2⟩
  · contradiction

theorem subscript?_digits {ds : List Char} (hne : ds ≠ []) (hds : ∀ c ∈ ds, c.isDigit = true) :
    subscript? (ds ++ [']']) = some (Text.ofDigits (ds.filterMap Text.decimalDigit?)) := by
  rw [subscript?, List.getLast?_concat, if_pos rfl, List.dropLast_concat, numeral?_eq_some hne hds]

/-- What spells an index is plain. -/
theorem isPlain_of_subscript? {s : List Char} (h : (subscript? s).isSome = true) :
    ∀ c ∈ s, isPlain c = true := by
  unfold subscript? at h
  split_ifs at h with hlast
  · intro c hc
    have hsplit := List.dropLast_append_getLast? _ hlast
    rw [← hsplit, List.mem_append, List.mem_singleton] at hc
    rcases hc with hc | rfl
    · exact isPlain_of_isDigit ((isDigit_of_numeral? h).2 c hc)
    · decide
  · contradiction

/-! ### Segments that are identifiers with indexes -/

/-- What is known of a segment that is an identifier with indexes. -/
theorem subscripted?_spec {segment : List Char} {selectors : List Selector}
    (h : subscripted? segment = some selectors) :
    ∃ w rest, segment.splitOn '[' = w :: rest ∧ isIdentifier w = true
      ∧ (∀ s ∈ rest, (subscript? s).isSome = true)
      ∧ selectors = .property (String.ofList w)
        :: rest.filterMap (subscript? · |>.map .element) := by
  unfold subscripted? at h
  split at h
  · contradiction
  · next w rest hsplit =>
    split_ifs at h with hcond
    cases h
    exact ⟨w, rest, hsplit, hcond.1, List.all_eq_true.1 hcond.2, rfl⟩

/-- Such a segment is plain. -/
theorem isPlain_of_subscripted? {segment : List Char} {selectors : List Selector}
    (h : subscripted? segment = some selectors) : ∀ c ∈ segment, isPlain c = true := by
  obtain ⟨w, rest, hsplit, hword, hrest, -⟩ := subscripted?_spec h
  intro c hc
  obtain rfl | ⟨part, hpart, hmem⟩ := Text.mem_splitOn '[' hc
  · decide
  · rw [hsplit] at hpart
    rcases List.mem_cons.1 hpart with rfl | hpart
    · rw [isIdentifier, Bool.and_eq_true] at hword
      exact isPlain_of_identifierChar (List.all_eq_true.1 hword.2 c hmem)
    · exact isPlain_of_subscript? (hrest part hpart) c hmem

/-- **The indexes behind an identifier**, as long as they are plain, are those of the route. -/
theorem splitOn_indexes {r : List Char} (h : areIndexes .between r = true)
    (hplain : ∀ c ∈ r, isPlain c = true) :
    ∃ rest, r.splitOn '[' = [] :: rest ∧ (∀ s ∈ rest, (subscript? s).isSome = true)
      ∧ (indexRoute r).map Accessor.selector = rest.filterMap (subscript? · |>.map .element) := by
  -- An index is any number of characters, so the induction is on the length.
  induction hn : r.length using Nat.strong_induction_on generalizing r with
  | _ n ih =>
  rcases areIndexes_between h with rfl | rfl | ⟨d, ds, q, rfl, hds, hq⟩
  · exact ⟨[], rfl, by simp, rfl⟩
  · exact absurd (hplain '\n' List.mem_cons_self) (by decide)
  · have hlength : q.length < n := by
      rw [← hn]
      simp only [List.length_append, List.length_cons]
      omega
    have hplainRest : ∀ c ∈ q, isPlain c = true := fun c hc => hplain c (by simp [hc])
    -- The index in front is cut off, and what is behind it is a sequence of indexes again.
    obtain ⟨rest, hsplit, hrest, hroute⟩ := ih q.length hlength hq hplainRest rfl
    have hdigits : ∀ c ∈ d :: ds, c.isDigit = true := by
      intro c hc
      refine isDigit_of_isPlain (hds c hc) (hplain c ?_)
      simp only [List.cons_append, List.mem_cons, List.mem_append] at hc ⊢
      tauto
    have hindex := subscript?_digits (List.cons_ne_nil d ds) hdigits
    have hsplit' := splitOn_index hds hsplit
    rw [List.append_nil] at hsplit'
    refine ⟨(d :: ds ++ [']']) :: rest, hsplit', ?_, ?_⟩
    · intro s hs
      rcases List.mem_cons.1 hs with rfl | hs
      · rw [hindex]
        rfl
      · exact hrest s hs
    · rw [indexRoute_cons hds, List.map_cons, hroute, List.filterMap_cons, hindex,
        Accessor.selector, String.toList_ofList]
      rfl

/-- A segment that follows a dot and is plain asks for what its accessors address. -/
theorem subscripted?_of_followsDot {segment : List Char} (h : followsDot segment = true)
    (hplain : ∀ c ∈ segment, isPlain c = true) :
    subscripted? segment = some ((segmentRoute segment).map Accessor.selector) := by
  rw [segmentRoute, if_pos h]
  obtain ⟨w, r, rfl, hstart, hchars, -, hr⟩ := followsDot_spec h
  have hno : '[' ∉ w := fun hmem => absurd (hchars _ hmem) (by decide)
  have htake : (w ++ r).takeWhile isIdentifierChar = w :=
    (span_eq hchars (areIndexes_breaks hr).identifierChar).1
  obtain ⟨rest, hsplit, hrest, hroute⟩ :=
    splitOn_indexes hr fun c hc => hplain c (List.mem_append_right w hc)
  have hword : isIdentifier w = true := by
    rw [isIdentifier, hstart, Bool.true_and, List.all_eq_true]
    exact hchars
  rw [subscripted?, Text.splitOn_append hno, hsplit, List.modifyHead_cons, List.append_nil]
  dsimp only
  rw [if_pos ⟨hword, List.all_eq_true.2 hrest⟩, htake, indexRoute_append hno, List.map_cons, hroute]
  rfl

/-- A segment of digits is no identifier. -/
theorem subscripted?_digits {segment : List Char} (hne : segment ≠ [])
    (hs : ∀ c ∈ segment, c.isDigit = true) : subscripted? segment = none := by
  have hno : '[' ∉ segment := fun hmem => absurd (hs _ hmem) (by decide)
  have hword : isIdentifier segment = false := by
    cases segment with
    | nil => contradiction
    | cons c r =>
      have hdigit : Text.isDecimalDigit c = true := by
        rw [Text.isDecimalDigit, Numeral.decimalDigit?_of_isDigit (hs c List.mem_cons_self)]
        rfl
      rw [isIdentifier, List.headD_cons, not_identifierStart_of_decimalDigit hdigit]
      rfl
  rw [subscripted?, List.splitOn_eq_singleton hno]
  dsimp only
  rw [if_neg (by simp [hword])]

/-! ### One segment -/

/-- The address that is read of a segment. -/
def addressedBy (segment : List Char) : List Selector := (segmentRoute segment).map Accessor.selector

/-- A segment that is not plain asks for the property of its name. -/
theorem selectorsOf_of_not_plain {segment : List Char} (h : segment.all isPlain = false) :
    selectorsOf segment = [.property (String.ofList segment)] := by
  have hsubscripted : subscripted? segment = none := by
    cases hs : subscripted? segment with
    | none => rfl
    | some selectors =>
      rw [List.all_eq_true.2 (isPlain_of_subscripted? hs)] at h
      contradiction
  have hnumeral : numeral? segment = none := by
    cases hs : numeral? segment with
    | none => rfl
    | some index =>
      have hdigits := (isDigit_of_numeral? (by rw [hs]; rfl)).2
      rw [List.all_eq_true.2 fun c hc => isPlain_of_isDigit (hdigits c hc)] at h
      contradiction
  rw [selectorsOf, hsubscripted, hnumeral]

/-- What spells a numeral is an index. -/
theorem isIndex_of_numeral? {segment : List Char} (h : (numeral? segment).isSome = true) :
    isIndex segment = true := by
  obtain ⟨hne, hdigits⟩ := isDigit_of_numeral? h
  have hdecimal : ∀ c ∈ segment, Text.isDecimalDigit c = true := by
    intro c hc
    rw [Text.isDecimalDigit, Numeral.decimalDigit?_of_isDigit (hdigits c hc)]
    rfl
  have hdrop : segment.dropWhile Text.isDecimalDigit = [] := List.dropWhile_eq_nil_iff.2 hdecimal
  rw [isIndex, hdrop]
  cases segment with
  | nil => contradiction
  | cons c r => exact hdecimal c List.mem_cons_self

/-- A segment that is quoted asks for a property and for elements of it. -/
theorem selectorsOf_of_quoted {segment : List Char} (hdot : followsDot segment = false)
    (hindex : isIndex segment = false) :
    selectorsOf segment = [.property (String.ofList segment)]
      ∨ ∃ w a as, selectorsOf segment = .property (String.ofList w) :: a :: as
        ∧ w ≠ segment := by
  -- A segment that is no index is no numeral either.
  have hnumeral : numeral? segment = none := by
    cases hs : numeral? segment with
    | none => rfl
    | some index =>
      rw [isIndex_of_numeral? (by rw [hs]; rfl)] at hindex
      contradiction
  rw [selectorsOf, hnumeral]
  cases hs : subscripted? segment with
  | none => exact .inl rfl
  | some selectors =>
    obtain ⟨w, rest, hsplit, -, hrest, rfl⟩ := subscripted?_spec hs
    have hjoined : ['['].intercalate (w :: rest) = segment := by
      rw [← hsplit, List.intercalate_splitOn]
    cases rest with
    | nil =>
      rw [List.intercalate_singleton] at hjoined
      exact .inl (by rw [hjoined]; rfl)
    | cons s rest =>
      obtain ⟨index, hs⟩ := Option.isSome_iff_exists.1 (hrest s List.mem_cons_self)
      -- Something stands in brackets, so the name in front is shorter than the segment.
      refine .inr ⟨w, .element index, _, by rw [List.filterMap_cons, hs]; rfl, ?_⟩
      rintro rfl
      have hlength := congrArg List.length hjoined
      rw [List.intercalate_cons_cons, List.length_append, List.length_append,
        List.length_singleton] at hlength
      omega

/-- **A segment at which the reference does not go astray** is addressed as asked. -/
theorem addressedBy_of_sound {segment : List Char} (h : goesAstray segment = false) :
    addressedBy segment = selectorsOf segment := by
  unfold goesAstray at h
  split_ifs at h with hbare
  · rw [Bool.not_eq_false', List.all_eq_true] at h
    -- The segment stands bare in the reference: behind a point, or in brackets as an index.
    by_cases hdot : followsDot segment = true
    · rw [selectorsOf, subscripted?_of_followsDot hdot h]
      rfl
    · have hindex : isIndex segment = true := by simpa [hdot] using hbare
      obtain ⟨d, ds, r, rfl, hds, hr⟩ := isIndex_spec hindex
      obtain rfl : r = [] := by
        rcases hr with rfl | rfl
        · rfl
        · exact absurd (h '\n' (by simp)) (by decide)
      rw [List.append_nil] at h hdot hindex ⊢
      have hdigits : ∀ c ∈ d :: ds, c.isDigit = true :=
        fun c hc => isDigit_of_isPlain (hds c hc) (h c hc)
      have htake : (d :: ds).takeWhile Text.isDecimalDigit = d :: ds :=
        List.takeWhile_eq_self_iff.2 hds
      rw [selectorsOf, subscripted?_digits (List.cons_ne_nil d ds) hdigits,
        numeral?_eq_some (List.cons_ne_nil d ds) hdigits, addressedBy, segmentRoute, if_neg hdot,
        if_pos hindex, htake, List.map_singleton, Accessor.selector, String.toList_ofList]
  · rw [Bool.not_eq_true, Bool.or_eq_false_iff] at hbare
    rw [addressedBy, segmentRoute, if_neg (by simp [hbare.1]), if_neg (by simp [hbare.2])]
    -- It is quoted, and sound when all of it is one name.
    obtain hone | ⟨w, a, as, hmany, -⟩ := selectorsOf_of_quoted hbare.1 hbare.2
    · rw [hone]
      rfl
    · rw [hmany] at h
      simp at h

/-- **A segment at which the reference goes astray** is addressed otherwise from the first step
on. -/
theorem addressedBy_of_astray {segment : List Char} (h : goesAstray segment = true) :
    ∃ a as b bs, addressedBy segment = a :: as ∧ selectorsOf segment = b :: bs ∧ a ≠ b := by
  unfold goesAstray at h
  split_ifs at h with hbare
  · rw [Bool.not_eq_true'] at h
    rw [selectorsOf_of_not_plain h, addressedBy, segmentRoute]
    split_ifs with hdot hindex
    · -- The name in front is plain, so it is not all of the segment.
      refine ⟨_, _, _, _, rfl, rfl, ?_⟩
      intro heq
      have hname : segment.takeWhile isIdentifierChar = segment :=
        String.ofList_injective (Selector.property.inj heq)
      have hplain : ∀ c ∈ segment, isPlain c = true := by
        intro c hc
        rw [← hname] at hc
        exact isPlain_of_identifierChar (List.mem_takeWhile_imp hc)
      rw [List.all_eq_true.2 hplain] at h
      contradiction
    · exact ⟨_, _, _, _, rfl, rfl, by simp [Accessor.selector]⟩
    · simp [hdot, hindex] at hbare
  · rw [Bool.not_eq_true, Bool.or_eq_false_iff] at hbare
    rw [addressedBy, segmentRoute, if_neg (by simp [hbare.1]), if_neg (by simp [hbare.2])]
    -- It is quoted as one name, and is more than that.
    obtain hone | ⟨w, a, as, hmany, hne⟩ := selectorsOf_of_quoted hbare.1 hbare.2
    · rw [hone] at h
      simp at h
    · refine ⟨_, _, _, _, rfl, hmany, ?_⟩
      intro heq
      exact hne (String.ofList_injective (Selector.property.inj heq)).symm

/-! ### Paths -/

/-- The addresses of segments are as asked exactly when that of each is. -/
theorem flatMap_addressedBy {segments : List (List Char)} :
    segments.flatMap addressedBy = segments.flatMap selectorsOf
      ↔ ∀ segment ∈ segments, goesAstray segment = false := by
  induction segments with
  | nil => simp
  | cons segment segments ih =>
    rw [List.flatMap_cons, List.flatMap_cons, List.forall_mem_cons]
    cases h : goesAstray segment with
    | false => rw [addressedBy_of_sound h, List.append_cancel_left_eq, ih]; simp
    | true =>
      obtain ⟨a, as, b, bs, ha, hb, hne⟩ := addressedBy_of_astray h
      rw [ha, hb, List.cons_append, List.cons_append]
      simp [hne]

theorem routeOf_selectors (path : String) :
    (routeOf path).map Accessor.selector = (path.toList.splitOn '.').flatMap addressedBy := by
  rw [routeOf, List.map_flatMap]
  rfl

theorem routeOf_selectors_iff {path : String} :
    (routeOf path).map Accessor.selector = addressOf path ↔ isStraight path = true := by
  rw [routeOf_selectors, addressOf, flatMap_addressedBy, isStraight, List.all_eq_true]
  simp only [Bool.not_eq_true']

/-- **A reference addresses what its path asks for** exactly when it goes astray at no segment.  So of
two such paths that ask for different fields the references address different fields. -/
theorem addressed_reference (path : String) :
    (∃ address, addressed? (reference documentAlias path) = some address
        ∧ (address = addressOf path ↔ isStraight path = true))
      ∧ ∀ path', isStraight path = true → isStraight path' = true →
        addressOf path ≠ addressOf path' →
        addressed? (reference documentAlias path) ≠ addressed? (reference documentAlias path') := by
  constructor
  · exact ⟨_, addressed?_reference path, routeOf_selectors_iff⟩
  · intro path' hpath hpath' hne heq
    rw [addressed?_reference, addressed?_reference, Option.some_inj,
      routeOf_selectors_iff.2 hpath, routeOf_selectors_iff.2 hpath'] at heq
    exact hne heq

/-- A reserved word and an index, and a name with a hyphen in quotes. -/
theorem addressed_reference_order :
    addressed? (reference documentAlias "order.0") ≠ addressed? (reference documentAlias "order-0") :=
  (addressed_reference "order.0").2 "order-0" (by decide) (by decide) (by decide)

/-- **Three references that go astray**: a line feed behind a name is lost, the index behind a
reserved word becomes part of the name, and a digit of another script is an index. -/
theorem references_astray :
    (addressed? (reference documentAlias "a\n") = some [.property "a"]
        ∧ addressOf "a\n" = [.property "a\n"]
        ∧ addressed? (reference documentAlias "a\n") = addressed? (reference documentAlias "a"))
      ∧ (addressed? (reference documentAlias "order[0]") = some [.property "order[0]"]
        ∧ addressOf "order[0]" = [.property "order", .element 0])
      ∧ addressed? (reference documentAlias "٣") = some [.element 3]
        ∧ addressOf "٣" = [.property "٣"] := by
  simp only [addressed?_reference]
  decide

end EntityStore.Sql
