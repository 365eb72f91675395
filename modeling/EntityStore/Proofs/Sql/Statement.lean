import EntityStore.Proofs.Sql.Meaning

/-!
# Statements are read back

`readStatement` reads the tokens of a statement that selects documents: the fields that it asks
for, its condition, and the orders in which it wants the documents.

`readStatement_selectStatement` is the main statement.  Whatever stands in the paths of a query, its
statement is read as one reference for each field, what is left of the filter, and one order for
each sort key that asks for one; and behind each dot stands a word that is not reserved.
-/

namespace EntityStore.Sql

open Token

/-! ### Reading -/

/-- An order of documents: by the field that a route leads to, ascending or descending. -/
structure SortOrder where
  field : Route
  descending : Bool
deriving DecidableEq, Repr

/-- **What a statement asks for.**  A statement without a list of fields asks for all. -/
structure Reading where
  fields : Option (List Route)
  condition : Option Formula
  order : List SortOrder

/-- Reads the fields that a statement asks for. -/
def readFields : Reader (Option (List Route))
  | .star :: r => some (none, r)
  | ts => (joined .comma readReference ts).map fun (routes, r) => (some routes, r)

/-- Reads the condition of a statement, if it has one. -/
def readWhere : Reader (Option Formula)
  | .word w :: r =>
    if w = "WHERE" then (readCondition r).map fun (f, r) => (some f, r)
    else some (none, .word w :: r)
  | r => some (none, r)

/-- Reads one order. -/
def readSortOrder : Reader SortOrder := fun ts =>
  (readReference ts).bind fun
    | (field, .word w :: r) =>
      if w = "ASC" then some (⟨field, false⟩, r)
      else if w = "DESC" then some (⟨field, true⟩, r)
      else none
    | _ => none

/-- Reads the orders of a statement, if it has any. -/
def readOrders : Reader (List SortOrder)
  | .word v :: .word w :: r =>
    if v = "ORDER" ∧ w = "BY" then joined .comma readSortOrder r
    else some ([], .word v :: .word w :: r)
  | r => some ([], r)

/-- **Reads a statement** that selects documents, to the last token. -/
def readStatement (ts : List Token) : Option Reading := do
  let r ← expect (.word "SELECT") ts
  let (fields, r) ← readFields r
  let r ← expect (.word "FROM") r
  let r ← expect (.word documentAlias) r
  let (condition, r) ← readWhere r
  let (order, r) ← readOrders r
  if r.isEmpty then some ⟨fields, condition, order⟩ else none

/-! ### What a query asks for -/

/-- The fields that a query asks for; no list of fields, and an empty one, ask for all. -/
def fieldsOf : Option (List String) → Option (List Route)
  | none => none
  | some [] => none
  | some (field :: r) => some ((field :: r).map routeOf)

/-- The path and the direction of a sort key, unless it is blank or nothing but a `-`. -/
def sortKey? (key : String) : Option (String × Bool) :=
  let trimmed := Text.trimList Text.isBlank key.toList
  if trimmed = [] ∨ trimmed = ['-'] then none
  else if trimmed.head? = some '-' then some (String.ofList trimmed.tail, true)
  else some (String.ofList trimmed, false)

/-- The order that a sort key asks for. -/
def sortOrder? (key : String) : Option SortOrder :=
  (sortKey? key).map fun (path, descending) => ⟨routeOf path, descending⟩

/-! ### Lists with commas -/

section

variable {α β : Type} {text : α → String} {tokens : α → List Token}

/-- The tokens of a list with commas. -/
theorem Piece.list (h : ∀ a, Piece (text a).toList (tokens a)) (as : List α) :
    Piece (", ".intercalate (as.map text)).toList ([.comma].intercalate (as.map tokens)) := by
  have hforall : List.Forall₂ Piece ((as.map text).map String.toList) (as.map tokens) := by
    rw [List.map_map, List.forall₂_map_left_iff, List.forall₂_map_right_iff, List.forall₂_same]
    exact fun a _ => h a
  rw [String.toList_intercalate]
  exact Piece.intercalate (by decide) Piece.comma hforall

/-- The tokens of a list with commas are read as the list. -/
theorem reads_list {stop : Token → Prop} {read : Reader β} (value : α → β) (hcomma : stop .comma)
    (h : ∀ a, Reads stop read (tokens a) (value a)) (as : List α) (hne : as ≠ []) :
    Reads (fun t => stop t ∧ t ≠ .comma) (joined .comma read)
      ([.comma].intercalate (as.map tokens)) (as.map value) := by
  refine Reads.joined hcomma ?_ (by simpa using hne)
  rw [List.forall₂_map_left_iff, List.forall₂_map_right_iff, List.forall₂_same]
  exact fun a _ => h a

/-- The placeholders of a list with commas. -/
theorem placeholders_list (as : List α) :
    placeholders ([.comma].intercalate (as.map tokens)) = as.flatMap (placeholders ∘ tokens) := by
  rw [placeholders_intercalate rfl, List.flatMap_map]
  rfl

end

/-! ### The fields of a statement -/

/-- A list of references begins with a word, and so not with the `*` of all fields. -/
theorem exists_word_of_references (field : String) (fields : List String) :
    ∃ ts, [.comma].intercalate ((field :: fields).map fun path => (routeOf path).tokens)
      = .word documentAlias :: ts := by
  cases fields with
  | nil => exact ⟨_, rfl⟩
  | cons field' fields =>
    rw [List.map_cons, List.map_cons, List.intercalate_cons_cons, Route.tokens]
    exact ⟨_, rfl⟩

/-- The tokens of the fields of a statement. -/
theorem piece_selection (fields : Option (List String)) :
    ∃ ts, Piece (selection fields).toList ts ∧ placeholders ts = []
      ∧ ∀ r, Follows (fun t => endsRoute t ∧ t ≠ .comma) r →
        readFields (ts ++ r) = some (fieldsOf fields, r) := by
  have hstar : Piece "*".toList [.star] := Piece.mark rfl (fun _ => rfl) (by decide) Piece.nil
  rcases fields with _ | _ | ⟨field, fields⟩
  · exact ⟨[.star], hstar, rfl, fun _ _ => rfl⟩
  · exact ⟨[.star], hstar, rfl, fun _ _ => rfl⟩
  · refine ⟨_, Piece.list Piece.reference (field :: fields), ?_, ?_⟩
    · rw [placeholders_list, List.flatMap_eq_nil_iff]
      exact fun path _ => placeholders_reference (routeOf path)
    · intro r hr
      have hread := reads_list routeOf (by simp [endsRoute])
        (fun path => reads_reference (routeOf path)) (field :: fields) (by simp) r hr
      obtain ⟨us, hus⟩ := exists_word_of_references field fields
      rw [hus, List.cons_append] at hread ⊢
      rw [readFields, hread]
      · rfl
      · rintro q ⟨⟩

/-! ### The condition of a statement -/

/-- A clause that is there. -/
theorem optionalClause_eq (keyword : String) {s : String} (hs : s.toList ≠ []) :
    (optionalClause keyword s).toList = ' ' :: keyword.toList ++ ' ' :: s.toList := by
  have hne : s.isEmpty = false := by
    rw [String.isEmpty_eq_false_iff]
    rintro rfl
    exact hs String.toList_empty
  have hblank : " ".toList = [' '] := rfl
  rw [optionalClause, hne, if_neg (by decide)]
  simp only [String.toList_append, hblank, List.cons_append, List.nil_append, List.append_assoc]

/-- The tokens of the condition of a statement. -/
theorem piece_where {s : String} {f? : Option Formula} (h : Condition.Spelled s f?) :
    ∃ ts g?, Piece (optionalClause "WHERE" s).toList ts
      ∧ Piece.Starts (optionalClause "WHERE" s).toList
      ∧ placeholders ts = Formula.placeholdersOfParts f?.toList
      ∧ g?.map Formula.normal = f?.map Formula.normal
      ∧ ∀ r, Follows (· = .word "ORDER") r → readWhere (ts ++ r) = some (g?, r) := by
  rcases h with ⟨rfl, rfl⟩ | ⟨f, rfl, hf⟩
  · -- Without a condition there is no clause,
    refine ⟨[], none, Piece.nil, .inl rfl, rfl, rfl, ?_⟩
    intro r hr
    cases r with
    | nil => rfl
    | cons t r =>
      rw [hr t rfl]
      rfl
  · -- and otherwise it is read up to the order.
    obtain ⟨ts, g, hpiece, hread, hnormal, hplaceholders⟩ := hf.read
    have hclause := optionalClause_eq "WHERE" hf.ne_nil
    refine ⟨.word "WHERE" :: ts, some g, ?_, ?_, ?_, ?_, ?_⟩
    · rw [hclause]
      exact Piece.keyword "WHERE" (by decide) hpiece
    · rw [hclause]
      exact .cons rfl _
    · rw [Option.toList_some, Formula.placeholdersOfParts, Formula.placeholdersOfParts,
        List.append_nil, ← hplaceholders]
      rfl
    · rw [Option.map_some, Option.map_some, hnormal]
    · intro r hr
      have hcondition := hread r (hr.imp fun t ht => by rw [ht]; exact ⟨⟨trivial, by decide⟩, by decide⟩)
      rw [List.cons_append, readWhere, if_pos rfl, hcondition]
      rfl

/-! ### The orders of a statement -/

/-- The text of an order. -/
def sortClause (path : String) (descending : Bool) : String :=
  reference documentAlias path ++ if descending then " DESC" else " ASC"

/-- A sort key that asks for an order asks for that of its path and direction. -/
theorem sortClause?_eq (key : String) :
    sortClause? documentAlias key
      = (sortKey? key).map fun (path, descending) => sortClause path descending := by
  rw [sortClause?, sortKey?]
  generalize Text.trimList Text.isBlank key.toList = trimmed
  split
  · rfl
  · rfl
  · next path hpath =>
    rw [if_neg (by simpa using hpath), List.head?_cons, if_pos rfl]
    rfl
  · next hnil hminus hdescending =>
    have hhead : trimmed.head? ≠ some '-' := by
      intro h
      obtain ⟨path, rfl⟩ := List.head?_eq_some_iff.1 h
      exact hdescending path rfl
    rw [if_neg (not_or.2 ⟨hnil, hminus⟩), if_neg hhead]
    rfl

/-- The tokens of an order. -/
def SortOrder.tokens (o : SortOrder) : List Token :=
  o.field.tokens ++ [.word (if o.descending then "DESC" else "ASC")]

theorem reads_sortOrder (o : SortOrder) : Reads always readSortOrder o.tokens o := by
  intro r _
  have hend (w : String) : endsRoute (.word w) := by simp [endsRoute]
  rw [SortOrder.tokens, List.append_assoc, List.singleton_append, readSortOrder,
    reads_reference o.field _ (Follows.cons (hend _) r), Option.bind_some]
  cases o with
  | mk field descending => cases descending <;> rfl

theorem Piece.sortClause (path : String) (descending : Bool) :
    Piece (sortClause path descending).toList (SortOrder.tokens ⟨routeOf path, descending⟩) := by
  have href := Piece.reference path
  rw [Sql.sortClause, String.toList_append]
  cases descending with
  | true =>
    have hword := Piece.word "DESC" (by decide)
    exact href.append (Piece.blank (c := ' ') rfl hword) (.cons rfl _)
  | false =>
    have hword := Piece.word "ASC" (by decide)
    exact href.append (Piece.blank (c := ' ') rfl hword) (.cons rfl _)

/-- The tokens of the orders of a statement. -/
theorem piece_orders (keys : List String) :
    ∃ ts, Piece (optionalClause "ORDER BY" (sortText documentAlias keys)).toList ts
      ∧ Piece.Starts (optionalClause "ORDER BY" (sortText documentAlias keys)).toList
      ∧ placeholders ts = [] ∧ Follows (· = .word "ORDER") ts
      ∧ readOrders ts = some (keys.filterMap sortOrder?, []) := by
  -- Keys that are blank are left out of the text and of the orders alike.
  have htext : sortText documentAlias keys = ", ".intercalate
      ((keys.filterMap sortKey?).map fun p => sortClause p.1 p.2) := by
    rw [sortText, List.map_filterMap]
    congr 2
    funext key
    exact sortClause?_eq key
  have horders : keys.filterMap sortOrder?
      = (keys.filterMap sortKey?).map fun p => ⟨routeOf p.1, p.2⟩ := by
    rw [List.map_filterMap]
    rfl
  rw [htext, horders]
  cases hkeys : keys.filterMap sortKey? with
  -- Without keys there is no clause.
  | nil => exact ⟨[], Piece.nil, .inl rfl, rfl, Follows.nil _, rfl⟩
  | cons p ps =>
    have hlist := Piece.list (fun p : String × Bool => Piece.sortClause p.1 p.2) (p :: ps)
    have hread := reads_list (fun p : String × Bool => SortOrder.mk (routeOf p.1) p.2) trivial
      (fun p => reads_sortOrder ⟨routeOf p.1, p.2⟩) (p :: ps) (by simp) [] (Follows.nil _)
    have hplaceholders : placeholders ([.comma].intercalate
        ((p :: ps).map fun p => SortOrder.tokens ⟨routeOf p.1, p.2⟩)) = [] := by
      rw [placeholders_list, List.flatMap_eq_nil_iff]
      intro q _
      rw [Function.comp_apply, SortOrder.tokens, placeholders_append, placeholders_reference]
      rfl
    rw [List.append_nil] at hread
    generalize [.comma].intercalate
      ((p :: ps).map fun p => SortOrder.tokens ⟨routeOf p.1, p.2⟩) = ts at hlist hread hplaceholders
    have hne : ts ≠ [] := by
      rintro rfl
      contradiction
    have hclause := optionalClause_eq "ORDER BY" (hlist.ne_nil hne)
    have hby := Piece.keyword "BY" (by decide) hlist
    have horder := (Piece.word "ORDER" (by decide)).append hby
      (.cons rfl _)
    have hfollows : Follows (· = .word "ORDER") (.word "ORDER" :: .word "BY" :: ts) := by
      rintro t ⟨⟩
      rfl
    refine ⟨.word "ORDER" :: .word "BY" :: ts, ?_, ?_, hplaceholders, hfollows, ?_⟩
    · rw [hclause]
      exact Piece.blank (c := ' ') rfl horder
    · rw [hclause]
      exact .cons rfl _
    · rw [readOrders, if_pos ⟨rfl, rfl⟩]
      exact hread

/-! ### Statements -/

/-- **What is left of the filter of a query**; `none` when nothing is, or there is no filter. -/
def conditionOf (filter : Value) : Option Formula :=
  if filter.isNull then none
  else
    match Filter.ofWire filter with
    | .ok f => f.surviving? 0
    | .error _ => none

/-- The text of the filter of a query says what is left of it. -/
theorem spelled_whereText {filter : Value} {w : Statement} (h : whereText filter = .ok w) :
    Condition.Spelled w.text (conditionOf filter) := by
  unfold whereText at h
  unfold conditionOf
  split_ifs at h ⊢
  · cases h
    exact .inl ⟨rfl, rfl⟩
  · cases hf : Filter.ofWire filter with
    | error e =>
      rw [hf] at h
      contradiction
    | ok f =>
      rw [hf] at h
      cases h
      exact spelled_filterFrom 0 f

/-- The text of a filter can be made unless it is a scalar that is there. -/
theorem exists_whereText {filter : Value} (h : ∀ s, filter = .scalar s → s = .null) :
    ∃ w, whereText filter = .ok w := by
  unfold whereText
  split_ifs with hnull
  · exact ⟨_, rfl⟩
  · cases filter with
    | scalar s =>
      rw [h s rfl] at hnull
      exact absurd rfl hnull
    | list | tuple | object | filter => exact ⟨_, rfl⟩

/-- The tokens of a statement that selects documents. -/
theorem piece_select {fields conditions orders : String} {fieldTokens tokens : List Token}
    (hfields : Piece fields.toList fieldTokens)
    (hclauses : Piece (conditions.toList ++ orders.toList) tokens)
    (hstarts : Piece.Starts (conditions.toList ++ orders.toList)) :
    Piece ("SELECT " ++ fields ++ " FROM " ++ documentAlias ++ conditions ++ orders).toList
      (.word "SELECT" :: fieldTokens ++ .word "FROM" :: .word documentAlias :: tokens) := by
  have halias : Piece documentAlias.toList [.word documentAlias] :=
    Piece.word documentAlias (by decide)
  have hfrom := Piece.keyword "FROM" (by decide)
    (halias.append hclauses hstarts)
  have hselect := Piece.leading "SELECT" (by decide) (hfields.append hfrom (.cons rfl _))
  simp only [String.toList_append, List.append_assoc]
  exact hselect

/-- **Every statement is read back.**  The statement of a query, unless its filter is a scalar that is
there, is read to the last token: as the fields of the query, what is left of its filter, up to the
normal form, and the orders that its sort keys ask for.  No reserved word follows a dot. -/
theorem readStatement_selectStatement (q : Query) (hq : ∀ s, q.filter = .scalar s → s = .null) :
    ∃ s ts reading, selectStatement q = .ok s ∧ Token.lex s.text.toList = some ts
      ∧ readStatement ts = some reading ∧ dotsFollowed ts = true
      ∧ reading.fields = fieldsOf q.fields
      ∧ reading.condition.map Formula.normal = (conditionOf q.filter).map Formula.normal
      ∧ reading.order = q.sort.filterMap sortOrder? := by
  obtain ⟨w, hw⟩ := exists_whereText hq
  obtain ⟨fieldTokens, hfields, -, hreadFields⟩ := piece_selection q.fields
  obtain ⟨whereTokens, c, hwhere, hwhereStarts, -, hnormal, hreadWhere⟩ :=
    piece_where (spelled_whereText hw)
  obtain ⟨orderTokens, horder, horderStarts, -, hfollows, hreadOrders⟩ := piece_orders q.sort
  have hpiece := piece_select hfields (hwhere.append horder horderStarts)
    (hwhereStarts.append horderStarts)
  -- The fields end at the word behind them, the condition at the order or at the end.
  have hfieldsEnd : Follows (fun t => endsRoute t ∧ t ≠ .comma)
      (.word "FROM" :: .word documentAlias :: (whereTokens ++ orderTokens)) :=
    Follows.cons (by simp [endsRoute]) _
  have hselect : selectStatement q = .ok ⟨"SELECT " ++ selection q.fields ++ " FROM "
      ++ documentAlias ++ optionalClause "WHERE" w.text
      ++ optionalClause "ORDER BY" (sortText documentAlias q.sort), w.parameters⟩ := by
    rw [selectStatement, hw]
    rfl
  refine ⟨_, _, ⟨fieldsOf q.fields, c, q.sort.filterMap sortOrder?⟩, hselect, hpiece.lex_eq, ?_,
    hpiece.dots, rfl, hnormal, rfl⟩
  rw [List.cons_append, readStatement, expect_self, Option.bind_eq_bind, Option.bind_some,
    hreadFields _ hfieldsEnd]
  simp only [Option.bind_eq_bind, Option.bind_some, expect_self, hreadWhere _ hfollows,
    hreadOrders, List.isEmpty_nil, if_true]

/-- Paths that hold a comma, a quote or a reserved word. -/
theorem readStatement_selectStatement_quoted :
    let q : Query :=
      { filter := .object [("a\" OR 1 = 1", .int 1)]
        sort := ["-order by", " "]
        fields := some ["x, y", "Select"] }
    ∃ s ts reading, selectStatement q = .ok s ∧ Token.lex s.text.toList = some ts
      ∧ readStatement ts = some reading
      ∧ reading.fields = some [[.quoted "x, y"], [.quoted "Select"]]
      ∧ reading.order = [⟨[.quoted "order by"], true⟩] := by
  intro q
  obtain ⟨s, ts, reading, hselect, hlex, hread, -, hfields, -, horder⟩ :=
    readStatement_selectStatement q (by rintro s ⟨⟩)
  exact ⟨s, ts, reading, hselect, hlex, hread, hfields.trans (by decide),
    horder.trans (by decide)⟩

end EntityStore.Sql
