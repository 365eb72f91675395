import EntityStore.Console.Printing
import EntityStore.Proofs.Entries
import EntityStore.Proofs.Json.Writable
import Mathlib.Data.List.Basic
import Mathlib.Data.List.Forall2

/-!
# Tables of documents

The table of some documents has a column for every key that a document has and that does not begin with
an underscore, in the order in which the keys appear first (`Collected`), and a cell for every document
and column (`CellOf`).

In all lines of a table the columns stand in the same places: the one at `i` begins behind `i` wider
ones and the gaps behind these (`columnStart`), and is as wide as its widest text (`WidestAt`).  That is
shown once, for texts of given widths with gaps between them (`spread_intercalate`), and then for the
headers, the dashes and the rows alike (`inColumns_tableLine`).

All of that is printed or nothing.  Nothing is when some cell holds a whole number of too many digits,
and printing then stops (`areWritableRows_iff`); no document that is read from a JSON text has such a
cell.
-/

namespace EntityStore.Console

/-! ### Headers -/

/-- Whether a key is shown. -/
def isShownKey (key : String) : Bool := key.toList.head? != some '_'

/-- **The headers for a list of keys**: those that are shown, each once, in the order in which they come
first. -/
structure Collected (keys headers : List String) : Prop where
  mem : ∀ k, k ∈ headers ↔ k ∈ keys ∧ isShownKey k = true
  order : headers.Pairwise fun h h' => keys.idxOf h < keys.idxOf h'

namespace Collected

variable {keys headers : List String}

theorem nil : Collected [] [] := ⟨by simp, .nil⟩

theorem order_append (h : Collected keys headers) (key : String) :
    headers.Pairwise fun h h' => (keys ++ [key]).idxOf h < (keys ++ [key]).idxOf h' := by
  refine h.order.imp_of_mem fun hk hk' horder => ?_
  rwa [List.idxOf_append_of_mem ((h.mem _).1 hk).1, List.idxOf_append_of_mem ((h.mem _).1 hk').1]

/-- A key that is not shown, or has come before, makes no header. -/
theorem pass (h : Collected keys headers) {key : String}
    (hkey : key ∈ keys ∨ isShownKey key = false) : Collected (keys ++ [key]) headers := by
  refine ⟨fun k => ?_, h.order_append key⟩
  rw [h.mem, List.mem_append, List.mem_singleton]
  constructor
  · exact fun hk => ⟨.inl hk.1, hk.2⟩
  · rintro ⟨hk | rfl, hshown⟩
    · exact ⟨hk, hshown⟩
    · rcases hkey with hkey | hhidden
      · exact ⟨hkey, hshown⟩
      · rw [hhidden] at hshown
        contradiction

/-- A shown key that has not come before makes the last header. -/
theorem extend (h : Collected keys headers) {key : String} (hnew : key ∉ keys)
    (hshown : isShownKey key = true) : Collected (keys ++ [key]) (headers ++ [key]) := by
  constructor
  · intro k
    rw [List.mem_append, List.mem_append, List.mem_singleton, h.mem]
    constructor
    · rintro (hk | rfl)
      · exact ⟨.inl hk.1, hk.2⟩
      · exact ⟨.inr rfl, hshown⟩
    · rintro ⟨hk | hk, hkshown⟩
      · exact .inl ⟨hk, hkshown⟩
      · exact .inr hk
  · refine List.pairwise_append.2 ⟨h.order_append key, List.pairwise_singleton .., ?_⟩
    intro k hk k' hk'
    obtain rfl := List.mem_singleton.1 hk'
    rw [List.idxOf_append_of_mem ((h.mem k).1 hk).1, List.idxOf_append_of_notMem hnew]
    exact Nat.lt_add_right _ (List.idxOf_lt_length_of_mem ((h.mem k).1 hk).1)

/-- The keys of a further document. -/
theorem addHeaders (h : Collected keys headers) (document : Fields) :
    Collected (keys ++ document.keys) (Console.addHeaders headers document) := by
  unfold Console.addHeaders
  generalize document.keys = more
  induction more generalizing keys headers with
  | nil =>
    rw [List.append_nil]
    exact h
  | cons key more ih =>
    rw [List.append_cons, List.foldl_cons]
    refine ih ?_
    split
    · next hpass =>
      refine h.pass ?_
      rw [Bool.or_eq_true, List.contains_iff_mem, decide_eq_true_eq] at hpass
      refine hpass.imp (fun hmem => ((h.mem key).1 hmem).1) fun hhidden => ?_
      rw [isShownKey, hhidden, bne_self_eq_false]
    · next hpass =>
      rw [Bool.or_eq_true, List.contains_iff_mem, decide_eq_true_eq, not_or] at hpass
      have hshown : isShownKey key = true := bne_iff_ne.2 hpass.2
      exact h.extend (fun hmem => hpass.1 ((h.mem key).2 ⟨hmem, hshown⟩)) hshown

end Collected

/-- **The headers of the table of some documents** are collected from the keys of all documents. -/
theorem collected_headersOf (documents : List Fields) :
    Collected (documents.flatMap Entries.keys) (headersOf documents) := by
  have hfrom {keys headers : List String} (h : Collected keys headers) (more : List Fields) :
      Collected (keys ++ more.flatMap Entries.keys) (more.foldl addHeaders headers) := by
    induction more generalizing keys headers with
    | nil =>
      rw [List.flatMap_nil, List.append_nil]
      exact h
    | cons d more ih =>
      rw [List.flatMap_cons, ← List.append_assoc, List.foldl_cons]
      exact ih (h.addHeaders d)
  exact hfrom .nil documents

/-! ### Cells -/

/-- **What the cell of a document under a header shows.** -/
inductive CellOf (document : Fields) (header : String) : String → Prop
  | missing (h : document.get? header = none) : CellOf document header ""
  | null (h : document.get? header = some .null) : CellOf document header ""
  | list {items : List Value} (h : document.get? header = some (.list items)) :
    CellOf document header (Json.compact (.list items))
  | object {fields : Fields} (h : document.get? header = some (.object fields)) :
    CellOf document header (Json.compact (.object fields))
  | plain {v : Value} (h : document.get? header = some v) (hnull : v.isNull = false)
    (hlist : ∀ items, v ≠ .list items) (hobject : ∀ fields, v ≠ .object fields) :
    CellOf document header v.text

theorem cellText_of_not_null {v : Value} (h : v.isNull = false) : cellText v = v.text := by
  rw [cellText, h, if_neg Bool.false_ne_true]

theorem cellOf_cellText (document : Fields) (header : String) :
    CellOf document header (cellText (cellValue ((document.get? header).getD .null))) := by
  cases h : document.get? header with
  | none => exact .missing h
  | some v =>
    -- Texts, numbers and the like are shown as they are.
    have hplain (hnull : v.isNull = false) (hlist : ∀ items, v ≠ .list items)
        (hobject : ∀ fields, v ≠ .object fields) :
        CellOf document header (cellText (cellValue v)) := by
      rw [cellValue, cellText_of_not_null hnull]
      · exact .plain h hnull hlist hobject
      · exact hlist
      · exact hobject
    rw [Option.getD_some]
    cases v with
    | list items =>
      rw [cellValue, cellText_of_not_null rfl]
      exact .list h
    | object fields =>
      rw [cellValue, cellText_of_not_null rfl]
      exact .object h
    | scalar s =>
      cases s with
      | null => exact .null h
      | bool | int | float | decimal | datetime | date | str | bytes =>
        exact hplain rfl (by rintro _ ⟨⟩) (by rintro _ ⟨⟩)
    | tuple | filter => exact hplain rfl (by rintro _ ⟨⟩) (by rintro _ ⟨⟩)

theorem cellsOf_rowOf (headers : List String) (document : Fields) :
    List.Forall₂ (CellOf document) headers
      ((rowOf headers document).map fun v => cellText (cellValue v)) := by
  rw [rowOf, List.map_map, List.forall₂_map_right_iff, List.forall₂_same]
  exact fun header _ => cellOf_cellText document header

/-- **The values that the table of some documents shows.** -/
def Shows (documents : List Fields) (v : Value) : Prop :=
  ∃ d ∈ documents, ∃ key, isShownKey key = true ∧ d.get? key = some v

theorem mem_rowOf {headers : List String} {document : Fields} {v : Value} :
    v ∈ rowOf headers document ↔ ∃ h ∈ headers, (document.get? h).getD .null = v := by
  rw [rowOf, List.mem_map]

/-- **A table can be printed when all that it shows can be written.** -/
theorem areWritableRows_iff (documents : List Fields) :
    areWritableRows (documents.map (rowOf (headersOf documents))) = true
      ↔ ∀ v, Shows documents v → v.isWritable = true := by
  have hheaders := collected_headersOf documents
  simp only [areWritableRows, List.all_eq_true, List.forall_mem_map, mem_rowOf]
  constructor
  · rintro h v ⟨d, hd, key, hshown, hkey⟩
    -- A key that is shown is among the headers.
    obtain ⟨before, k, behind, hsplit, hk, -⟩ := Entries.split_of_get? hkey
    have hmem : key ∈ documents.flatMap Entries.keys := by
      refine List.mem_flatMap.2 ⟨d, hd, List.mem_map.2 ⟨(k, v), ?_, eq_of_beq hk⟩⟩
      rw [hsplit]
      simp
    refine h d hd v ⟨key, (hheaders.mem key).2 ⟨hmem, hshown⟩, ?_⟩
    rw [hkey, Option.getD_some]
  · -- A cell without a value shows nothing, and is writable.
    rintro h d hd v ⟨key, hkey, hv⟩
    cases hfound : d.get? key with
    | none =>
      rw [hfound] at hv
      subst hv
      rfl
    | some w =>
      rw [hfound] at hv
      subst hv
      exact h w ⟨d, hd, key, ((hheaders.mem key).1 hkey).2, hfound⟩

/-! ### Columns -/

/-- Where the column at `i` begins: behind the columns before it and the gaps behind these. -/
def columnStart (widths : List Nat) (i : Nat) : Nat :=
  (widths.take i).foldr (fun w start => w + 2 + start) 0

/-- How long the lines of a table are, which have no gap at the end. -/
def lineLength (widths : List Nat) : Nat := columnStart widths widths.length - 2

/-- **A line that shows texts in columns**, each filled up to the width of its column. -/
structure InColumns (widths : List Nat) (cells : List String) (line : String) : Prop where
  length : line.length = lineLength widths
  cell : ∀ (i w : Nat) (c : String), widths[i]? = some w → cells[i]? = some c →
    (line.toList.drop (columnStart widths i)).take w
      = c.toList ++ List.replicate (w - c.length) ' '

theorem columnStart_cons (w : Nat) (widths : List Nat) (i : Nat) :
    columnStart (w :: widths) (i + 1) = w + 2 + columnStart widths i := rfl

/-- Texts of the widths of the columns, with gaps between them, stand where the columns do. -/
theorem spread_intercalate {widths : List Nat} {texts : List (List Char)}
    (h : List.Forall₂ (fun w t => t.length = w) widths texts) :
    ([' ', ' '].intercalate texts).length = lineLength widths
      ∧ ∀ (i w : Nat) (t : List Char), widths[i]? = some w → texts[i]? = some t →
        (([' ', ' '].intercalate texts).drop (columnStart widths i)).take w = t := by
  induction h with
  | nil => exact ⟨rfl, by simp⟩
  | @cons w t widths texts hw hrest ih =>
    subst hw
    cases hrest with
    | nil =>
      refine ⟨by simp [lineLength, columnStart], ?_⟩
      intro i w t' hw ht'
      cases i with
      | zero =>
        cases hw
        cases ht'
        simp [columnStart]
      | succ i => cases hw
    | @cons w' t' widths texts hw' hrest =>
      rw [List.intercalate_cons_cons]
      constructor
      · have hlength := ih.1
        have hstart : columnStart (w' :: widths) (w' :: widths).length
            = w' + 2 + columnStart widths widths.length := rfl
        rw [lineLength, hstart] at hlength
        rw [lineLength, List.length_cons, columnStart_cons, hstart, List.length_append,
          List.length_append, hlength]
        change t.length + 2 + _ = _
        omega
      · intro i w s hw hs
        cases i with
        | zero =>
          cases hw
          cases hs
          simp [columnStart]
        | succ i =>
          -- The other columns stand in what is behind the first text and its gap.
          have hbefore : t.length + 2 = (t ++ [' ', ' ']).length := by simp
          rw [columnStart_cons, hbefore, List.drop_length_add_append]
          exact ih.2 i w s hw hs

/-! ### Widths -/

/-- **The width of a column** is that of its widest text. -/
structure WidestAt (rows : List (List String)) (i w : Nat) : Prop where
  fits : ∀ row ∈ rows, ∀ c, row[i]? = some c → c.length ≤ w
  reached : ∃ row ∈ rows, ∃ c, row[i]? = some c ∧ c.length = w

/-- A maximum that is found by going through a list is an upper bound. -/
theorem le_foldl_max {α : Type} (f : α → Nat) (l : List α) (n : Nat) :
    n ≤ l.foldl (fun n a => max n (f a)) n
      ∧ ∀ a ∈ l, f a ≤ l.foldl (fun n a => max n (f a)) n := by
  induction l generalizing n with
  | nil => simp
  | cons a l ih =>
    obtain ⟨hstart, hrest⟩ := ih (max n (f a))
    rw [List.foldl_cons, List.forall_mem_cons]
    exact ⟨by omega, by omega, hrest⟩

/-- Such a maximum is reached. -/
theorem foldl_max_reached {α : Type} (f : α → Nat) (l : List α) (n : Nat) :
    l.foldl (fun n a => max n (f a)) n = n
      ∨ ∃ a ∈ l, l.foldl (fun n a => max n (f a)) n = f a := by
  induction l generalizing n with
  | nil => exact .inl rfl
  | cons a l ih =>
    rw [List.foldl_cons]
    rcases ih (max n (f a)) with hstart | ⟨b, hb, hreached⟩
    · rcases Nat.le_total n (f a) with hle | hle
      · rw [Nat.max_eq_right hle] at hstart ⊢
        exact .inr ⟨a, List.mem_cons_self, hstart⟩
      · rw [Nat.max_eq_left hle] at hstart ⊢
        exact .inl hstart
    · exact .inr ⟨b, List.mem_cons_of_mem a hb, hreached⟩

theorem widestAt_columnWidth {header : String} {headers : List String} {rows : List (List String)}
    {i : Nat} (hheader : headers[i]? = some header)
    (hrows : ∀ row ∈ rows, row.length = headers.length) :
    WidestAt (headers :: rows) i (columnWidth rows header i) := by
  obtain ⟨hstart, hrest⟩ := le_foldl_max (fun row : List String => (row[i]?.getD "").length) rows
    header.length
  constructor
  · intro row hrow c hc
    rcases List.mem_cons.1 hrow with rfl | hrow
    · rw [hheader] at hc
      cases hc
      exact hstart
    · have hle := hrest row hrow
      rw [hc] at hle
      exact hle
  · -- The width is that of the header or of a cell.
    rcases foldl_max_reached (fun row : List String => (row[i]?.getD "").length) rows
      header.length with hreached | ⟨row, hrow, hreached⟩
    · exact ⟨headers, List.mem_cons_self, header, hheader, hreached.symm⟩
    · have hi : i < row.length := by
        rw [hrows row hrow]
        exact (List.getElem?_eq_some_iff.1 hheader).1
      refine ⟨row, List.mem_cons_of_mem _ hrow, row[i], List.getElem?_eq_getElem hi, ?_⟩
      rw [columnWidth, hreached, List.getElem?_eq_getElem hi]
      rfl

/-- **Every column is as wide as its widest text.** -/
theorem widestAt_columnWidths {headers : List String} {rows : List (List String)}
    (hrows : ∀ row ∈ rows, row.length = headers.length) {i w : Nat}
    (hw : (columnWidths headers rows)[i]? = some w) : WidestAt (headers :: rows) i w := by
  rw [columnWidths, List.getElem?_map, List.getElem?_zipIdx, Option.map_map,
    Option.map_eq_some_iff] at hw
  obtain ⟨header, hheader, rfl⟩ := hw
  rw [Function.comp_apply, Nat.zero_add]
  exact widestAt_columnWidth hheader hrows

theorem length_columnWidths (headers : List String) (rows : List (List String)) :
    (columnWidths headers rows).length = headers.length := by
  rw [columnWidths, List.length_map, List.length_zipIdx]

/-! ### Lines -/

/-- A text that fits is filled up to the width. -/
theorem length_padded {width : Nat} {s : String} (h : s.length ≤ width) :
    (padded width s).length = width := by
  rw [padded, String.length_append, String.length_ofList, List.length_replicate]
  omega

theorem toList_tableLine (widths : List Nat) (cells : List String) :
    (tableLine widths cells).toList
      = [' ', ' '].intercalate ((widths.zip cells).map fun (w, c) => (padded w c).toList) := by
  rw [tableLine, String.toList_intercalate, List.map_map]
  rfl

theorem toList_padded (w : Nat) (c : String) :
    (padded w c).toList = c.toList ++ List.replicate (w - c.length) ' ' := by
  rw [padded, String.toList_append, String.toList_ofList]

/-- **A line of a table** shows its texts in columns, if they fit. -/
theorem inColumns_tableLine {widths : List Nat} {cells : List String}
    (h : List.Forall₂ (fun w c => c.length ≤ w) widths cells) :
    InColumns widths cells (tableLine widths cells) := by
  -- Filled up, each text is as wide as its column.
  have hfilled : List.Forall₂ (fun w t => t.length = w) widths
      ((widths.zip cells).map fun (w, c) => (padded w c).toList) := by
    induction h with
    | nil => exact .nil
    | cons hfits _ ih => exact .cons (length_padded hfits) ih
  obtain ⟨hlength, hcell⟩ := spread_intercalate hfilled
  rw [← toList_tableLine] at hlength hcell
  refine ⟨hlength, fun i w c hw hc => ?_⟩
  rw [← toList_padded]
  refine hcell i w _ hw ?_
  have hpair : (widths.zip cells)[i]? = some (w, c) := List.getElem?_zip_eq_some.2 ⟨hw, hc⟩
  rw [List.getElem?_map, hpair]
  rfl

/-- The dashes of a column. -/
def dashes (w : Nat) : String := String.ofList (List.replicate w '-')

/-- The line of dashes is one like the others. -/
theorem dashedLine_eq_tableLine (widths : List Nat) :
    dashedLine widths = tableLine widths (widths.map dashes) := by
  have hfilled (w : Nat) : padded w (dashes w) = dashes w := by simp [padded, dashes]
  have hzip : widths.zip (widths.map dashes) = widths.map fun w => (w, dashes w) := by
    simpa using List.zip_map' (f := id) (g := dashes) (l := widths)
  rw [tableLine, hzip, List.map_map]
  simp only [Function.comp_def, hfilled]
  rfl

theorem dashes_fit (widths : List Nat) :
    List.Forall₂ (fun w c => c.length ≤ w) widths (widths.map dashes) := by
  rw [List.forall₂_map_right_iff, List.forall₂_same]
  intro w _
  simp [dashes]

/-- The texts of a row fit into the columns. -/
theorem row_fits {rows : List (List String)} {widths : List Nat} {row : List String}
    (hwidest : ∀ i w, widths[i]? = some w → WidestAt rows i w) (hrow : row ∈ rows)
    (hlength : widths.length = row.length) :
    List.Forall₂ (fun w c => c.length ≤ w) widths row := by
  refine List.forall₂_iff_get.2 ⟨hlength, fun i hw hc => ?_⟩
  exact (hwidest i _ (List.getElem?_eq_getElem hw)).fits row hrow _ (List.getElem?_eq_getElem hc)

theorem tableLines?_of_full {headers : List String} {rows : List (List String)} (hrows : rows ≠ [])
    (hfull : ∀ row ∈ rows, row.length = headers.length) :
    tableLines? headers rows
      = some (tableLine (columnWidths headers rows) headers :: dashedLine (columnWidths headers rows)
          :: rows.map (tableLine (columnWidths headers rows))) := by
  have hempty : rows.isEmpty = false := by simpa using hrows
  have hlong : (rows.any fun row => decide (headers.length < row.length)) = false := by
    rw [List.any_eq_false]
    intro row hrow
    rw [hfull row hrow, decide_eq_true_eq]
    exact Nat.lt_irrefl _
  rw [tableLines?, hempty, hlong]
  rfl

/-- **A table with as many cells in every row as there are headers**: its columns are as wide as they
have to be, and all of its lines show their texts in these. -/
theorem tableLines?_aligned {headers : List String} {rows : List (List String)} (hrows : rows ≠ [])
    (hfull : ∀ row ∈ rows, row.length = headers.length) :
    ∃ (widths : List Nat) (lines : List String),
      tableLines? headers rows = some lines
        ∧ widths.length = headers.length
        ∧ (∀ i w, widths[i]? = some w → WidestAt (headers :: rows) i w)
        ∧ List.Forall₂ (InColumns widths) (headers :: widths.map dashes :: rows) lines := by
  have hwidths := length_columnWidths headers rows
  have hwidest (i w : Nat) (hw : (columnWidths headers rows)[i]? = some w) :
      WidestAt (headers :: rows) i w := widestAt_columnWidths hfull hw
  refine ⟨_, _, tableLines?_of_full hrows hfull, hwidths, hwidest, ?_⟩
  rw [dashedLine_eq_tableLine]
  refine .cons ?_ (.cons (inColumns_tableLine (dashes_fit _)) ?_)
  · exact inColumns_tableLine (row_fits hwidest List.mem_cons_self hwidths)
  · rw [List.forall₂_map_right_iff, List.forall₂_same]
    intro row hrow
    have hlength := hwidths.trans (hfull row hrow).symm
    exact inColumns_tableLine (row_fits hwidest (List.mem_cons_of_mem _ hrow) hlength)

/-! ### Documents -/

theorem documentsText_whole {documents : List Fields}
    (h : ∀ v, Shows documents v → v.isWritable = true) :
    documentsText documents = ⟨unlines ((tableLines? (headersOf documents)
      ((documents.map (rowOf (headersOf documents))).map fun row =>
        row.map fun v => cellText (cellValue v))).getD []), true⟩ := by
  rw [documentsText, (areWritableRows_iff documents).2 h]
  rfl

theorem documentsText_broken {documents : List Fields} {v : Value} (hv : Shows documents v)
    (hlong : v.isWritable = false) : documentsText documents = ⟨"", false⟩ := by
  have hrows : areWritableRows (documents.map (rowOf (headersOf documents))) = false := by
    rw [Bool.eq_false_iff]
    intro h
    rw [(areWritableRows_iff documents).1 h v hv] at hlong
    contradiction
  rw [documentsText, hrows]
  rfl

/-- **A table of documents is complete and aligned.**  JSON objects show nothing but what can be
written.  Of documents that show nothing else the whole table is printed, which has no line when there
is no document.  When a whole number with too many digits would have to be shown, printing stops and
nothing has been printed. -/
theorem documentsText_tabulated (documents : List Fields) :
    ((∀ d ∈ documents, Json.IsObject d) → ∀ v, Shows documents v → v.isWritable = true)
      ∧ (∀ v, Shows documents v → v.isWritable = false → documentsText documents = ⟨"", false⟩)
      ∧ (documents = [] → documentsText documents = ⟨"", true⟩)
      ∧ ((∀ v, Shows documents v → v.isWritable = true) → documents ≠ [] →
        ∃ (headers : List String) (rows : List (List String)) (widths : List Nat)
          (lines : List String),
        documentsText documents = ⟨unlines lines, true⟩
          ∧ Collected (documents.flatMap Entries.keys) headers
          ∧ List.Forall₂ (fun d row => List.Forall₂ (CellOf d) headers row) documents rows
          ∧ widths.length = headers.length
          ∧ (∀ i w, widths[i]? = some w → WidestAt (headers :: rows) i w)
          ∧ List.Forall₂ (InColumns widths) (headers :: widths.map dashes :: rows) lines) := by
  refine ⟨?_, fun v hv hlong => documentsText_broken hv hlong, ?_, fun hwritable hsome => ?_⟩
  · rintro hjson v ⟨d, hd, key, -, hkey⟩
    exact (hjson d hd).isWritable hkey
  · rintro rfl
    rfl
  · -- The table consists of the cells of what is shown of each document.
    let cells : List (List String) := (documents.map (rowOf (headersOf documents))).map fun row =>
      row.map fun v => cellText (cellValue v)
    have hcells : cells ≠ [] := by simpa [cells] using hsome
    have hfull : ∀ row ∈ cells, row.length = (headersOf documents).length := by
      intro row hrow
      obtain ⟨values, hvalues, rfl⟩ := List.mem_map.1 hrow
      obtain ⟨d, -, rfl⟩ := List.mem_map.1 hvalues
      rw [List.length_map, rowOf, List.length_map]
    obtain ⟨widths, lines, hlines, haligned⟩ := tableLines?_aligned hcells hfull
    refine ⟨headersOf documents, cells, widths, lines, ?_, collected_headersOf documents, ?_,
      haligned⟩
    · rw [documentsText_whole hwritable]
      show (⟨unlines ((tableLines? (headersOf documents) cells).getD []), true⟩ : Printout) = _
      rw [hlines, Option.getD_some]
    · show List.Forall₂ _ documents ((documents.map (rowOf (headersOf documents))).map _)
      rw [List.map_map, List.forall₂_map_right_iff, List.forall₂_same]
      exact fun d _ => cellsOf_rowOf _ d

/-- Two documents, which share one of the three keys that are shown; a list is the widest cell of its
column, and the key of a number that is absent that of its own. -/
theorem documentsText_tabulated_two :
    let documents : List Fields :=
      [[("id", .str "d1"), ("_ts", .int 7), ("tags", .list [.int 1, .str "a"])],
        [("id", .str "d10"), ("count", .null)]]
    documentsText documents
        = ⟨unlines ["id   tags      count", "---  --------  -----", "d1   [1, \"a\"]       ",
          "d10                 "], true⟩
      ∧ (∀ v, Shows documents v → v.isWritable = true) ∧ documents ≠ []
      ∧ ∃ (headers : List String) (rows : List (List String)) (widths : List Nat)
          (lines : List String),
        documentsText documents = ⟨unlines lines, true⟩
          ∧ Collected (documents.flatMap Entries.keys) headers
          ∧ List.Forall₂ (fun d row => List.Forall₂ (CellOf d) headers row) documents rows
          ∧ widths.length = headers.length
          ∧ (∀ i w, widths[i]? = some w → WidestAt (headers :: rows) i w)
          ∧ List.Forall₂ (InColumns widths) (headers :: widths.map dashes :: rows) lines := by
  intro documents
  have hwritable : ∀ v, Shows documents v → v.isWritable = true :=
    (areWritableRows_iff documents).1 (by decide +kernel)
  obtain ⟨-, -, -, htable⟩ := documentsText_tabulated documents
  have htext : documentsText documents
      = ⟨unlines ["id   tags      count", "---  --------  -----", "d1   [1, \"a\"]       ",
        "d10                 "], true⟩ := by
    rw [documentsText_whole hwritable]
    decide
  have hsome : documents ≠ [] := by simp [documents]
  exact ⟨htext, hwritable, hsome, htable hwritable hsome⟩

end EntityStore.Console
