import EntityStore.Proofs.Number.Numeral
import EntityStore.Proofs.Store.Run
import EntityStore.Store.Memory

/-!
# Pages of a container

A page is cut from the documents that a request is about, from the place that its token stands
for.  It is as large as the request asks for, up to the limit of the database (`pageLength`), and
its token is the place behind its last document, if there are more (`page_eq`).  What a request is
about does not depend on the page.

A chain of pages asks for each page with the token of the one before.  `MemoryContainer.gather`
goes through the chain in a container that does not change.  Pages of any lengths cut the
documents without a gap, so what is made of them one after the other is what is made of all
documents at once (`gather_eq`).  Every page takes the chain further, so it makes no difference
how many may be asked for, once there may be more than there are documents (`gather_patient`).

Places are written as numerals, and a numeral that is too long is not read back.  So `gather_eq`
asks for no more documents than numerals can count, which is more than any memory holds.
-/

namespace EntityStore

/-! ### What is made of pages -/

/-- **What is made of pages one after the other** is what is made of their items at once. -/
def Sequential {α : Type} (absorb : α → List Value → Except Failure (Absorbed α)) : Prop :=
  ∀ soFar items more, absorb soFar (items ++ more) = (absorb soFar items >>= fun
    | .stop result => .ok (.stop result)
    | .goOn soFar => absorb soFar more)

namespace MemoryContainer

/-! ### Single pages -/

/-- The size of a page that a request is answered with. -/
def pageSize (maxSize : Option Int) (size : Int) : Int :=
  match maxSize with
  | some m => min size m
  | none => size

/-- How many documents a page has at most. -/
def pageLength (maxSize : Option Int) (size : Int) : Nat := (pageSize maxSize size).toNat

/-- A page is as large as the request and the database allow. -/
theorem le_pageLength {maxSize : Option Int} {size : Int} {n : Nat} (hsize : n ≤ size)
    (hmax : ∀ m, maxSize = some m → (n : Int) ≤ m) : n ≤ pageLength maxSize size := by
  have hpage : (n : Int) ≤ pageSize maxSize size := by
    cases maxSize with
    | none => exact hsize
    | some m => exact le_min hsize (hmax m rfl)
  rw [pageLength]
  omega

/-- A part of a list that lies behind its start. -/
theorem slice_eq {α : Type} (l : List α) (start length : Nat) :
    slice l start (start + length : Nat) = (l.drop start).take length := by
  have hplace (i : Nat) :
      (if (i : Int) < 0 then (i : Int) + l.length else i).toNat = i := by
    rw [if_neg (by omega)]
    rfl
  rw [slice]
  dsimp only
  rw [hplace, hplace, Nat.add_sub_cancel_left]

/-- The token of a place. -/
theorem placeOf_place (place : Nat) :
    placeOf (some (toString (place : Int)))
      = (if place < 10 ^ maxDigits then .ok (place : Int)
        else .error (.numeral (.tooLong (Nat.toDigits 10 place).length))) := by
  have htoken : toString (place : Int) = toString place := rfl
  have hne : (toString place).isEmpty = false := by
    rw [String.isEmpty_eq_false_iff, Nat.toString_eq_ofList_toDigits, ne_eq,
      ← String.toList_inj, String.toList_ofList]
    exact Nat.toDigits_ne_nil
  rw [htoken, placeOf, hne, if_neg Bool.false_ne_true, Numeral.read_toString]
  split <;> rfl

theorem leadsOn_place (place : Nat) : leadsOn (some (toString (place : Int))) = true := by
  have hne : (toString place).isEmpty = false := by
    rw [String.isEmpty_eq_false_iff, Nat.toString_eq_ofList_toDigits, ne_eq,
      ← String.toList_inj, String.toList_ofList]
    exact Nat.toDigits_ne_nil
  show (!(toString place).isEmpty) = true
  rw [hne]
  rfl

variable {c : MemoryContainer} {maxSize : Option Int} {r : PageRequest}

/-- A page of documents, if its place is read. -/
theorem page_of_not_counts (hcounts : counts r.statement = false) :
    c.page maxSize r = (placeOf r.token).map fun place =>
      ⟨(slice (c.selected r) place (place + pageSize maxSize r.size)).map .object,
        if place + pageSize maxSize r.size < (c.selected r).length then
          some (toString (place + pageSize maxSize r.size)) else none⟩ := by
  unfold page
  dsimp only
  rw [hcounts, if_neg Bool.false_ne_true]
  cases placeOf r.token <;> rfl

/-- **A page** is a part of what the request is about, from its place on. -/
theorem page_eq (hcounts : counts r.statement = false) {place : Nat}
    (hplace : placeOf r.token = .ok (place : Int)) (hsize : 1 ≤ pageLength maxSize r.size) :
    c.page maxSize r
      = .ok ⟨(((c.selected r).drop place).take (pageLength maxSize r.size)).map .object,
        if place + pageLength maxSize r.size < (c.selected r).length then
          some (toString ((place + pageLength maxSize r.size : Nat) : Int)) else none⟩ := by
  have hlength : pageSize maxSize r.size = (pageLength maxSize r.size : Int) := by
    rw [pageLength] at hsize ⊢
    omega
  rw [page_of_not_counts hcounts, hplace, hlength, Except.map, ← Int.natCast_add, slice_eq]
  simp only [Nat.cast_lt]

/-- A count is a page by itself. -/
theorem page_counts (hcounts : counts r.statement = true) :
    c.page maxSize r = .ok ⟨[.int (c.selected r).length], none⟩ := by
  unfold page
  dsimp only
  rw [hcounts, if_pos rfl]
  rfl

/-- A page depends on the documents of the container only. -/
theorem page_congr {c' : MemoryContainer} (h : c.documents = c'.documents) (maxSize : Option Int)
    (r : PageRequest) : c.page maxSize r = c'.page maxSize r := by
  have hselected : c.selected r = c'.selected r := by rw [selected, selected, h]
  unfold page
  rw [hselected]

/-- **What a request is about** are documents of the container, in their order. -/
theorem selected_sublist (c : MemoryContainer) (r : PageRequest) :
    (c.selected r).Sublist (c.documents.map Prod.snd) := by
  have hpartition (isAsked : DocumentKey × Fields → Bool) :
      ((c.documents.filter isAsked).map Prod.snd).Sublist (c.documents.map Prod.snd) :=
    List.filter_sublist.map Prod.snd
  rw [selected]
  dsimp only
  split
  · exact List.filter_sublist.trans (hpartition _)
  · split
    · split
      · exact List.filter_sublist.trans (hpartition _)
      · exact hpartition _
    · exact hpartition _

theorem length_selected_le (c : MemoryContainer) (r : PageRequest) :
    (c.selected r).length ≤ c.documents.length := by
  have hlength := (selected_sublist c r).length_le
  rw [List.length_map] at hlength
  exact hlength

/-- **The items of a page** are documents that the request is about. -/
theorem mem_page (hcounts : counts r.statement = false) {page : Page}
    (hpage : c.page maxSize r = .ok page) {v : Value} (hv : v ∈ page.items) :
    ∃ d ∈ c.selected r, v = .object d := by
  rw [page_of_not_counts hcounts] at hpage
  cases hplace : placeOf r.token with
  | error e =>
    rw [hplace] at hpage
    cases hpage
  | ok place =>
    rw [hplace] at hpage
    cases hpage
    obtain ⟨d, hd, rfl⟩ := List.mem_map.1 hv
    exact ⟨d, List.mem_of_mem_drop (List.mem_of_mem_take hd), rfl⟩

/-! ### Chains of pages -/

section Chains

variable {α : Type} {absorb : α → List Value → Except Failure (Absorbed α)}

/-- **Goes through a chain of pages** of a container that does not change. -/
def gather (c : MemoryContainer) (maxSize : Option Int)
    (absorb : α → List Value → Except Failure (Absorbed α)) :
    (patience : Nat) → PageRequest → α → Except Failure α
  | 0, _, _ => .error .endless
  | n + 1, request, soFar => do
    let page ← c.page maxSize request
    match ← absorb soFar page.items with
    | .stop result => return result
    | .goOn soFar =>
      if leadsOn page.token then
        gather c maxSize absorb n { request with token := page.token } soFar
      else return soFar

/-- How a chain of pages goes on behind one page. -/
theorem gather_page {n : Nat} {page : Page} (hpage : c.page maxSize r = .ok page) (soFar : α) :
    c.gather maxSize absorb (n + 1) r soFar = (absorb soFar page.items >>= fun
      | .stop result => .ok result
      | .goOn soFar =>
        if leadsOn page.token then
          c.gather maxSize absorb n { r with token := page.token } soFar
        else .ok soFar) := by
  rw [gather, hpage]
  rfl

/-- A chain of pages depends on the documents of the container only. -/
theorem gather_congr {c' : MemoryContainer} (h : c.documents = c'.documents) (n : Nat)
    (r : PageRequest) (soFar : α) :
    c.gather maxSize absorb n r soFar = c'.gather maxSize absorb n r soFar := by
  induction n generalizing r soFar with
  | zero => rfl
  | succ n ih =>
    rw [gather, gather, page_congr h]
    simp only [ih]

/-- **What a chain of pages comes to** is made of documents that the request is about. -/
theorem gather_keeps {P : α → Prop} (hcounts : counts r.statement = false)
    (habsorb : ∀ {soFar items a}, P soFar → (∀ v ∈ items, ∃ d ∈ c.selected r, v = .object d) →
      absorb soFar items = .ok a → P a.result) {n : Nat} {soFar result : α} (hstart : P soFar)
    (h : c.gather maxSize absorb n r soFar = .ok result) : P result := by
  induction n generalizing r soFar with
  | zero => cases h
  | succ n ih =>
    cases hpage : c.page maxSize r with
    | error e =>
      rw [gather, hpage] at h
      cases h
    | ok page =>
      rw [gather_page hpage] at h
      -- Whatever the place of the page, its items are among the documents selected.
      have hitems : ∀ v ∈ page.items, ∃ d ∈ c.selected r, v = .object d :=
        fun v => mem_page hcounts hpage
      cases hnext : absorb soFar page.items with
      | error e =>
        rw [hnext] at h
        cases h
      | ok absorbed =>
        have hkept := habsorb hstart hitems hnext
        rw [hnext] at h
        cases absorbed with
        | stop result' =>
          cases h
          exact hkept
        | goOn soFar' =>
          replace h : (if leadsOn page.token then
              c.gather maxSize absorb n { r with token := page.token } soFar'
            else .ok soFar') = .ok result := h
          split at h
          · -- The chain goes on, and what holds of the result so far is handed on.
            exact ih (r := { r with token := page.token }) hcounts habsorb hkept h
          · cases h
            exact hkept

/-- **A count** is what a chain of one page comes to. -/
theorem gather_counts (hcounts : counts r.statement = true) (n : Nat) :
    c.gather maxSize absorbCounts (n + 1) r 0 = .ok ((c.selected r).length : Int) := by
  have habsorb (k : Int) : absorbCounts 0 [.int k] = .ok (.goOn k) := by
    show Except.ok (Absorbed.goOn (0 + k)) = _
    rw [Int.zero_add]
  rw [gather_page (page_counts hcounts), habsorb]
  rfl

/-- A place that is not read ends the chain. -/
theorem gather_of_misplaced (hcounts : counts r.statement = false) {e : Failure}
    (hplace : placeOf r.token = .error e) (n : Nat) (soFar : α) :
    c.gather maxSize absorb (n + 1) r soFar = .error e := by
  have hpage : c.page maxSize r = .error e := by
    rw [page_of_not_counts hcounts, hplace, Except.map]
  rw [gather, hpage]
  rfl

/-- **A chain of pages** comes to what is made of all documents from its place on. -/
theorem gather_eq (habsorb : Sequential absorb) {n : Nat} {soFar : α}
    (hcounts : counts r.statement = false) {place : Nat}
    (hplace : placeOf r.token = .ok (place : Int)) (hsize : 1 ≤ pageLength maxSize r.size)
    (hnumerals : (c.selected r).length ≤ 10 ^ maxDigits)
    (hpatience : (c.selected r).length < place + n) (hn : n ≠ 0) :
    c.gather maxSize absorb n r soFar
      = (absorb soFar (((c.selected r).drop place).map .object)).map Absorbed.result := by
  induction n generalizing r place soFar with
  | zero => exact absurd rfl hn
  | succ n ih =>
    rw [gather_page (page_eq hcounts hplace hsize)]
    dsimp only
    split
    case isTrue hmore =>
      -- The next place lies within the documents, so its numeral is not too long to be read back.
      have hnext : placeOf (some (toString ((place + pageLength maxSize r.size : Nat) : Int)))
          = .ok ((place + pageLength maxSize r.size : Nat) : Int) := by
        rw [placeOf_place, if_pos (by omega)]
      have hcut : ((c.selected r).drop place).map Value.object
          = (((c.selected r).drop place).take (pageLength maxSize r.size)).map .object
            ++ ((c.selected r).drop (place + pageLength maxSize r.size)).map .object := by
        rw [← List.map_append, ← List.drop_drop, List.take_append_drop]
      rw [hcut, habsorb]
      cases absorb soFar
          ((((c.selected r).drop place).take (pageLength maxSize r.size)).map .object) with
      | error e => rfl
      | ok absorbed =>
        cases absorbed with
        | stop result => rfl
        -- Absorbing the page and then the rest is absorbing both at once.
        | goOn soFar =>
          show (if leadsOn _ = true then _ else _) = _
          rw [if_pos (leadsOn_place _)]
          have hpatience' : (c.selected r).length < place + pageLength maxSize r.size + n := by
            omega
          exact ih (r := { r with token := some _ }) hcounts hnext hsize hnumerals hpatience'
            (by omega)
    case isFalse hmore =>
      -- This page is the last one, and holds all that is left.
      have hrest : ((c.selected r).drop place).take (pageLength maxSize r.size)
          = (c.selected r).drop place := by
        rw [List.take_of_length_le]
        rw [List.length_drop]
        omega
      rw [hrest]
      cases absorb soFar (((c.selected r).drop place).map .object) with
      | error e => rfl
      | ok absorbed => cases absorbed <;> rfl

/-- **It makes no difference how many pages may be asked for**, once there may be more than there
are documents from the place on. -/
theorem gather_patient {n m : Nat} {soFar : α} (hcounts : counts r.statement = false) {place : Nat}
    (hplace : placeOf r.token = .ok (place : Int)) (hsize : 1 ≤ pageLength maxSize r.size)
    (hn : (c.selected r).length < place + n) (hm : (c.selected r).length < place + m)
    (hn' : n ≠ 0) (hm' : m ≠ 0) :
    c.gather maxSize absorb n r soFar = c.gather maxSize absorb m r soFar := by
  induction n generalizing m r place soFar with
  | zero => exact absurd rfl hn'
  | succ n ih =>
    obtain ⟨m, rfl⟩ := Nat.exists_eq_succ_of_ne_zero hm'
    rw [gather_page (page_eq hcounts hplace hsize), gather_page (page_eq hcounts hplace hsize)]
    congr 1
    funext absorbed
    cases absorbed with
    | stop result => rfl
    | goOn soFar =>
      dsimp only
      split
      case isFalse hlast => rfl
      case isTrue hmore =>
        have htoken := placeOf_place (place + pageLength maxSize r.size)
        have hn'' : (c.selected r).length < place + pageLength maxSize r.size + n := by omega
        have hm'' : (c.selected r).length < place + pageLength maxSize r.size + m := by omega
        rw [leadsOn_place, if_pos rfl, if_pos rfl]
        split at htoken
        -- The next place is read back, and both go on from it.
        case isTrue hshort =>
          exact ih (r := { r with token := some _ }) hcounts htoken hsize hn'' hm'' (by omega)
            (by omega)
        -- Its numeral is too long, and both are patient enough to fail at the next page.
        case isFalse hlong =>
          obtain ⟨n, rfl⟩ := Nat.exists_eq_succ_of_ne_zero (n := n) (by omega)
          obtain ⟨m, rfl⟩ := Nat.exists_eq_succ_of_ne_zero (n := m) (by omega)
          rw [gather_of_misplaced (r := { r with token := some _ }) hcounts htoken,
            gather_of_misplaced (r := { r with token := some _ }) hcounts htoken]

/-- A chain from the first page on may be let go on for as long as one likes, once there may be more
pages than there are documents. -/
theorem gather_alike {n m : Nat} {soFar : α}
    (hsize : counts r.statement = true ∨ 1 ≤ pageLength maxSize r.size) (htoken : r.token = none)
    (hn : c.documents.length < n) (hm : c.documents.length < m) :
    c.gather maxSize absorb n r soFar = c.gather maxSize absorb m r soFar := by
  have hlength := length_selected_le c r
  cases hcounts : counts r.statement with
  | true =>
    obtain ⟨n, rfl⟩ := Nat.exists_eq_succ_of_ne_zero (Nat.ne_zero_of_lt hn)
    obtain ⟨m, rfl⟩ := Nat.exists_eq_succ_of_ne_zero (Nat.ne_zero_of_lt hm)
    rw [gather_page (page_counts hcounts), gather_page (page_counts hcounts)]
    rfl
  | false =>
    have hstart : placeOf r.token = .ok ((0 : Nat) : Int) := by
      rw [htoken]
      rfl
    have hpage := hsize.resolve_left (by rw [hcounts]; exact Bool.false_ne_true)
    exact gather_patient hcounts hstart hpage (by omega) (by omega) (by omega) (by omega)

end Chains

end MemoryContainer

end EntityStore
