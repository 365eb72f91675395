import EntityStore.Proofs.Store.InOrder
import EntityStore.Proofs.Store.Selection

/-!
# Going through the pages of a query

`Call.pages` asks for the pages of a query, each with the token that came with the one before, until
a page comes without a token.  `pages_of_query` says that this ends, and that the documents of all
pages are those of one page that is large enough, in the same order, however large the single pages
are.  There are as many of them as the store counts.

A call for a page is answered with a page of the container (`Call.run_query`), and leaves the
documents alone.  A page that starts at a place is followed by those that start behind its last
document, so the invariant of the chain is that the pages from a place on make up the documents
from that place on (`pages_from`).
-/

namespace EntityStore

/-! ### Asking for all pages -/

/-- **The documents of all pages of a query.**  The pages are asked for one after the other, each
with the token that came with the one before and with a limit of its own, until one comes without
a token; at most so many calls are made. -/
def Call.pages {σ κ : Type} (b : Backend σ κ) (entity : String) (q : Query) :
    (calls : Nat) → (limits : Nat → Option Int) → (token : Option String) →
      Run (Session σ κ) (List Fields)
  | 0, _, _ => throw .endless
  | n + 1, limits, token => do
    let asked := { q with limit := limits 0, continuationToken := token }
    match ← (Call.query (some entity) (.ready asked)).run b with
    | .page ⟨items, none⟩ => return items
    | .page ⟨items, some token⟩ =>
      return items ++ (← pages b entity q n (fun i => limits (i + 1)) (some token))
    | _ => return []

/-! ### Pages of documents -/

/-- A page of documents is a result page. -/
theorem inPage_objects (documents : List Fields) (token : Option String) :
    inPage ⟨documents.map .object, token⟩ = .ok ⟨documents, token⟩ := by
  have hfaultless {fault : Value × Nat → Option Fault}
      (hfault : ∀ d i, fault (.object d, i) = none) :
      (documents.map Value.object).zipIdx.filterMap fault = [] := by
    refine List.filterMap_eq_nil_iff.2 ?_
    rintro ⟨v, i⟩ hp
    obtain ⟨d, -, rfl⟩ := List.mem_map.1 (List.fst_mem_of_mem_zipIdx hp)
    exact hfault d i
  have hfields : (documents.map Value.object).filterMap Value.fields? = documents := by
    rw [List.filterMap_map]
    exact List.filterMap_some
  rw [inPage, QueryResult.ofItems, hfaultless fun _ _ => rfl, hfields]
  rfl

section

variable {σ : Type} {b : Backend σ String} {memory : σ → Memory} {s : Session σ String}
  {entity : String} {config : ContainerConfig}

open Session MemoryContainer

/-- **A query** is answered with a page of the container. -/
theorem Call.run_query (hb : b.InMemory memory) (h : s.InOrder memory)
    (hentity : Text.isBlankText entity = false)
    (hknown : (s.router.registry.lookup entity).1 = .ok config) {q : Query} {statement : Statement}
    (hstatement : Sql.selectStatement q = .ok statement) :
    ∃ s', (Call.query (some entity) (.ready q)).run b s
        = ((((memory s.outside).container config.containerId).page (memory s.outside).maxPageSize
            { statement := statement, size := q.limit.getD s.pageSize
              token := q.continuationToken } >>= inPage).map .page, s')
      ∧ s'.InOrder memory ∧ s.Browsed memory s' := by
  obtain ⟨s₁, hresolve, hs₁, hresolved⟩ := h.resolve_known hb hknown
  -- Preparing the call looks at its arguments only.
  have hprepare : (Call.query (some entity) (.ready q)).prepare b s
      = (.ok (.ready entity (.query { statement := statement, size := q.limit.getD s.pageSize
                                      token := q.continuationToken })), s) := by
    refine (Run.lift_bind_eq (require_ok hentity) _ s).trans ?_
    refine (Run.lift_bind_eq (show requireQuery (.ready q) = .ok q from rfl) _ s).trans ?_
    rw [hstatement]
    rfl
  -- The page is one of the container, whose documents provisioning has left alone.
  obtain ⟨s', hconsult, hpaged⟩ := consult_page_eq hb hs₁.database.unscripted config.containerId
    { statement := statement, size := q.limit.getD s.pageSize, token := q.continuationToken }
  have hbrowsed : s.Browsed memory s' := IsTrans.trans _ _ _ hresolved.browsed hpaged.browsed
  refine ⟨s', ?_, hs₁.paged hpaged, hbrowsed⟩
  rw [Call.run_of_ready hprepare hresolve, Work.perform, Run.bind_eq, hconsult,
    hresolved.browsed.settings.maxPageSize,
    page_congr (hresolved.browsed.documents config.containerId)]
  cases ((memory s.outside).container config.containerId).page (memory s.outside).maxPageSize _ with
  | error e => rfl
  | ok page => exact Run.bind_pure_eq (liftM (inPage page)) Answer.page s'

/-- **A count** is answered with how many documents the request is about. -/
theorem Call.run_count (hb : b.InMemory memory) (hpatient : b.Patient memory)
    (h : s.InOrder memory) (hentity : Text.isBlankText entity = false)
    (hknown : (s.router.registry.lookup entity).1 = .ok config) {q : Query} {statement : Statement}
    (hstatement : Sql.countStatement q = .ok statement) (hcounts : counts statement = true) :
    ∃ s', (Call.count (some entity) (.ready q)).run b s
      = (.ok (.count (((memory s.outside).container config.containerId).selected
          { statement := statement, size := s.pageSize }).length), s') := by
  obtain ⟨s₁, hresolve, hs₁, hresolved⟩ := h.resolve_known hb hknown
  have hprepare : (Call.count (some entity) (.ready q)).prepare b s
      = (.ok (.ready entity (.count { statement := statement, size := s.pageSize })), s) := by
    refine (Run.lift_bind_eq (require_ok hentity) _ s).trans ?_
    refine (Run.lift_bind_eq (show requireCounted (.ready q) = .ok q from rfl) _ s).trans ?_
    rw [hstatement]
    rfl
  -- A count is one page, for which any patience is enough.
  obtain ⟨patience, hpatience⟩ : ∃ n, b.patience s₁.outside = n + 1 :=
    Nat.exists_eq_succ_of_ne_zero (Nat.ne_zero_of_lt (hpatient s₁.outside config.containerId))
  obtain ⟨s', hdrain, -⟩ := drain_eq hb hs₁.database.unscripted config.containerId absorbCounts
    (patience + 1) { statement := statement, size := s.pageSize } 0
  rw [gather_congr (hresolved.browsed.documents config.containerId), gather_counts hcounts]
    at hdrain
  refine ⟨s', ?_⟩
  rw [Call.run_of_ready hprepare hresolve]
  show (drain b config.containerId absorbCounts (b.patience s₁.outside) _ 0
    >>= fun n => pure (Answer.count n)) s₁ = _
  rw [hpatience, Run.bind_pure_eq, hdrain]
  rfl

/-! ### Chains of queries -/

section

variable {q : Query} {statement : Statement} {documents : List Fields}

/-- **A page of a query** is a part of its documents, from the place of its token on. -/
theorem Call.run_page (hb : b.InMemory memory) (h : s.InOrder memory)
    (hentity : Text.isBlankText entity = false)
    (hknown : (s.router.registry.lookup entity).1 = .ok config)
    (hstatement : Sql.selectStatement q = .ok statement) (hcounts : counts statement = false)
    (hdocuments : ∀ r : PageRequest, r.statement = statement → r.partition = .null →
      ((memory s.outside).container config.containerId).selected r = documents)
    {limit : Option Int} (hlimit : 1 ≤ limit.getD s.pageSize) {token : Option String} {place : Nat}
    (hplace : placeOf token = .ok (place : Int)) :
    let length := pageLength (memory s.outside).maxPageSize (limit.getD s.pageSize)
    ∃ s', (Call.query (some entity)
          (.ready { q with limit := limit, continuationToken := token })).run b s
        = (.ok (.page ⟨(documents.drop place).take length,
          if place + length < documents.length then
            some (toString ((place + length : Nat) : Int)) else none⟩), s')
      ∧ s'.InOrder memory ∧ s.Browsed memory s' := by
  intro length
  obtain ⟨s', hquery, hs', hbrowsed⟩ := Call.run_query hb h hentity hknown
    (q := { q with limit := limit, continuationToken := token }) hstatement
  have hlength : 1 ≤ length := le_pageLength hlimit h.database.pages
  rw [page_eq (r := { statement := statement, size := limit.getD s.pageSize, token := token })
    hcounts hplace hlength, hdocuments _ rfl rfl] at hquery
  refine ⟨s', ?_, hs', hbrowsed⟩
  rw [hquery]
  show ((inPage ⟨((documents.drop place).take length).map .object, _⟩).map Answer.page, s') = _
  rw [inPage_objects]
  rfl

/-- **The pages from a place on** make up the documents from that place on. -/
theorem Call.pages_from (hb : b.InMemory memory) (h : s.InOrder memory)
    (hentity : Text.isBlankText entity = false)
    (hknown : (s.router.registry.lookup entity).1 = .ok config)
    (hstatement : Sql.selectStatement q = .ok statement) (hcounts : counts statement = false)
    (hdocuments : ∀ r : PageRequest, r.statement = statement → r.partition = .null →
      ((memory s.outside).container config.containerId).selected r = documents)
    (hnumerals : documents.length ≤ 10 ^ maxDigits) {limits : Nat → Option Int}
    (hlimits : ∀ i, 1 ≤ (limits i).getD s.pageSize) {calls : Nat} {token : Option String}
    {place : Nat} (hplace : placeOf token = .ok (place : Int))
    (hcalls : documents.length < place + calls) (hne : calls ≠ 0) :
    (Call.pages b entity q calls limits token s).1 = .ok (documents.drop place) := by
  induction calls generalizing s limits token place with
  | zero => exact absurd rfl hne
  | succ n ih =>
    obtain ⟨s', hpage, hs', hbrowsed⟩ := Call.run_page hb h hentity hknown hstatement hcounts
      hdocuments (hlimits 0) hplace
    have hlength : 1 ≤ pageLength (memory s.outside).maxPageSize ((limits 0).getD s.pageSize) :=
      le_pageLength (hlimits 0) h.database.pages
    -- Of the length of the page only that it is positive matters: the chain gets on.
    generalize pageLength (memory s.outside).maxPageSize ((limits 0).getD s.pageSize) = length
      at hpage hlength
    rw [Call.pages, Run.bind_eq, hpage]
    by_cases hmore : place + length < documents.length
    · -- The token of a page that leads on is read back as the place behind it.
      have hnext : placeOf (some (toString ((place + length : Nat) : Int)))
          = .ok ((place + length : Nat) : Int) := by
        rw [placeOf_place, if_pos (by omega)]
      have hdocuments' (r : PageRequest) (hr : r.statement = statement)
          (hpartition : r.partition = .null) :
          ((memory s'.outside).container config.containerId).selected r = documents := by
        rw [← hdocuments r hr hpartition, selected, selected, hbrowsed.documents]
      have hlimits' (i : Nat) : 1 ≤ (limits (i + 1)).getD s'.pageSize := by
        rw [hbrowsed.pageSize]
        exact hlimits (i + 1)
      -- The page has changed nothing, so the rest of the chain starts from the same documents.
      have hrest := ih hs' ((hbrowsed.registry entity).trans hknown) hdocuments' hlimits' hnext
        (by omega) (by omega)
      rw [if_pos hmore]
      dsimp only
      rw [Run.bind_pure_eq, hrest, ← List.drop_drop]
      show Except.ok (_ ++ (documents.drop place).drop length) = _
      rw [List.take_append_drop]
    · -- What is left fits on this page.
      rw [if_neg hmore]
      show Except.ok ((documents.drop place).take length) = _
      rw [List.take_of_length_le]
      rw [List.length_drop]
      omega

end

/-- **Going through the pages of a query loses and repeats nothing**, over a database in memory
whose documents stay as they are.  For a known entity, a filter in wire form and no sort keys
there are documents of which three things hold.  A page that is large enough for them is all of
them, and comes without a token.  The store counts as many.  And whatever limits the single pages
have, the default page size included, and whatever the database allows, asking for each page with
the token of the one before comes to an end after as many calls as there are documents and one
more, and gives these documents, in this order.

Tokens are numerals, and those with too many digits are not read; no list of documents is as
long. -/
theorem pages_of_query (b : Backend σ String) (memory : σ → Memory) (hb : b.InMemory memory)
    (hpatient : b.Patient memory) (s : Session σ String) (h : s.InOrder memory) (entity : String)
    (config : ContainerConfig) (hentity : Text.isBlankText entity = false)
    (hknown : (s.router.registry.lookup entity).1 = .ok config) (q : Query) (hsort : q.sort = [])
    (hfilter : ∀ x, q.filter = .scalar x → x = .null)
    (hnumerals : ((memory s.outside).container config.containerId).documents.length
      ≤ 10 ^ maxDigits) :
    ∃ documents : List Fields,
      (∀ s' : Session σ String, s'.InOrder memory →
        (s'.router.registry.lookup entity).1 = .ok config →
        ((memory s'.outside).container config.containerId).documents
          = ((memory s.outside).container config.containerId).documents →
        (∀ m, (memory s'.outside).maxPageSize = some m → documents.length ≤ m) →
        ∀ limit : Int, 1 ≤ limit → documents.length ≤ limit →
          ((Call.query (some entity) (.ready
            { q with limit := some limit, continuationToken := none })).run b s').1
            = .ok (.page ⟨documents, none⟩))
      ∧ ((Call.count (some entity) (.ready q)).run b s).1 = .ok (.count documents.length)
      ∧ ∀ limits : Nat → Option Int, (∀ i, 1 ≤ (limits i).getD s.pageSize) →
        ∀ calls, documents.length < calls →
          (Call.pages b entity q calls limits none s).1 = .ok documents := by
  obtain ⟨statement, count, hstatement, hcount, hselects, hcounts, hsame⟩ :=
    selected_select_count hsort hfilter
  let container := (memory s.outside).container config.containerId
  let documents := container.selected { statement := statement, size := s.pageSize }
  -- What is selected depends on neither the size of a page nor the place of it.
  have hdocuments (r : PageRequest) (hr : r.statement = statement)
      (hpartition : r.partition = .null) : container.selected r = documents := by
    show _ = container.selected _
    rw [selected, selected, hr, hpartition]
  have hplace : placeOf none = .ok ((0 : Nat) : Int) := rfl
  refine ⟨documents, ?_, ?_, ?_⟩
  · -- A page that is large enough holds all of it.
    intro s' h' hknown' hcontent hmax limit hlimit hlarge
    have hdocuments' (r : PageRequest) (hr : r.statement = statement)
        (hpartition : r.partition = .null) :
        ((memory s'.outside).container config.containerId).selected r = documents := by
      rw [← hdocuments r hr hpartition, selected, selected, hcontent]
    have hasked : 1 ≤ (some limit).getD s'.pageSize := hlimit
    obtain ⟨s'', hpage, -⟩ := Call.run_page hb h' hentity hknown' hstatement hselects hdocuments'
      hasked hplace
    have hlength : documents.length
        ≤ pageLength (memory s'.outside).maxPageSize ((some limit).getD s'.pageSize) :=
      le_pageLength hlarge hmax
    rw [hpage, if_neg (by omega), List.drop_zero, List.take_of_length_le hlength]
  · -- What is counted is selected by the same condition.
    obtain ⟨s', hrun⟩ := Call.run_count hb hpatient h hentity hknown hcount hcounts
    rw [hrun, ← hsame container { statement := statement, size := s.pageSize }
      { statement := count, size := s.pageSize } rfl rfl rfl]
  · -- The chain starts in front of all of it.
    intro limits hlimits calls hcalls
    have hnumerals' : documents.length ≤ 10 ^ maxDigits :=
      (length_selected_le _ _).trans hnumerals
    exact Call.pages_from hb h hentity hknown hstatement hselects hdocuments hnumerals' hlimits
      hplace (by omega) (by omega)

end

/-- Three orders of one tenant, in a database that gives out pages of limited size. -/
def threeOrders (maxPageSize : Option Int) : Session LocalState String :=
  let stored (id : String) : DocumentKey × Fields :=
    (⟨.str "a", id⟩, [("tenantId", .str "a"), ("id", .str id)])
  let container : MemoryContainer :=
    { partitionPath := ["tenantId"], documents := [stored "1", stored "2", stored "3"] }
  ⟨{ registry := .ofList [⟨"order", "orders", "tenantId"⟩] false }, 10,
    { memory := { containers := [("orders", container)], maxPageSize := maxPageSize }
      clock := ⟨⟨2024, 1, 1⟩, 0, 0, 0, 0, none⟩, ids := ⟨[], 0⟩ }⟩

/-- The pages hold one order, two orders, and no more: there are three of them, in the order in
which they were written. -/
theorem pages_of_query_threeOrders :
    let s := threeOrders (some 2)
    let limits (i : Nat) : Option Int := if i = 0 then some 1 else none
    s.InOrder LocalState.memory
      ∧ ∃ documents, documents.map (·.get? Document.idField)
          = [some (.str "1"), some (.str "2"), some (.str "3")]
        ∧ ((Call.count (some "order") (.ready {})).run LocalState.backend s).1
          = .ok (.count documents.length)
        ∧ (Call.pages LocalState.backend "order" {} 4 limits none s).1 = .ok documents := by
  intro s limits
  have hinOrder (m : Int) (hm : 1 ≤ m) : (threeOrders (some m)).InOrder LocalState.memory := by
    refine .of_opened ⟨Int.le_refl 0, rfl, ?_⟩ rfl rfl
    rintro n ⟨⟩
    exact hm
  have hnumerals : 3 ≤ 10 ^ maxDigits :=
    (show 3 ≤ 10 ^ 1 by decide).trans (Nat.pow_le_pow_right (by decide) (by decide))
  obtain ⟨documents, hlarge, hcount, hpages⟩ := pages_of_query LocalState.backend LocalState.memory
    LocalState.backend_inMemory LocalState.backend_patient s (hinOrder 2 (by decide)) "order"
    ⟨"order", "orders", "tenantId"⟩ (by decide) rfl {} rfl (fun x hx => by cases hx; rfl) hnumerals
  -- The general statement gives the documents, and the count says how many they are.
  have hlength : documents.length = 3 := by
    let counted := ((Call.count (some "order") (.ready {})).run LocalState.backend s).1
    have hcounted : (counted.toOption.map fun a => match a with
          | .count n => n
          | _ => 0) = some 3 := by decide +kernel
    dsimp only [counted] at hcounted
    rw [hcount] at hcounted
    exact Int.natCast_inj.1 (Option.some.inj hcounted)
  have hpage := hlarge (threeOrders (some 3)) (hinOrder 3 (by decide)) rfl rfl
    (by rintro m ⟨⟩; omega) 3 (by decide) (by omega)
  have hthree : documents.map (·.get? Document.idField)
      = [some (.str "1"), some (.str "2"), some (.str "3")] := by
    cases hpage
    rfl
  refine ⟨hinOrder 2 (by decide), documents, hthree, hcount, hpages limits ?_ 4 (by omega)⟩
  intro i
  show 1 ≤ (if i = 0 then some 1 else none : Option Int).getD 10
  split <;> decide

end EntityStore
