import EntityStore.Proofs.Store.Course

/-!
# Where answers come from

Every document that a call is answered with is one of the container of the entity that the call
names, and what it counts are documents of that container (`Call.Course.drawn`).
-/

namespace EntityStore

/-- **An answer that is drawn from a container**: the documents in it are documents of the
container, and a count is that of documents of the container which a request is about. -/
def Answer.DrawnFrom (c : MemoryContainer) : Answer String → Prop
  | .document v => ∃ d ∈ c.documents.map Prod.snd, v = .object d
  | .documents found => ∀ q ∈ found, ∃ d ∈ c.documents.map Prod.snd, q.2 = .object d
  | .page result => ∀ d ∈ result.items, d ∈ c.documents.map Prod.snd
  | .count n => ∃ r : PageRequest, n = (c.selected r).length
  | .container _ | .noDocument | .deleted => True

/-- Only the documents of the container matter. -/
theorem Answer.DrawnFrom.congr {c c' : MemoryContainer} {a : Answer String} (h : a.DrawnFrom c)
    (hdocuments : c'.documents = c.documents) : a.DrawnFrom c' := by
  cases a with
  | document | documents | page =>
    rw [DrawnFrom, hdocuments]
    exact h
  | count n =>
    obtain ⟨r, hr⟩ := h
    refine ⟨r, ?_⟩
    rw [hr, MemoryContainer.selected, MemoryContainer.selected, hdocuments]
  | container | noDocument | deleted => trivial

/-! ### What pages are made into -/

section

variable {documents : List Fields}

/-- What is filed are items of the pages. -/
theorem absorbDocuments_drawn {found : Entries String Value} {items : List Value}
    {a : Absorbed (Entries String Value)}
    (hfound : ∀ q ∈ found, ∃ d ∈ documents, q.2 = .object d)
    (hitems : ∀ v ∈ items, ∃ d ∈ documents, v = .object d)
    (h : absorbDocuments found items = .ok a) :
    ∀ q ∈ a.result, ∃ d ∈ documents, q.2 = .object d := by
  induction items generalizing found with
  | nil =>
    cases h
    exact hfound
  | cons v r ih =>
    rw [absorbDocuments] at h
    obtain ⟨hv, hr⟩ := List.forall_mem_cons.1 hitems
    cases hid : itemId v with
    | error e =>
      rw [hid] at h
      cases h
    | ok id =>
      rw [hid] at h
      refine ih ?_ hr h
      intro q hq
      rcases Entries.value_of_mem_put hq with hvalue | hold
      · rw [hvalue]
        exact hv
      · exact hfound q hold

/-- The documents of a result page are items of the page. -/
theorem inPage_drawn {page : Page} {result : QueryResult}
    (hitems : ∀ v ∈ page.items, ∃ d ∈ documents, v = .object d)
    (h : inPage page = .ok result) : ∀ d ∈ result.items, d ∈ documents := by
  intro d hd
  have hfrom : result.items = page.items.filterMap Value.fields? := by
    rw [inPage, QueryResult.ofItems] at h
    dsimp only at h
    split at h
    · cases h
      rfl
    · cases h
  rw [hfrom] at hd
  obtain ⟨v, hv, hfields⟩ := List.mem_filterMap.1 hd
  obtain ⟨d', hd', rfl⟩ := hitems v hv
  cases hfields
  exact hd'

end

/-! ### What work is answered with -/

section

variable {σ : Type} {b : Backend σ String} {memory : σ → Memory} {s s' : Session σ String}
  {container : String}

open Session MemoryContainer

theorem readItem_drawn (hb : b.InMemory memory) {id : String} {partition : Value}
    {a : Answer String} (h : readItem b container id partition s = (.ok a, s')) :
    a.DrawnFrom ((memory s.outside).container container) := by
  rw [readItem, Run.tryCatch_eq, Run.bind_pure_eq, Session.consult_eq, hb.read_fst] at h
  cases hresult : ((memory s.outside).container container).read? id partition with
  | error e =>
    rw [hresult] at h
    dsimp only [Memory.orAbsent, Except.map] at h
    split at h <;> cases h
    trivial
  | ok found =>
    rw [hresult] at h
    cases found with
    | none =>
      cases h
      trivial
    | some d =>
      cases h
      have hget : ∃ k, ((memory s.outside).container container).documents.get? k = some d := by
        unfold read? at hresult
        cases hkey : key partition id with
        | error e =>
          rw [hkey] at hresult
          cases hresult
        | ok k =>
          rw [hkey] at hresult
          exact ⟨k, Except.ok.inj hresult⟩
      obtain ⟨k, hk⟩ := hget
      obtain ⟨p, hp, rfl⟩ := Entries.exists_mem_of_get? hk
      exact ⟨p.2, List.mem_map_of_mem hp, rfl⟩

/-- **A chain of pages** is made of documents of the container. -/
theorem drain_keeps (hb : b.InMemory memory) (hscript : (memory s.outside).script = none) {α : Type}
    {P : α → Prop} {absorb : α → List Value → Except Failure (Absorbed α)} {request : PageRequest}
    (hcounts : counts request.statement = false)
    (habsorb : ∀ {soFar items a}, P soFar →
      (∀ v ∈ items, ∃ d ∈ ((memory s.outside).container container).documents.map Prod.snd,
        v = .object d) → absorb soFar items = .ok a → P a.result)
    {n : Nat} {soFar result : α} (hstart : P soFar)
    (h : drain b container absorb n request soFar s = (.ok result, s')) : P result := by
  obtain ⟨t, hdrain, -⟩ := drain_eq hb hscript container absorb n request soFar
  rw [h] at hdrain
  refine gather_keeps hcounts ?_ hstart (congrArg Prod.fst hdrain).symm
  intro soFar items a hsoFar hitems
  refine habsorb hsoFar fun v hv => ?_
  obtain ⟨d, hd, rfl⟩ := hitems v hv
  exact ⟨d, (selected_sublist _ _).subset hd, rfl⟩

theorem findItem_drawn (hb : b.InMemory memory) (hscript : (memory s.outside).script = none)
    {id : String} {a : Answer String} (h : findItem b container id s = (.ok a, s')) :
    a.DrawnFrom ((memory s.outside).container container) := by
  rw [findItem, Run.get_bind_eq] at h
  obtain ⟨found, s₁, hdrain, h⟩ := Run.ok_of_bind h
  have hfound := drain_keeps (P := fun found : Option Value => ∀ v, found = some v →
      ∃ d ∈ ((memory s.outside).container container).documents.map Prod.snd, v = .object d)
    hb hscript (counts_lookup id) (fun _ hitems h => absorbFirst_finds hitems h)
    (by rintro v ⟨⟩) hdrain
  cases found with
  | none =>
    cases h
    trivial
  | some v =>
    obtain ⟨d, hd, rfl⟩ := hfound v rfl
    cases h
    exact ⟨d, hd, rfl⟩

/-! ### One kind of work after the other -/

section

variable {entity id : String} {request : PageRequest} {a : Answer String}

theorem read_drawn (hb : b.InMemory memory) (hscript : (memory s.outside).script = none)
    {partition : Value}
    (h : (Work.read id partition).perform b entity container s = (.ok a, s')) :
    a.DrawnFrom ((memory s.outside).container container) := by
  rw [Work.perform] at h
  split at h
  · -- No partition is given, so that the configuration is looked up, which touches nothing outside.
    obtain ⟨config, s₁, hconfig, h⟩ := Run.ok_of_bind h
    obtain rfl : (configOf entity s).2 = s₁ := congrArg Prod.snd hconfig
    have hscript' : (memory (configOf entity s).2.outside).script = none := hscript
    show a.DrawnFrom ((memory (configOf entity s).2.outside).container container)
    split at h
    · exact readItem_drawn hb h
    · exact findItem_drawn hb hscript' h
  · exact readItem_drawn hb h

theorem readMap_drawn (hb : b.InMemory memory) (hscript : (memory s.outside).script = none)
    (hcounts : counts request.statement = false)
    (h : (Work.readMap request).perform b entity container s = (.ok a, s')) :
    a.DrawnFrom ((memory s.outside).container container) := by
  rw [Work.perform, Run.get_bind_eq] at h
  obtain ⟨r, hdrain, hr⟩ := Run.of_bind_pure h
  cases r with
  | error e => cases hr
  | ok found =>
    cases hr
    -- Nothing is filed at first, and the items of a page are documents of the container.
    exact drain_keeps (P := fun found : Entries String Value => ∀ q ∈ found,
        ∃ d ∈ ((memory s.outside).container container).documents.map Prod.snd, q.2 = .object d)
      hb hscript hcounts (fun hfound hitems h => absorbDocuments_drawn hfound hitems h)
      (fun q hq => absurd hq List.not_mem_nil) hdrain

theorem query_drawn (hb : b.InMemory memory) (hscript : (memory s.outside).script = none)
    (hcounts : counts request.statement = false)
    (h : (Work.query request).perform b entity container s = (.ok a, s')) :
    a.DrawnFrom ((memory s.outside).container container) := by
  obtain ⟨page, s₁, hconsult, h⟩ := Run.ok_of_bind h
  obtain ⟨result, hresult, h⟩ := Run.ok_of_lift_bind h
  cases h
  obtain ⟨t, hpage, -⟩ := consult_page_eq hb hscript container request
  rw [hconsult] at hpage
  refine inPage_drawn ?_ hresult
  intro v hv
  obtain ⟨d, hd, rfl⟩ := mem_page hcounts (congrArg Prod.fst hpage).symm hv
  exact ⟨d, (selected_sublist _ _).subset hd, rfl⟩

theorem count_drawn (hb : b.InMemory memory) (hscript : (memory s.outside).script = none)
    (hcounts : counts request.statement = true)
    (h : (Work.count request).perform b entity container s = (.ok a, s')) :
    a.DrawnFrom ((memory s.outside).container container) := by
  rw [Work.perform, Run.get_bind_eq] at h
  obtain ⟨r, hdrain, hr⟩ := Run.of_bind_pure h
  obtain ⟨t, hgather, -⟩ := drain_eq hb hscript container absorbCounts (b.patience s.outside)
    request 0
  rw [hdrain] at hgather
  cases r with
  | error e => cases hr
  | ok n =>
    cases hr
    have hcount := congrArg Prod.fst hgather
    dsimp only at hcount
    -- Without patience there is no count; with any, the first page holds all of it.
    cases hpatience : b.patience s.outside with
    | zero =>
      rw [hpatience] at hcount
      cases hcount
    | succ k =>
      rw [hpatience, gather_counts hcounts] at hcount
      exact ⟨request, Except.ok.inj hcount⟩

/-- **What is written** is in the container afterwards. -/
theorem written_drawn (hb : b.InMemory memory) {work : Work} {body : Fields}
    (hbody : work.body? = some body) (hid : ∀ id, work = .replace id body → (idOf body).text = id)
    (h : work.perform b entity container s = (.ok a, s')) :
    a.DrawnFrom ((memory s'.outside).container container) := by
  rcases perform_writes hb hbody hid h with ⟨e, he, -⟩ | ⟨hresult, hwrote⟩
  · cases he
  · cases hresult
    rw [Memory.container_put_self hwrote.containers]
    obtain ⟨p, hp, hbody⟩ := Entries.exists_mem_put
      ((memory s.outside).container container).documents
      (((memory s.outside).container container).keyOf body) body
    exact ⟨p.2, List.mem_map_of_mem hp, by rw [hbody]⟩

end

/-- **What work is answered with** is drawn from its container. -/
theorem perform_drawn (hb : b.InMemory memory) (hscript : (memory s.outside).script = none)
    {entity : String} {work : Work} (hposed : work.WellPosed)
    (hid : ∀ id body, work = .replace id body → (idOf body).text = id) {a : Answer String}
    (h : work.perform b entity container s = (.ok a, s')) :
    a.DrawnFrom ((memory s'.outside).container container) := by
  -- What is read has been there before, and work that writes and deletes nothing leaves it there.
  have hread (hbody : work.body? = none) (hdelete : ∀ id partition, work ≠ .delete id partition)
      (hdrawn : a.DrawnFrom ((memory s.outside).container container)) :
      a.DrawnFrom ((memory s'.outside).container container) := by
    have hsame := (perform_sameContainers hb container entity hbody hdelete).of_eq h
    exact hdrawn.congr (congrArg (·.documents) (Memory.container_eq hsame container))
  cases work with
  | create body => exact written_drawn hb rfl (fun id => hid id body) h
  | replace id body => exact written_drawn hb rfl (fun id => hid id body) h
  | read id partition => exact hread rfl (by rintro _ _ ⟨⟩) (read_drawn hb hscript h)
  | readMap request => exact hread rfl (by rintro _ _ ⟨⟩) (readMap_drawn hb hscript hposed.2.1 h)
  | query request => exact hread rfl (by rintro _ _ ⟨⟩) (query_drawn hb hscript hposed h)
  | count request => exact hread rfl (by rintro _ _ ⟨⟩) (count_drawn hb hscript hposed.2 h)
  | resolve =>
    cases h
    trivial
  | delete id partition =>
    obtain ⟨r, -, hr⟩ := Run.of_bind_pure h
    cases r with
    | error e => cases hr
    | ok u =>
      cases hr
      trivial

/-- **What a call is answered with** is drawn from the container that it is about. -/
theorem Call.Course.drawn (hb : b.InMemory memory) {call : Call} {a : Answer String}
    (h : call.Course b memory s (.ok a) s')
    (hcontainer : call.containerId? s.router.registry = some container) :
    a.DrawnFrom ((memory s'.outside).container container) := by
  cases h with
  | ended hresult _ =>
    rcases hresult with ⟨e, he⟩ | hnone
    · cases he
    · cases hnone
      exact fun q hq => absurd hq List.not_mem_nil
  | @works entity work config s₁ s₂ _ _ hprepare hknown hs₂ _ hperform =>
    have hentity := Call.prepare_entity hprepare
    obtain rfl : config.containerId = container := by
      rw [Call.containerId?_of_known hentity hknown] at hcontainer
      exact Option.some.inj hcontainer
    exact perform_drawn hb hs₂.database.unscripted (Call.prepare_wellPosed hprepare)
      (fun id body => Call.prepare_replace_id hprepare body id) hperform

end

end EntityStore
