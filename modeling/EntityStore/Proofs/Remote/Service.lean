import EntityStore.Proofs.Store.Dependable
import EntityStore.Remote.Service

/-!
# The store on a service

A service can be depended on when a call that fails has no effect, when only calls about single
documents have one at all, and when the documents that it answers with are objects.  The store on
such a service is a database that can be depended on (`Service.Dependable.backend`): besides errors
of the service it fails only when a parameter cannot be sent, and the one error that it translates
becomes the absence of a document in the calls that ask for one by its key.
-/

namespace EntityStore

/-! ### What a service is depended on for -/

/-- **A service that can be depended on**: a call that fails has no effect, a call that succeeds
answers with objects where it answers with documents, and only calls about single documents change
any. -/
structure Service.Dependable {σ D : Type} (service : Service σ) (documents : σ → D) : Prop where
  provision : ∀ containerId path s,
    documents (service.provision containerId path s).2 = documents s
  read : ∀ containerId id partition s,
    documents (service.item containerId (.read id partition) s).2 = documents s
  pages : ∀ containerId request s,
    documents (service.pages containerId request s).2 = documents s
  item_fails : ∀ containerId call s e, (service.item containerId call s).1 = .error e →
    documents (service.item containerId call s).2 = documents s
  item_object : ∀ containerId call s v, (service.item containerId call s).1 = .ok v →
    v.isObject = true ∨ ∃ id partition, call = .delete id partition
  pages_objects : ∀ containerId request s pages,
    (service.pages containerId request s).1 = .ok pages →
    MemoryContainer.counts request.statement = false →
    ∀ page ∈ pages, ∀ v ∈ page.items, v.isObject = true

/-! ### What the service is sent -/

theorem Scalar.toWire_fault {s : Scalar} {e : Failure} (h : s.toWire = .error e) : e.IsFault := by
  unfold Scalar.toWire at h
  split at h
  · split at h <;> cases h
    exact ⟨rfl, rfl⟩
  · cases h
  · split at h <;> cases h
    exact ⟨rfl, rfl⟩
  · cases h

mutual

/-- A value that cannot be sent is at fault. -/
theorem Value.toWire_fault {e : Failure} : ∀ {v : Value}, v.toWire = .error e → e.IsFault
  | .scalar s, h => by
    rw [Value.toWire] at h
    exact Scalar.toWire_fault (error_of_map h)
  | .list items, h | .tuple items, h => by
    rw [Value.toWire] at h
    exact Value.toWireItems_fault (error_of_map h)
  | .object fields, h => by
    rw [Value.toWire] at h
    exact Value.toWireFields_fault (error_of_map h)
  | .filter f, h => by
    rw [Value.toWire] at h
    cases h

theorem Value.toWireItems_fault {e : Failure} :
    ∀ {items : List Value}, Value.toWireItems items = .error e → e.IsFault
  | [], h => by
    rw [Value.toWireItems] at h
    cases h
  | v :: r, h => by
    rw [Value.toWireItems] at h
    rcases error_of_bind h with h | ⟨w, -, h⟩
    · exact Value.toWire_fault h
    · rcases error_of_bind h with h | ⟨ws, -, h⟩
      · exact Value.toWireItems_fault h
      · cases h

theorem Value.toWireFields_fault {e : Failure} :
    ∀ {fields : List (String × Value)}, Value.toWireFields fields = .error e → e.IsFault
  | [], h => by
    rw [Value.toWireFields] at h
    cases h
  | (k, v) :: r, h => by
    rw [Value.toWireFields] at h
    rcases error_of_bind h with h | ⟨w, -, h⟩
    · exact Value.toWire_fault h
    · rcases error_of_bind h with h | ⟨ws, -, h⟩
      · exact Value.toWireFields_fault h
      · cases h

end

theorem Parameter.allToWire_fault {ps : List Parameter} {e : Failure}
    (h : Parameter.allToWire ps = .error e) : e.IsFault := by
  induction ps with
  | nil => cases h
  | cons p r ih =>
    rcases error_of_bind h with h | ⟨q, -, h⟩
    · exact Value.toWire_fault (error_of_map h)
    · rcases error_of_bind h with h | ⟨qs, -, h⟩
      · exact ih h
      · cases h

/-! ### What the service fails with -/

/-- An error of the service is a fault, -/
theorem ServiceError.toFailure_fault (error : ServiceError) : error.toFailure.IsFault := by
  cases error <;> exact ⟨rfl, rfl⟩

/-- and is no rejection even if a document was asked for by its key. -/
theorem ServiceError.toFailureOf_occurs (error : ServiceError) (containerId id : String) :
    (error.toFailureOf containerId id).Occurs := by
  cases error with
  | answered e =>
    rw [toFailureOf]
    split <;> rfl
  | refused => rfl

/-- A page that is not answered is at fault: a parameter cannot be sent, or the service fails. -/
theorem Service.page_fault {σ : Type} {service : Service σ} {containerId : String}
    {request : PageRequest} {s : σ} {e : Failure}
    (h : (service.page containerId request s).1 = .error e) : e.IsFault := by
  unfold Service.page at h
  cases hsent : Parameter.allToWire request.statement.parameters with
  | error e' =>
    rw [hsent] at h
    cases h
    exact Parameter.allToWire_fault hsent
  | ok parameters =>
    rw [hsent] at h
    obtain ⟨error, -, rfl⟩ := error_of_mapError h
    exact error.toFailure_fault

namespace Service.Dependable

variable {σ D : Type} {service : Service σ} {documents : σ → D}

/-! ### What is left of the documents -/

theorem documents_page (h : service.Dependable documents) (containerId : String)
    (request : PageRequest) (s : σ) :
    documents (service.page containerId request s).2 = documents s := by
  unfold Service.page
  cases Parameter.allToWire request.statement.parameters with
  | error e => rfl
  | ok parameters => exact h.pages _ _ s

/-- A call about a document that fails has no effect, whatever becomes of its error. -/
theorem documents_callItem (h : service.Dependable documents) {containerId : String}
    {call : ItemCall} {failure : ServiceError → Failure} {s : σ} {e : Failure}
    (hfailed : (service.callItem containerId call failure s).1 = .error e) :
    documents (service.callItem containerId call failure s).2 = documents s := by
  obtain ⟨error, hitem, -⟩ := error_of_mapError hfailed
  exact h.item_fails containerId call s error hitem

/-! ### What is answered -/

theorem object_callItem (h : service.Dependable documents) {containerId : String}
    {call : ItemCall} {failure : ServiceError → Failure} {s : σ} {v : Value}
    (hcall : ∀ id partition, call ≠ .delete id partition)
    (hanswer : (service.callItem containerId call failure s).1 = .ok v) : v.isObject = true := by
  have hitem : (service.item containerId call s).1 = .ok v := ok_of_mapError hanswer
  rcases h.item_object containerId call s v hitem with hobject | ⟨id, partition, hdelete⟩
  · exact hobject
  · exact (hcall id partition hdelete).elim

theorem objects_page (h : service.Dependable documents) {containerId : String}
    {request : PageRequest} {s : σ} {page : Page}
    (hanswer : (service.page containerId request s).1 = .ok page)
    (hcounts : MemoryContainer.counts request.statement = false) :
    ∀ v ∈ page.items, v.isObject = true := by
  unfold Service.page at hanswer
  cases hsent : Parameter.allToWire request.statement.parameters with
  | error e =>
    rw [hsent] at hanswer
    cases hanswer
  | ok parameters =>
    rw [hsent] at hanswer
    -- The text of the statement, which tells whether it counts, is sent as it is.
    let sent : PageRequest :=
      { request with statement := { request.statement with parameters := parameters } }
    have hfirst : (service.pages containerId sent s).1.map firstPage = .ok page :=
      ok_of_mapError hanswer
    cases hpages : (service.pages containerId sent s).1 with
    | error e =>
      rw [hpages] at hfirst
      cases hfirst
    | ok pages =>
      rw [hpages] at hfirst
      cases hfirst
      have hobjects := h.pages_objects containerId sent s pages hpages hcounts
      cases pages with
      | nil => simp [firstPage]
      | cons first rest => exact hobjects first List.mem_cons_self

/-- **The store on a service that can be depended on** can be depended on. -/
theorem backend (h : service.Dependable documents) {base : Backend σ String}
    (hbase : base.Timely documents) : (service.backend base).Dependable documents where
  now := hbase.now
  newId := hbase.newId
  now_fault := hbase.now_fault
  provision := h.provision
  provision_fault containerId path o e hfailed := by
    obtain ⟨error, -, rfl⟩ := error_of_mapError hfailed
    exact error.toFailure_fault
  -- The database tells of each call whether its documents are touched; pages are calls of their
  -- own.
  reads q o hq := by
    cases q with
    | read container id partition => exact h.read container id partition o
    | page container request => exact h.documents_page container request o
    | create | replace | delete => exact hq.elim
  fails q o e hfailed := by
    cases q with
    | create | read | replace => exact h.documents_callItem hfailed
    | delete => exact h.documents_callItem (error_of_map hfailed)
    | page container request => exact h.documents_page container request o
  objects q o reply hanswer := by
    cases q with
    | create | read | replace => exact h.object_callItem (by rintro id partition ⟨⟩) hanswer
    | delete => trivial
    | page container request => exact h.objects_page hanswer
  perform_occurs q o e hfailed := by
    cases q with
    | create =>
      obtain ⟨error, -, rfl⟩ := error_of_mapError hfailed
      exact error.toFailure_fault.occurs
    | read | replace =>
      obtain ⟨error, -, rfl⟩ := error_of_mapError hfailed
      exact error.toFailureOf_occurs _ _
    | delete =>
      obtain ⟨error, -, rfl⟩ := error_of_mapError (error_of_map hfailed)
      exact error.toFailureOf_occurs _ _
    | page container request => exact (page_fault hfailed).occurs
  perform_absent q o e hfailed habsent := by
    cases q with
    | create =>
      obtain ⟨error, -, rfl⟩ := error_of_mapError hfailed
      rw [error.toFailure_fault.2] at habsent
      contradiction
    | read | replace | delete => trivial
    | page container request =>
      rw [(page_fault hfailed).2] at habsent
      contradiction

end Service.Dependable

end EntityStore
