import EntityStore.Proofs.Store.Page
import EntityStore.Proofs.Store.Refinement
import EntityStore.Proofs.Store.Written

/-!
# Sessions in order

A session over a database in memory is at rest when no lock is held, and the database refuses
nothing and makes up its pages itself (`Session.AtRest`).  It is in order when, besides, every handle
that is kept is that of the container of its entity (`Session.InOrder`).  So it is when it has been
opened, and every call leaves it so; only a configuration that is registered later on can take a
session at rest out of order.

Where a session is at rest, the container of a known entity is always to be had (`AtRest.resolve`,
`InOrder.resolve_known`).  Resolving makes it if need be and changes no documents; nor does a
chain of pages, which comes to what `MemoryContainer.gather` says of the container (`drain_eq`), and
from the first page on to what is made of all documents at once (`drain_all`).
-/

namespace EntityStore

/-! ### Settings of a database -/

namespace Memory

/-- Two databases refuse and cut pages alike. -/
structure SameSettings (m m' : Memory) : Prop where
  refusals : m'.refusals = m.refusals
  script : m'.script = m.script
  maxPageSize : m'.maxPageSize = m.maxPageSize

theorem SameSettings.trans {m m' m'' : Memory} (h : m.SameSettings m') (h' : m'.SameSettings m'') :
    m.SameSettings m'' :=
  ⟨h'.refusals.trans h.refusals, h'.script.trans h.script, h'.maxPageSize.trans h.maxPageSize⟩

/-- **A database that answers as it should**: it refuses nothing, no pages are given beforehand,
and a page may hold at least one document. -/
structure Regular (m : Memory) : Prop where
  accepts : m.refusals ≤ 0
  unscripted : m.script = none
  pages : ∀ n, m.maxPageSize = some n → 1 ≤ n

variable {m m' : Memory}

theorem Regular.of_same (h : m.Regular) (hsame : m.SameSettings m') : m'.Regular where
  accepts := hsame.refusals.symm ▸ h.accepts
  unscripted := hsame.script.trans h.unscripted
  pages n hn := h.pages n (hsame.maxPageSize.symm.trans hn)

theorem provision_settings (h : m.refusals ≤ 0) (containerId path : String) :
    m.SameSettings (m.provision containerId path).2 := by
  have hrefusals : ¬ 0 < (m.log (.provision containerId path)).refusals := Int.not_lt.2 h
  rw [provision]
  dsimp only
  rw [if_neg hrefusals]
  split <;> exact ⟨rfl, rfl, rfl⟩

/-- Provisioning changes no documents. -/
theorem provision_documents (h : m.refusals ≤ 0) (containerId path other : String) :
    ((m.provision containerId path).2.container other).documents
      = (m.container other).documents := by
  obtain ⟨-, hprovisioned⟩ := provision_accepts h containerId path
  by_cases hother : other = containerId
  · subst hother
    rw [container, container, hprovisioned.made, Option.getD_some]
    cases m.containers.get? other <;> rfl
  · rw [container, container, hprovisioned.others other hother]

theorem perform_settings (h : m.script = none) (q : Request String) :
    m.SameSettings (m.perform q).2 := by
  have hchange {α : Type} (id : String) (reply : α) (result : Except Failure MemoryContainer) :
      m.SameSettings (m.change id reply result).2 := by
    cases result <;> exact ⟨rfl, rfl, rfl⟩
  cases q with
  | read => exact ⟨rfl, rfl, rfl⟩
  | create | replace | delete => exact hchange _ _ _
  | page id request =>
    have hscript : (m.log (.query id request)).script = none := h
    rw [perform, hscript]
    exact ⟨rfl, rfl, rfl⟩

/-- The answer to a request for a page. -/
theorem perform_page (h : m.script = none) (id : String) (request : PageRequest) :
    m.perform (.page id request)
      = ((m.container id).page m.maxPageSize request, m.log (.query id request)) := by
  have hscript : (m.log (.query id request)).script = none := h
  rw [perform, hscript]
  rfl

end Memory

/-! ### Sessions -/

/-- **A backend that waits long enough**: it lets more pages be asked for than a container has
documents. -/
def Backend.Patient {σ : Type} (b : Backend σ String) (memory : σ → Memory) : Prop :=
  ∀ o id, ((memory o).container id).documents.length < b.patience o

/-- The local backend waits long enough. -/
theorem LocalState.backend_patient : LocalState.backend.Patient LocalState.memory := by
  intro o id
  have hcount {length : String × MemoryContainer → Nat}
      (hlength : ∀ p, length p = p.2.documents.length)
      {containers : Entries String MemoryContainer} :
      ((containers.get? id).getD { partitionPath := [] }).documents.length
        ≤ (containers.map length).foldr (· + ·) 0 := by
    induction containers with
    | nil => exact Nat.zero_le _
    | cons p r ih =>
      rw [Entries.get?, List.map_cons, List.foldr_cons, hlength]
      split
      · exact Nat.le_add_right ..
      · exact ih.trans (Nat.le_add_left ..)
  have hmost : (o.memory.container id).documents.length ≤ o.memory.documentCount :=
    hcount fun _ => rfl
  show (o.memory.container id).documents.length
    < o.memory.documentCount + (o.memory.script.getD []).length + 2
  omega

namespace Session

variable {σ : Type} {b : Backend σ String} {memory : σ → Memory} {s s' s'' : Session σ String}

/-- **A session at rest**, over a database that answers as it should. -/
structure AtRest (memory : σ → Memory) (s : Session σ String) : Prop where
  database : (memory s.outside).Regular
  free : s.router.AllFree

/-- **A session in order.** -/
structure InOrder (memory : σ → Memory) (s : Session σ String) : Prop where
  database : (memory s.outside).Regular
  free : s.router.AllFree
  handles : ∀ {entity handle : String}, s.router.handles.get? entity = some handle →
    ∃ config, (s.router.registry.lookup entity).1 = .ok config ∧ handle = config.containerId

/-- A session that has just been opened is in order. -/
theorem InOrder.of_opened (hdatabase : (memory s.outside).Regular)
    (hhandles : s.router.handles = []) (hlocks : s.router.locks = []) : s.InOrder memory where
  database := hdatabase
  free entity := by
    rw [Router.lockOf, hlocks]
    rfl
  handles hkept := by
    rw [hhandles] at hkept
    cases hkept

/-- In a session in order a handle is that of the configuration of its entity. -/
theorem InOrder.handle_eq (h : s.InOrder memory) {entity handle : String} {config : ContainerConfig}
    (hhandle : s.router.handles.get? entity = some handle)
    (hknown : (s.router.registry.lookup entity).1 = .ok config) : handle = config.containerId := by
  obtain ⟨config', hknown', rfl⟩ := h.handles hhandle
  rw [Except.ok.inj (hknown'.symm.trans hknown)]

theorem InOrder.atRest (h : s.InOrder memory) : s.AtRest memory := ⟨h.database, h.free⟩

/-- Routing alike over a database with the same settings. -/
theorem AtRest.alike (h : s.AtRest memory) (hrouter : s.router.Alike s'.router)
    (hsettings : (memory s.outside).SameSettings (memory s'.outside)) : s'.AtRest memory where
  database := h.database.of_same hsettings
  free entity := by
    rw [Router.lockOf, hrouter.locks]
    exact h.free entity

theorem InOrder.alike (h : s.InOrder memory) (hrouter : s.router.Alike s'.router)
    (hsettings : (memory s.outside).SameSettings (memory s'.outside)) : s'.InOrder memory where
  database := h.database.of_same hsettings
  free := (h.atRest.alike hrouter hsettings).free
  handles hkept := by
    rw [hrouter.handles] at hkept
    obtain ⟨config, hknown, hhandle⟩ := h.handles hkept
    exact ⟨config, (hrouter.registry _).trans hknown, hhandle⟩

/-- **A session whose documents have only been read**: containers can have been made and events been
left. -/
structure Browsed (memory : σ → Memory) (s s' : Session σ String) : Prop where
  registry : s.router.registry.Agrees s'.router.registry
  pageSize : s'.pageSize = s.pageSize
  documents : ∀ id, ((memory s'.outside).container id).documents
    = ((memory s.outside).container id).documents
  settings : (memory s.outside).SameSettings (memory s'.outside)

instance (memory : σ → Memory) : IsPreorder (Session σ String) (Browsed memory) where
  refl _ := ⟨fun _ => rfl, rfl, fun _ => rfl, rfl, rfl, rfl⟩
  trans _ _ _ h h' := ⟨h.registry.trans h'.registry, h'.pageSize.trans h.pageSize,
    fun id => (h'.documents id).trans (h.documents id), h.settings.trans h'.settings⟩

/-- Preparing a call reads no more than the clock and the registry. -/
theorem Approached.browsed (hb : b.InMemory memory) (h : s.Approached b s') :
    s.Browsed memory s' := by
  have hmemory := h.outside.memory_eq hb
  refine ⟨h.router.registry, h.pageSize, fun id => by rw [hmemory], ?_⟩
  rw [hmemory]
  exact ⟨rfl, rfl, rfl⟩

theorem AtRest.approached (h : s.AtRest memory) (hb : b.InMemory memory)
    (happroached : s.Approached b s') : s'.AtRest memory :=
  h.alike happroached.router (happroached.browsed hb).settings

theorem InOrder.approached (h : s.InOrder memory) (hb : b.InMemory memory)
    (happroached : s.Approached b s') : s'.InOrder memory :=
  h.alike happroached.router (happroached.browsed hb).settings

/-! ### Resolving -/

/-- **A session in which a container has been resolved** for an entity: its handle is kept, and if
it was not kept before the container has been made, unless it was there. -/
structure Resolved (memory : σ → Memory) (entity : String) (config : ContainerConfig)
    (s s' : Session σ String) : Prop where
  browsed : s.Browsed memory s'
  handles : ∀ e, s'.router.handles.get? e
    = if e = entity then some config.containerId else s.router.handles.get? e
  others : ∀ id, id ≠ config.containerId →
    (memory s'.outside).containers.get? id = (memory s.outside).containers.get? id
  own : (memory s'.outside).containers.get? config.containerId
    = if s.router.handles.get? entity = none then
        some (((memory s.outside).containers.get? config.containerId).getD
          { partitionPath := MemoryContainer.pathSegments config.partitionPath })
      else (memory s.outside).containers.get? config.containerId

/-- The container of a known entity is to be had, where no handle is kept. -/
theorem AtRest.resolve_unkept (h : s.AtRest memory) (hb : b.InMemory memory) {entity : String}
    {config : ContainerConfig} (hhandle : s.router.handles.get? entity = none)
    (hknown : (s.router.registry.lookup entity).1 = .ok config) :
    ∃ s', resolve b entity s = (.ok config.containerId, s') ∧ s'.AtRest memory
      ∧ s.Resolved memory entity config s' := by
  rcases hlookup : s.router.registry.lookup entity with ⟨r, registry⟩
  rw [hlookup] at hknown
  obtain rfl : r = .ok config := hknown
  have haccepts := h.database.accepts
  obtain ⟨o, hprovision, hprovisioned⟩ :=
    hb.provision_accepts haccepts config.containerId config.partitionPath
  obtain ⟨locks, hresolve, hfree⟩ := resolve_free b hhandle hlookup h.free hprovision
  have hagrees : s.router.registry.Agrees registry := by
    have hnext := s.router.registry.lookup_agrees entity
    rw [hlookup] at hnext
    exact hnext
  have hmemory : memory o
      = ((memory s.outside).provision config.containerId config.partitionPath).2 := by
    rw [← hb.provision_snd, hprovision]
  have hsettings : (memory s.outside).SameSettings (memory o) :=
    hmemory ▸ Memory.provision_settings haccepts _ _
  -- Only the container of the entity may be new, and only its handle is put.
  refine ⟨_, hresolve, ⟨h.database.of_same hsettings, hfree⟩, ⟨hagrees, rfl, ?_, hsettings⟩, ?_,
    hprovisioned.others, ?_⟩
  · intro id
    rw [hmemory]
    exact Memory.provision_documents haccepts _ _ id
  · intro e
    dsimp only
    split
    · next he => rw [he, Entries.get?_put_self]
    · next he => exact Entries.get?_put_of_ne _ _ (Ne.symm he)
  · rw [if_pos hhandle]
    exact hprovisioned.made

/-- **The container of a known entity is always to be had.** -/
theorem InOrder.resolve_known (h : s.InOrder memory) (hb : b.InMemory memory) {entity : String}
    {config : ContainerConfig} (hknown : (s.router.registry.lookup entity).1 = .ok config) :
    ∃ s', resolve b entity s = (.ok config.containerId, s') ∧ s'.InOrder memory
      ∧ s.Resolved memory entity config s' := by
  cases hhandle : s.router.handles.get? entity with
  -- The handle is kept already, and nothing changes.
  | some handle =>
    obtain rfl := h.handle_eq hhandle hknown
    refine ⟨s, resolve_cached hhandle, h, Std.Refl.refl s, ?_, fun _ _ => rfl, ?_⟩
    · intro e
      split
      · next he => rw [he, hhandle]
      · rfl
    · rw [hhandle, if_neg (Option.some_ne_none _)]
  -- The handle put is the name of the container that the entity has.
  | none =>
    obtain ⟨s', hresolve, hrest, hresolved⟩ := h.atRest.resolve_unkept hb hhandle hknown
    refine ⟨s', hresolve, ⟨hrest.database, hrest.free, ?_⟩, hresolved⟩
    intro e handle hkept
    rw [hresolved.handles] at hkept
    split at hkept
    · next he =>
      cases hkept
      subst he
      exact ⟨config, (hresolved.browsed.registry e).trans hknown, rfl⟩
    · obtain ⟨c, hc, hhandle⟩ := h.handles hkept
      exact ⟨c, (hresolved.browsed.registry e).trans hc, hhandle⟩

/-- **The container that an entity is served from**: the one whose handle is kept, or else the one of
its configuration. -/
def containerOf (s : Session σ String) (entity : String) : Except Failure String :=
  match s.router.handles.get? entity with
  | some container => .ok container
  | none => (s.router.registry.lookup entity).1.map (·.containerId)

theorem containerOf_of_kept {entity container : String}
    (h : s.router.handles.get? entity = some container) :
    s.containerOf entity = .ok container := by
  rw [containerOf, h]

theorem InOrder.containerOf_eq (h : s.InOrder memory) {entity : String} {config : ContainerConfig}
    (hknown : (s.router.registry.lookup entity).1 = .ok config) :
    s.containerOf entity = .ok config.containerId := by
  cases hhandle : s.router.handles.get? entity with
  | some handle =>
    obtain rfl := h.handle_eq hhandle hknown
    exact containerOf_of_kept hhandle
  | none =>
    rw [containerOf, hhandle]
    dsimp only
    rw [hknown]
    rfl

theorem Approached.containerOf_eq (h : s.Approached b s') (entity : String) :
    s'.containerOf entity = s.containerOf entity := by
  rw [containerOf, containerOf, h.router.handles, h.router.registry entity]

/-- **In a session at rest** the container that an entity is served from is to be had, and its handle
is kept from then on. -/
theorem AtRest.resolve (h : s.AtRest memory) (hb : b.InMemory memory) {entity container : String}
    (hcontainer : s.containerOf entity = .ok container) :
    ∃ s', Session.resolve b entity s = (.ok container, s') ∧ s'.AtRest memory
      ∧ s.Browsed memory s' ∧ s'.router.handles.get? entity = some container := by
  rw [containerOf] at hcontainer
  cases hhandle : s.router.handles.get? entity with
  | some handle =>
    rw [hhandle] at hcontainer
    cases hcontainer
    exact ⟨s, resolve_cached hhandle, h, Std.Refl.refl s, hhandle⟩
  | none =>
    rw [hhandle] at hcontainer
    cases hknown : (s.router.registry.lookup entity).1 with
    | error e =>
      rw [hknown] at hcontainer
      cases hcontainer
    | ok config =>
      rw [hknown] at hcontainer
      cases hcontainer
      obtain ⟨s', hresolve, hrest, hresolved⟩ := h.resolve_unkept hb hhandle hknown
      exact ⟨s', hresolve, hrest, hresolved.browsed, by rw [hresolved.handles, if_pos rfl]⟩

end Session

/-! ### Chains of pages -/

section Drain

variable {σ α : Type} {b : Backend σ String} {memory : σ → Memory}

/-- **A session that has only been asked for pages.** -/
structure Session.Paged (memory : σ → Memory) (s s' : Session σ String) : Prop where
  router : s'.router = s.router
  pageSize : s'.pageSize = s.pageSize
  containers : (memory s'.outside).containers = (memory s.outside).containers
  settings : (memory s.outside).SameSettings (memory s'.outside)

instance (memory : σ → Memory) : IsPreorder (Session σ String) (Session.Paged memory) where
  refl _ := ⟨rfl, rfl, rfl, rfl, rfl, rfl⟩
  trans _ _ _ h h' := ⟨h'.router.trans h.router, h'.pageSize.trans h.pageSize,
    h'.containers.trans h.containers, h.settings.trans h'.settings⟩

theorem Session.Paged.browsed {s s' : Session σ String} (h : s.Paged memory s') :
    s.Browsed memory s' where
  registry entity := by rw [h.router]
  pageSize := h.pageSize
  documents id := by rw [Memory.container_eq h.containers id]
  settings := h.settings

theorem Session.InOrder.paged {s s' : Session σ String} (h : s.InOrder memory)
    (hpaged : s.Paged memory s') : s'.InOrder memory := by
  refine h.alike ?_ hpaged.settings
  rw [hpaged.router]
  exact Std.Refl.refl s.router

/-- **A page** is what the container is asked for. -/
theorem consult_page_eq (hb : b.InMemory memory) {s : Session σ String}
    (h : (memory s.outside).script = none) (container : String) (request : PageRequest) :
    ∃ s', Session.consult (b.perform (.page container request)) s
        = (((memory s.outside).container container).page (memory s.outside).maxPageSize request, s')
      ∧ s.Paged memory s' := by
  have hperform := hb.perform (.page container request) s.outside
  have hsettings := Memory.perform_settings h (.page container request)
  rw [Memory.perform_page h] at hperform hsettings
  have hmemory : memory (b.perform (.page container request) s.outside).2
      = (memory s.outside).log (.query container request) := congrArg Prod.snd hperform
  have hanswer : (b.perform (.page container request) s.outside).1
      = ((memory s.outside).container container).page (memory s.outside).maxPageSize request :=
    congrArg Prod.fst hperform
  refine ⟨{ s with outside := (b.perform (.page container request) s.outside).2 }, ?_, rfl, rfl,
    ?_, ?_⟩
  · rw [Session.consult_eq, hanswer]
  · rw [hmemory]
    rfl
  · rw [hmemory]
    exact hsettings

/-- **A chain of pages** comes to what it comes to in the container. -/
theorem drain_eq (hb : b.InMemory memory) {s : Session σ String}
    (h : (memory s.outside).script = none) (container : String)
    (absorb : α → List Value → Except Failure (Absorbed α)) (patience : Nat)
    (request : PageRequest) (soFar : α) :
    ∃ s', drain b container absorb patience request soFar s
        = (((memory s.outside).container container).gather (memory s.outside).maxPageSize absorb
            patience request soFar, s')
      ∧ s.Paged memory s' := by
  induction patience generalizing s request soFar with
  | zero => exact ⟨s, rfl, Std.Refl.refl s⟩
  | succ n ih =>
    obtain ⟨s₁, hpage, hpaged⟩ := consult_page_eq hb h container request
    have hscript : (memory s₁.outside).script = none := hpaged.settings.script.trans h
    -- Asking for a page leaves the containers as they are, so the rest is drained alike.
    have hcontainer := Memory.container_eq hpaged.containers container
    rw [drain, Run.bind_eq, hpage]
    cases hresult : ((memory s.outside).container container).page (memory s.outside).maxPageSize
        request with
    | error e =>
      rw [MemoryContainer.gather, hresult]
      exact ⟨s₁, rfl, hpaged⟩
    | ok page =>
      rw [MemoryContainer.gather_page hresult]
      dsimp only
      rw [Run.bind_eq, Run.lift_eq]
      cases absorb soFar page.items with
      | error e => exact ⟨s₁, rfl, hpaged⟩
      | ok absorbed =>
        cases absorbed with
        | stop result => exact ⟨s₁, rfl, hpaged⟩
        | goOn soFar =>
          obtain ⟨s', hdrain, hpaged'⟩ := ih hscript { request with token := page.token } soFar
          rw [hcontainer, hpaged.settings.maxPageSize] at hdrain
          dsimp only [bind, Except.bind]
          split
          · exact ⟨s', hdrain, IsTrans.trans _ _ _ hpaged hpaged'⟩
          · exact ⟨s₁, rfl, hpaged⟩

open MemoryContainer in
/-- **A chain from the first page on** comes to what is made of all documents at once, if the
backend waits long enough and the places can be written. -/
theorem drain_all (hb : b.InMemory memory) (hpatient : b.Patient memory) {s s' : Session σ String}
    (hbrowsed : s.Browsed memory s') (hs' : s'.AtRest memory) {container : String}
    (hnumerals : ((memory s.outside).container container).documents.length ≤ 10 ^ maxDigits)
    {absorb : α → List Value → Except Failure (Absorbed α)} (habsorb : Sequential absorb)
    {request : PageRequest} (hcounts : counts request.statement = false)
    (htoken : request.token = none) (hsize : 1 ≤ request.size) (soFar : α) :
    ∃ s'', drain b container absorb (b.patience s'.outside) request soFar s'
      = ((absorb soFar
          ((((memory s.outside).container container).selected request).map .object)).map
            Absorbed.result, s'') := by
  have hdocuments := hbrowsed.documents container
  have hlength := length_selected_le ((memory s.outside).container container) request
  -- The patience exceeds the number of the documents, and each page holds one at least.
  have hwaits := hpatient s'.outside container
  rw [hdocuments] at hwaits
  have hpages : 1 ≤ pageLength (memory s'.outside).maxPageSize request.size :=
    le_pageLength hsize hs'.database.pages
  have hplace : placeOf request.token = .ok ((0 : Nat) : Int) := by
    rw [htoken]
    rfl
  obtain ⟨s'', hdrain, -⟩ := drain_eq hb hs'.database.unscripted container absorb
    (b.patience s'.outside) request soFar
  rw [gather_congr hdocuments, gather_eq habsorb hcounts hplace hpages (hlength.trans hnumerals)
    (by omega) (by omega), List.drop_zero] at hdrain
  exact ⟨s'', hdrain⟩

end Drain

end EntityStore
