import EntityStore.Proofs.Store.Course

/-!
# Sessions that cannot be told apart in one container

Two sessions are the same for a container when they know the same entities, keep the same handles
for those that have the container, and hold the same documents in it (`Session.SameFor`).  What
the databases hold elsewhere, what the clocks show and what the events are does not matter.

Calls on the container cannot tell such sessions apart: what is left to do of a call is answered
alike and leaves them the same for the container (`perform_respects`), and so is a whole call, if
the clock and the source of ids show the same to it (`Call.run_twins`).  A call on another
container leaves a session the same as it was (`Call.Course.sameFor`).

How many pages may be asked for differs between the two, so a chain of pages has to come to the same
for any patience that is large enough.  It does for the chains that calls start, whose pages hold a
document at least (`Work.WellPosed`).
-/

namespace EntityStore

/-! ### Computations from related states -/

namespace Run

variable {S α β : Type} {R : S → S → Prop} {x : Run S α}

/-- **A computation that cannot tell related states apart**: it comes to the same, and leaves them
related. -/
def Respects (R : S → S → Prop) (x : Run S α) : Prop :=
  ∀ s s', R s s' → (x s').1 = (x s).1 ∧ R (x s).2 (x s').2

theorem respects_pure (a : α) : Respects R (pure a : Run S α) := fun _ _ h => ⟨rfl, h⟩

theorem respects_throw (e : Failure) : Respects R (throw e : Run S α) := fun _ _ h => ⟨rfl, h⟩

theorem respects_lift (x : Except Failure α) : Respects R (liftM x : Run S α) :=
  fun _ _ h => ⟨rfl, h⟩

/-- What follows on two computations that have come to the same. -/
theorem bind_alike {y : Run S α} {f : α → Run S β} {s s' : S} (hsame : (y s').1 = (x s).1)
    (hstates : R (x s).2 (y s').2) (hf : ∀ a, Respects R (f a)) :
    ((y >>= f) s').1 = ((x >>= f) s).1 ∧ R ((x >>= f) s).2 ((y >>= f) s').2 := by
  rw [bind_eq, bind_eq]
  rcases hrun : x s with ⟨e | a, s₁⟩ <;> rcases hrun' : y s' with ⟨e' | a', s₁'⟩ <;>
    rw [hrun, hrun'] at hsame hstates <;> cases hsame
  · exact ⟨rfl, hstates⟩
  · exact hf a s₁ s₁' hstates

theorem respects_bind {f : α → Run S β} (hx : Respects R x) (hf : ∀ a, Respects R (f a)) :
    Respects R (x >>= f) := by
  intro s s' h
  obtain ⟨hsame, hstates⟩ := hx s s' h
  exact bind_alike hsame hstates hf

theorem respects_tryCatch {handle : Failure → Run S α} (hx : Respects R x)
    (hhandle : ∀ e, Respects R (handle e)) : Respects R (tryCatch x handle) := by
  intro s s' h
  obtain ⟨hsame, hstates⟩ := hx s s' h
  rw [tryCatch_eq, tryCatch_eq]
  rcases hrun : x s with ⟨e | a, s₁⟩ <;> rcases hrun' : x s' with ⟨e' | a', s₁'⟩ <;>
    rw [hrun, hrun'] at hsame hstates <;> cases hsame
  · exact hhandle e s₁ s₁' hstates
  · exact ⟨rfl, hstates⟩

/-- What comes of a sequence from two states, when its first part has come to the same. -/
theorem fst_bind_congr {f : α → Run S β} {s s' : S} (hx : (x s').1 = (x s).1)
    (hf : ∀ a, x s = (.ok a, (x s).2) → x s' = (.ok a, (x s').2) →
      (f a (x s').2).1 = (f a (x s).2).1) :
    ((x >>= f) s').1 = ((x >>= f) s).1 := by
  rw [bind_eq, bind_eq]
  rcases hrun : x s with ⟨e | a, s₁⟩ <;> rcases hrun' : x s' with ⟨e' | a', s₁'⟩ <;>
    rw [hrun, hrun'] at hx hf <;> cases hx
  · rfl
  · exact hf a rfl rfl

theorem fst_lift_bind_congr {x : Except Failure α} {f : α → Run S β} {s s' : S}
    (hf : ∀ a, x = .ok a → (f a s').1 = (f a s).1) :
    (((liftM x : Run S α) >>= f) s').1 = (((liftM x : Run S α) >>= f) s).1 := by
  cases x with
  | error e => rfl
  | ok a => exact hf a rfl

/-- What is done with the state itself. -/
theorem respects_get {f : S → Run S β}
    (hf : ∀ s s', R s s' → (f s' s').1 = (f s s).1 ∧ R (f s s).2 (f s' s').2) :
    Respects R ((get : Run S S) >>= f) := hf

end Run

namespace Session

variable {σ : Type} {b : Backend σ String} {memory : σ → Memory} {container : String}
  {s s' s'' : Session σ String}

/-! ### Sessions that are the same for a container -/

/-- **Two sessions are the same for a container.** -/
structure SameFor (memory : σ → Memory) (container : String) (s s' : Session σ String) : Prop where
  registry : s.router.registry.Agrees s'.router.registry
  pageSize : s'.pageSize = s.pageSize
  handles : ∀ {entity : String} {config : ContainerConfig},
    (s.router.registry.lookup entity).1 = .ok config → config.containerId = container →
    s'.router.handles.get? entity = s.router.handles.get? entity
  container : (memory s'.outside).containers.get? container
    = (memory s.outside).containers.get? container
  maxPageSize : (memory s'.outside).maxPageSize = (memory s.outside).maxPageSize

instance (memory : σ → Memory) (container : String) :
    IsPreorder (Session σ String) (SameFor memory container) where
  refl _ := ⟨fun _ => rfl, rfl, fun _ _ => rfl, rfl, rfl⟩
  trans _ _ _ h h' := ⟨h.registry.trans h'.registry, h'.pageSize.trans h.pageSize,
    fun hknown hown =>
      (h'.handles ((h.registry _).trans hknown) hown).trans (h.handles hknown hown),
    h'.container.trans h.container, h'.maxPageSize.trans h.maxPageSize⟩

theorem SameFor.symm (h : s.SameFor memory container s') : s'.SameFor memory container s where
  registry entity := (h.registry entity).symm
  pageSize := h.pageSize.symm
  handles hknown hown := (h.handles ((h.registry _).symm.trans hknown) hown).symm
  container := h.container.symm
  maxPageSize := h.maxPageSize.symm

theorem SameFor.container_eq (h : s.SameFor memory container s') :
    (memory s'.outside).container container = (memory s.outside).container container := by
  rw [Memory.container, Memory.container, h.container]

/-- Routing alike over a database in which the container is as before. -/
theorem SameFor.of_alike (halike : s.Alike s')
    (hcontainer : (memory s'.outside).containers.get? container
      = (memory s.outside).containers.get? container)
    (hsettings : (memory s.outside).SameSettings (memory s'.outside)) :
    s.SameFor memory container s' where
  registry := halike.router.registry
  pageSize := halike.pageSize
  handles _ _ := by rw [halike.router.handles]
  container := hcontainer
  maxPageSize := hsettings.maxPageSize

/-- Preparing a call leaves a session the same. -/
theorem Approached.sameFor (hb : b.InMemory memory) (h : s.Approached b s') :
    s.SameFor memory container s' := by
  have hmemory := h.outside.memory_eq hb
  refine .of_alike ⟨h.router, h.pageSize⟩ ?_ (h.browsed hb).settings
  rw [hmemory]

/-- And so does asking for pages. -/
theorem Paged.sameFor (h : s.Paged memory s') : s.SameFor memory container s' := by
  refine .of_alike ⟨?_, h.pageSize⟩ ?_ h.settings
  · rw [h.router]
    exact Std.Refl.refl s.router
  · rw [h.containers]

/-! ### Twins -/

/-- **Two sessions in order that are the same for a container.** -/
structure Twins (memory : σ → Memory) (container : String) (s s' : Session σ String) : Prop where
  left : s.InOrder memory
  right : s'.InOrder memory
  same : s.SameFor memory container s'

/-- Steps that leave each of two sessions the same leave them twins. -/
theorem Twins.step (h : s.Twins memory container s') {t t' : Session σ String}
    (ht : t.InOrder memory) (ht' : t'.InOrder memory) (hs : s.SameFor memory container t)
    (hs' : s'.SameFor memory container t') : t.Twins memory container t' where
  left := ht
  right := ht'
  same := IsTrans.trans _ _ _ hs.symm (IsTrans.trans _ _ _ h.same hs')

end Session

/-! ### Requests -/

namespace Memory

variable {m m' : Memory}

/-- **A request sees no more than its own container**, and the limit of pages. -/
theorem perform_congr {q : Request String}
    (hcontainer : m'.containers.get? q.container = m.containers.get? q.container)
    (hscript : m.script = none) (hscript' : m'.script = none)
    (hmax : m'.maxPageSize = m.maxPageSize) :
    (m'.perform q).1 = (m.perform q).1
      ∧ (m'.perform q).2.containers.get? q.container
        = (m.perform q).2.containers.get? q.container := by
  -- A request looks at its own container only.
  have hsame : m'.container q.container = m.container q.container := by
    rw [container, container, hcontainer]
  -- Whatever else the databases hold, a change puts the same container into both.
  have hchange {α : Type} (reply : α) (result : Except Failure MemoryContainer) :
      (m'.change q.container reply result).1 = (m.change q.container reply result).1
        ∧ (m'.change q.container reply result).2.containers.get? q.container
          = (m.change q.container reply result).2.containers.get? q.container := by
    cases result with
    | error e => exact ⟨rfl, hcontainer⟩
    | ok c =>
      refine ⟨rfl, ?_⟩
      show Entries.get? (m'.containers.put _ c) _ = Entries.get? (m.containers.put _ c) _
      rw [Entries.get?_put_self, Entries.get?_put_self]
  cases q with
  | create id body =>
    rw [perform, perform, show m'.container id = m.container id from hsame]
    exact hchange _ _
  | read id item partition =>
    rw [perform, perform, show m'.container id = m.container id from hsame]
    exact ⟨rfl, hcontainer⟩
  | replace id item body =>
    rw [perform, perform, show m'.container id = m.container id from hsame]
    exact hchange _ _
  | delete id item partition =>
    rw [perform, perform, show m'.container id = m.container id from hsame]
    exact hchange _ _
  | page id request =>
    rw [perform_page hscript, perform_page hscript', hmax,
      show m'.container id = m.container id from hsame]
    exact ⟨rfl, hcontainer⟩

end Memory

/-! ### Work in the container -/

section

variable {σ : Type} {b : Backend σ String} {memory : σ → Memory} {container : String}

open Session

/-- **A request to the container** cannot tell twins apart. -/
theorem consult_respects (hb : b.InMemory memory) {q : Request String}
    (hq : q.container = container) :
    Run.Respects (Twins memory container) (consult (b.perform q)) := by
  subst hq
  intro s s' h
  have hscript := h.left.database.unscripted
  have hscript' := h.right.database.unscripted
  obtain ⟨hanswer, hcontainer⟩ :=
    Memory.perform_congr h.same.container hscript hscript' h.same.maxPageSize
  have hsettings := Memory.perform_settings hscript q
  have hsettings' := Memory.perform_settings hscript' q
  rw [← hb.perform q s.outside] at hanswer hcontainer hsettings
  rw [← hb.perform q s'.outside] at hanswer hcontainer hsettings'
  refine ⟨hanswer, ?_, ?_, h.same.registry, h.same.pageSize, h.same.handles, hcontainer, ?_⟩
  · exact h.left.alike (Std.Refl.refl s.router) hsettings
  · exact h.right.alike (Std.Refl.refl s'.router) hsettings'
  · exact hsettings'.maxPageSize.trans (h.same.maxPageSize.trans hsettings.maxPageSize.symm)

theorem configOf_respects (hb : b.InMemory memory) (entity : String) :
    Run.Respects (Twins memory container) (configOf entity) := by
  intro s s' h
  have happroached := configOf_approached (b := b) entity s
  have happroached' := configOf_approached (b := b) entity s'
  refine ⟨h.same.registry entity, h.step ?_ ?_ ?_ ?_⟩
  · exact h.left.approached hb happroached
  · exact h.right.approached hb happroached'
  · exact happroached.sameFor hb
  · exact happroached'.sameFor hb

/-- **A chain of pages** cannot tell twins apart, however many pages may be asked for. -/
theorem drain_twins (hb : b.InMemory memory) (hpatient : b.Patient memory) {α : Type}
    (absorb : α → List Value → Except Failure (Absorbed α)) {request : PageRequest}
    (htoken : request.token = none)
    (hsize : MemoryContainer.counts request.statement = true ∨ 1 ≤ request.size) (soFar : α)
    {s s' : Session σ String} (h : s.Twins memory container s') :
    (drain b container absorb (b.patience s'.outside) request soFar s').1
        = (drain b container absorb (b.patience s.outside) request soFar s).1
      ∧ (drain b container absorb (b.patience s.outside) request soFar s).2.Twins memory container
        (drain b container absorb (b.patience s'.outside) request soFar s').2 := by
  obtain ⟨t, hdrain, hpaged⟩ := drain_eq hb h.left.database.unscripted container absorb
    (b.patience s.outside) request soFar
  obtain ⟨t', hdrain', hpaged'⟩ := drain_eq hb h.right.database.unscripted container absorb
    (b.patience s'.outside) request soFar
  have hpage : MemoryContainer.counts request.statement = true
      ∨ 1 ≤ MemoryContainer.pageLength (memory s.outside).maxPageSize request.size :=
    hsize.imp_right fun hsize => MemoryContainer.le_pageLength hsize h.left.database.pages
  -- The two wait for different numbers of pages, both for more than there are documents.
  have hwaits' := hpatient s'.outside container
  rw [h.same.container_eq] at hwaits'
  rw [hdrain, hdrain', h.same.container_eq, h.same.maxPageSize]
  refine ⟨MemoryContainer.gather_alike hpage htoken hwaits' (hpatient s.outside container), ?_⟩
  exact h.step (h.left.paged hpaged) (h.right.paged hpaged') hpaged.sameFor hpaged'.sameFor

/-- **Work in the container** cannot tell twins apart. -/
theorem perform_respects (hb : b.InMemory memory) (hpatient : b.Patient memory) (entity : String)
    {work : Work} (hposed : work.WellPosed) :
    Run.Respects (Twins memory container) (work.perform b entity container) := by
  -- The two ways of reading, by key and through a chain of pages.
  have hreadItem (id : String) (partition : Value) :
      Run.Respects (Twins memory container) (readItem b container id partition) := by
    refine Run.respects_tryCatch ?_ fun e => ?_
    · exact Run.respects_bind (consult_respects hb rfl) fun v => Run.respects_pure _
    · split
      · exact Run.respects_pure _
      · exact Run.respects_throw _
  have hdrain {α : Type} (absorb : α → List Value → Except Failure (Absorbed α))
      {request : PageRequest} (htoken : request.token = none)
      (hsize : MemoryContainer.counts request.statement = true ∨ 1 ≤ request.size) (soFar : α)
      {f : α → Run (Session σ String) (Answer String)}
      (hf : ∀ a, Run.Respects (Twins memory container) (f a)) :
      Run.Respects (Twins memory container) ((get : Run _ (Session σ String)) >>= fun s =>
        drain b container absorb (b.patience s.outside) request soFar >>= f) := by
    -- The patience may differ on the two sides, but on both it outlasts the chain.
    refine Run.respects_get fun s s' h => ?_
    obtain ⟨hsame, htwins⟩ := drain_twins hb hpatient absorb htoken hsize soFar h
    exact Run.bind_alike hsame htwins hf
  cases work with
  | resolve => exact Run.respects_pure _
  | create body => exact Run.respects_bind (consult_respects hb rfl) fun v => Run.respects_pure _
  | read id partition =>
    rw [Work.perform]
    split
    · refine Run.respects_bind (configOf_respects hb entity) fun config => ?_
      split
      · exact hreadItem id _
      · refine hdrain absorbFirst rfl (.inr (Int.le_refl 1)) none fun found => ?_
        cases found <;> exact Run.respects_pure _
    · exact hreadItem id partition
  | replace id body =>
    exact Run.respects_bind (consult_respects hb rfl) fun v => Run.respects_pure _
  | delete id partition =>
    exact Run.respects_bind (consult_respects hb rfl) fun v => Run.respects_pure _
  | readMap request =>
    exact hdrain absorbDocuments hposed.1 (.inr hposed.2.2) [] fun found => Run.respects_pure _
  | count request =>
    exact hdrain absorbCounts hposed.1 (.inl hposed.2) 0 fun n => Run.respects_pure _
  | query request =>
    refine Run.respects_bind (consult_respects hb rfl) fun page => ?_
    exact Run.respects_bind (Run.respects_lift _) fun result => Run.respects_pure _

/-! ### Whole calls -/

/-- **What a call is shown** by the source of ids and by the clock, as far as it asks them. -/
def Call.shown {κ : Type} (b : Backend σ κ) (o : σ) :
    Call → Option String × Option (Except Failure DateTime)
  | .create _ none _ => (some (b.newId o).1, some (b.now (b.newId o).2).1)
  | .create _ (some _) _ | .replace .. => (none, some (b.now o).1)
  | _ => (none, none)

/-- **A call is prepared alike** in sessions that know the same entities, if it is shown the
same. -/
theorem Call.prepare_alike {s s' : Session σ String} {call : Call}
    (hregistry : s.router.registry.Agrees s'.router.registry) (hpage : s'.pageSize = s.pageSize)
    (hshown : call.shown b s'.outside = call.shown b s.outside) :
    (call.prepare b s').1 = (call.prepare b s).1 := by
  cases call with
  | resolve entity => rfl
  | create entity id document =>
    refine Run.fst_lift_bind_congr fun entity _ => ?_
    refine Run.fst_lift_bind_congr fun document _ => ?_
    cases id with
    | some id =>
      -- With a given id only the clock is shown.
      have hnow : (b.now s'.outside).1 = (b.now s.outside).1 :=
        Option.some.inj (congrArg Prod.snd hshown)
      refine Run.fst_bind_congr rfl fun id _ _ => ?_
      refine Run.fst_lift_bind_congr fun id _ => ?_
      refine Run.fst_bind_congr hnow fun now _ _ => ?_
      exact Run.fst_lift_bind_congr fun body _ => rfl
    | none =>
      -- Without one the clock is read behind the new id.
      have hid : (b.newId s'.outside).1 = (b.newId s.outside).1 :=
        Option.some.inj (congrArg Prod.fst hshown)
      have hnow : (b.now (b.newId s'.outside).2).1 = (b.now (b.newId s.outside).2).1 :=
        Option.some.inj (congrArg Prod.snd hshown)
      refine Run.fst_bind_congr (congrArg Except.ok hid) fun id _ _ => ?_
      refine Run.fst_lift_bind_congr fun id _ => ?_
      refine Run.fst_bind_congr hnow fun now _ _ => ?_
      exact Run.fst_lift_bind_congr fun body _ => rfl
  | read entity id partition =>
    refine Run.fst_lift_bind_congr fun entity _ => ?_
    exact Run.fst_lift_bind_congr fun id _ => rfl
  | replace entity id document =>
    have hnow : (b.now s'.outside).1 = (b.now s.outside).1 :=
      Option.some.inj (congrArg Prod.snd hshown)
    refine Run.fst_lift_bind_congr fun entity _ => ?_
    refine Run.fst_lift_bind_congr fun id _ => ?_
    refine Run.fst_lift_bind_congr fun document _ => ?_
    refine Run.fst_bind_congr hnow fun now _ _ => ?_
    exact Run.fst_lift_bind_congr fun body _ => rfl
  | delete entity id partition =>
    refine Run.fst_lift_bind_congr fun entity _ => ?_
    refine Run.fst_lift_bind_congr fun id _ => ?_
    -- The partition may depend on the configuration, about which the registries agree.
    refine Run.fst_bind_congr (hregistry entity) fun config _ _ => ?_
    exact Run.fst_lift_bind_congr fun partition _ => rfl
  | readMap entity partition ids =>
    refine Run.fst_lift_bind_congr fun entity _ => ?_
    refine Run.fst_lift_bind_congr fun ids _ => ?_
    split
    · rfl
    · exact Run.fst_bind_congr (hregistry entity) fun config _ _ => rfl
  | query entity input =>
    refine Run.fst_lift_bind_congr fun entity _ => ?_
    refine Run.fst_lift_bind_congr fun q _ => ?_
    refine Run.fst_lift_bind_congr fun statement _ => ?_
    -- A query without a limit takes the size of a page from the session.
    have hsize : q.limit.getD s'.pageSize = q.limit.getD s.pageSize := by rw [hpage]
    exact congrArg (fun size => Except.ok (Prepared.ready entity (.query
      { statement := statement, size := size, token := q.continuationToken }))) hsize
  | count entity input =>
    refine Run.fst_lift_bind_congr fun entity _ => ?_
    refine Run.fst_lift_bind_congr fun q _ => ?_
    refine Run.fst_lift_bind_congr fun statement _ => ?_
    exact congrArg (fun size => Except.ok (Prepared.ready entity (.count
      { statement := statement, size := size }))) hpage

/-- Resolving another container leaves a session the same. -/
theorem Session.Resolved.sameFor {entity : String} {config : ContainerConfig}
    {s s' : Session σ String} (h : s.Resolved memory entity config s')
    (hknown : (s.router.registry.lookup entity).1 = .ok config)
    (hother : config.containerId ≠ container) : s.SameFor memory container s' where
  registry := h.browsed.registry
  pageSize := h.browsed.pageSize
  handles := by
    intro e config' hknown' hown
    -- The handle that is new is that of an entity with another container.
    rw [h.handles, if_neg]
    rintro rfl
    obtain rfl : config' = config := Except.ok.inj (hknown'.symm.trans hknown)
    exact hother hown
  container := h.others container hother.symm
  maxPageSize := h.browsed.settings.maxPageSize

/-- Resolving the container leaves twins behind. -/
theorem Session.Twins.resolved {entity : String} {config : ContainerConfig}
    {s s' t t' : Session σ String} (h : s.Twins memory config.containerId s')
    (hknown : (s.router.registry.lookup entity).1 = .ok config) (ht : t.InOrder memory)
    (ht' : t'.InOrder memory) (hresolved : s.Resolved memory entity config t)
    (hresolved' : s'.Resolved memory entity config t') :
    t.Twins memory config.containerId t' where
  left := ht
  right := ht'
  same := by
    constructor
    case registry =>
      intro e
      rw [hresolved'.browsed.registry, hresolved.browsed.registry, h.same.registry]
    case pageSize => rw [hresolved'.browsed.pageSize, hresolved.browsed.pageSize, h.same.pageSize]
    case handles =>
      intro e config' hknown' hown
      have hlookup := (hresolved.browsed.registry e).symm.trans hknown'
      rw [hresolved'.handles, hresolved.handles, h.same.handles hlookup hown]
    case container =>
      rw [hresolved'.own, hresolved.own, h.same.container, h.same.handles hknown rfl]
    case maxPageSize =>
      rw [hresolved'.browsed.settings.maxPageSize, hresolved.browsed.settings.maxPageSize,
        h.same.maxPageSize]

/-- **A call on another container** leaves a session the same. -/
theorem Call.Course.sameFor (hb : b.InMemory memory) {s s' : Session σ String} {call : Call}
    {result : Except Failure (Answer String)} (h : call.Course b memory s result s')
    (hother : call.containerId? s.router.registry ≠ some container) :
    s.SameFor memory container s' := by
  cases h with
  | ended _ happroached => exact happroached.sameFor hb
  | @works entity work config s₁ s₂ _ _ hprepare hknown hs₂ hresolved hperform =>
    have hne : config.containerId ≠ container := by
      rintro rfl
      exact hother (Call.containerId?_of_known (Call.prepare_entity hprepare) hknown)
    have happroached := (Call.prepare_approached call).of_eq hprepare
    have hknown₁ := (happroached.router.registry entity).trans hknown
    have halike := (perform_alike b entity config.containerId work).of_eq hperform
    have hspares := (perform_sparesContainer hb hne entity work).of_eq hperform
    have hsettings := perform_keepsSettings hb entity _ work hs₂.database.unscripted hperform
    have hresolvedSame : s₁.SameFor memory container s₂ := hresolved.sameFor hknown₁ hne
    have hworked : s₂.SameFor memory container s' :=
      .of_alike halike hspares.memory.container hsettings
    exact IsTrans.trans _ _ _ (happroached.sameFor hb) (IsTrans.trans _ _ _ hresolvedSame hworked)

/-- **A call on the container** cannot tell twins apart, if it is shown the same. -/
theorem Call.run_twins (hb : b.InMemory memory) (hpatient : b.Patient memory)
    {s s' : Session σ String} (h : s.Twins memory container s') {call : Call}
    (hown : call.containerId? s.router.registry = some container)
    (hshown : call.shown b s'.outside = call.shown b s.outside) :
    (call.run b s').1 = (call.run b s).1
      ∧ (call.run b s).2.Twins memory container (call.run b s').2 := by
  have hsame := Call.prepare_alike h.same.registry h.same.pageSize hshown
  have happroached := Call.prepare_approached (b := b) call s
  have happroached' := Call.prepare_approached (b := b) call s'
  have htwins := h.step (h.left.approached hb happroached) (h.right.approached hb happroached')
    (happroached.sameFor hb) (happroached'.sameFor hb)
  -- Both sides are prepared to the same.
  rcases hprepare : call.prepare b s with ⟨r, t⟩
  rcases hprepare' : call.prepare b s' with ⟨r', t'⟩
  rw [hprepare, hprepare'] at hsame
  rw [hprepare] at happroached htwins
  rw [hprepare'] at htwins
  obtain rfl : r' = r := hsame
  rcases r' with e | a | ⟨entity, work⟩
  · -- The call fails on both sides,
    rw [Call.run_of_failed hprepare, Call.run_of_failed hprepare']
    exact ⟨rfl, htwins⟩
  · -- or it is answered at once on both,
    rw [Call.run_of_answered hprepare, Call.run_of_answered hprepare']
    exact ⟨rfl, htwins⟩
  · -- or the same work is left to both, and the container is resolved on each side by itself.
    obtain ⟨config, hknown, rfl⟩ := Call.known_of_containerId? (Call.prepare_entity hprepare) hown
    have hknownLeft := (happroached.router.registry entity).trans hknown
    have hknownRight := (htwins.same.registry entity).trans hknownLeft
    obtain ⟨u, hresolve, hu, hresolved⟩ := htwins.left.resolve_known hb hknownLeft
    obtain ⟨u', hresolve', hu', hresolved'⟩ := htwins.right.resolve_known hb hknownRight
    rw [Call.run_of_ready hprepare hresolve, Call.run_of_ready hprepare' hresolve']
    exact perform_respects hb hpatient entity (Call.prepare_wellPosed hprepare) u u'
      (htwins.resolved hknownLeft hu hu' hresolved hresolved')

end

end EntityStore
