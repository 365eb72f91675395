import EntityStore.Proofs.Store.Serving

/-!
# Calls on single documents refine a map

`calls_refine_map` says that creating, reading, replacing and deleting the documents of an entity
come to what they come to on a map from partition values and ids (`DocumentMap`): every result is
that of the map, and in the end the container holds the documents of the map and no others.  It is
a statement about whole sequences of calls, with calls of entities in other containers in between.

`Serves.answer` is the step: a call that begins where a map is served is answered as the map answers
it, and ends where the map after it is served.  A call comes to one request in the container, or
fails before it (`Serves.requested`, `Call.drafted`), so most of a step is said by what the request
does to a container that holds a map.
-/

namespace EntityStore

/-! ### How calls go on -/

theorem DocumentMap.stamped_ok {stamp : DateTime → Option Fields} {now : Except Failure DateTime}
    {body : Fields} (h : stamped stamp now = .ok body) : ∃ t, stamp t = some body := by
  cases now with
  | error e => cases h
  | ok t => exact ⟨t, eq_of_inCalendar h⟩

section

variable {σ κ : Type} {b : Backend σ κ} {s s₁ s₂ : Session σ κ} {call : Call}

theorem Session.consult_eq {α : Type} (f : σ → Except Failure α × σ) :
    consult f s = ((f s.outside).1, { s with outside := (f s.outside).2 }) := rfl

theorem Call.run_of_failed {e : Failure} (h : call.prepare b s = (.error e, s₁)) :
    call.run b s = (.error e, s₁) := by
  rw [run, Run.bind_eq, h]

theorem Call.run_of_ready {entity : String} {work : Work} {handle : κ}
    (h : call.prepare b s = (.ok (.ready entity work), s₁))
    (hresolve : Session.resolve b entity s₁ = (.ok handle, s₂)) :
    call.run b s = work.perform b entity handle s₂ := by
  rw [run, Run.bind_eq, h]
  show (Session.resolve b entity >>= fun handle => work.perform b entity handle) s₁ = _
  rw [Run.bind_eq, hresolve]

/-- The clock is read, and the document stamped with what it shows. -/
theorem Call.stamp_eq (stamp : DateTime → Option Fields) (entity : String) (work : Fields → Work) :
    (do
        let now ← Session.consult b.now
        let body ← inCalendar (stamp now)
        return Prepared.ready entity (work body) : Run (Session σ κ) (Prepared κ)) s
      = ((DocumentMap.stamped stamp (b.now s.outside).1).map fun body => .ready entity (work body),
        { s with outside := (b.now s.outside).2 }) := by
  rw [Run.bind_eq, Session.consult_eq]
  cases (b.now s.outside).1 with
  | error e => rfl
  | ok now => exact Run.bind_pure_eq _ _ _

variable {entity id : String} (hentity : Text.isBlankText entity = false)
  (hid : Text.isBlankText id = false)

include hentity hid

theorem Call.prepare_create_eq (document : Fields) :
    (Call.create (some entity) (some id) (.object document)).prepare b s
      = ((DocumentMap.stamped (Document.stampNew document entity (.str id))
          (b.now s.outside).1).map fun body => .ready entity (.create body),
        { s with outside := (b.now s.outside).2 }) := by
  refine (Run.lift_bind_eq (require_ok hentity) _ s).trans ?_
  refine (Run.lift_bind_eq (show requireDocument (.object document) = .ok document from rfl)
    _ s).trans ?_
  refine (Run.lift_bind_eq (require_ok hid) _ s).trans ?_
  exact Call.stamp_eq _ entity .create

theorem Call.prepare_replace_eq (document : Fields) :
    (Call.replace (some entity) (some id) (.object document)).prepare b s
      = ((DocumentMap.stamped (Document.stampReplacing document entity (.str id))
          (b.now s.outside).1).map fun body => .ready entity (.replace id body),
        { s with outside := (b.now s.outside).2 }) := by
  refine (Run.lift_bind_eq (require_ok hentity) _ s).trans ?_
  refine (Run.lift_bind_eq (require_ok hid) _ s).trans ?_
  refine (Run.lift_bind_eq (show requireDocument (.object document) = .ok document from rfl)
    _ s).trans ?_
  exact Call.stamp_eq _ entity (.replace id)

theorem Call.prepare_read_eq (partition : Value) :
    (Call.read (some entity) (some id) partition).prepare b s
      = (.ok (.ready entity (.read id partition)), s) := by
  refine (Run.lift_bind_eq (require_ok hentity) _ s).trans ?_
  refine (Run.lift_bind_eq (require_ok hid) _ s).trans ?_
  rfl

theorem Call.prepare_delete {config : ContainerConfig}
    (hconfig : Session.configOf entity s = (.ok config, s₁)) (partition : Value) :
    (Call.delete (some entity) (some id) partition).prepare b s
      = ((requirePartition { config with entity := entity } id partition).map fun v =>
          .ready entity (.delete id v), s₁) := by
  refine (Run.lift_bind_eq (require_ok hentity) _ s).trans ?_
  refine (Run.lift_bind_eq (require_ok hid) _ s).trans ?_
  rw [Run.bind_eq, hconfig]
  exact Run.bind_pure_eq _ _ s₁

theorem Call.prepare_delete_eq {config : ContainerConfig} {partition : Option String}
    (hconfig : Session.configOf entity s = (.ok config, s₁))
    (hpartition : partition = none → config.partitionField = Document.idField) :
    (Call.delete (some entity) (some id) (.ofText? partition)).prepare b s
      = (.ok (.ready entity (.delete id (.str (partition.getD id)))), s₁) := by
  have hchosen : requirePartition { config with entity := entity } id (.ofText? partition)
      = .ok (.str (partition.getD id)) := by
    cases partition with
    | some v => rfl
    | none =>
      show (if config.partitionField = Document.idField then _ else _) = _
      rw [if_pos (hpartition rfl)]
      rfl
  rw [Call.prepare_delete hentity hid hconfig, hchosen]
  rfl

end

/-- **A call that writes a document** fails while it is being prepared, or has drafted the document
with its key. -/
theorem Call.drafted {σ κ : Type} {b : Backend σ κ} {s s₁ : Session σ κ} {call : Call}
    {entity id : String} {config : ContainerConfig} {stamp : DateTime → Option Fields}
    {work : Fields → Work} {now : Except Failure DateTime}
    (hprepare : call.prepare b s
      = ((DocumentMap.stamped stamp now).map fun body => .ready entity (work body), s₁))
    (hid : ∀ now body, stamp now = some body → body.get? Document.idField = some (.str id))
    (hpartition : ∀ now body, stamp now = some body → ∃ v, config.partitionOf body = .str v) :
    (∃ e, DocumentMap.stamped stamp now = .error e ∧ call.run b s = (.error e, s₁))
      ∨ ∃ body v, DocumentMap.stamped stamp now = .ok body
        ∧ call.prepare b s = (.ok (.ready entity (work body)), s₁)
        ∧ body.get? Document.idField = some (.str id) ∧ config.partitionOf body = .str v
        ∧ DocumentMap.keyOf config id body = (v, id) := by
  cases hbody : DocumentMap.stamped stamp now with
  | error e =>
    rw [hbody] at hprepare
    exact .inl ⟨e, rfl, Call.run_of_failed hprepare⟩
  | ok body =>
    rw [hbody] at hprepare
    obtain ⟨t, hstamp⟩ := DocumentMap.stamped_ok hbody
    obtain ⟨v, hv⟩ := hpartition t body hstamp
    refine .inr ⟨body, v, rfl, hprepare, hid t body hstamp, hv, ?_⟩
    rw [DocumentMap.keyOf, hv]
    rfl

/-! ### One call -/

namespace Session.Serves

variable {σ : Type} {b : Backend σ String} {memory : σ → Memory} {entity : String}
  {config : ContainerConfig} {others : String → Prop} {m m' : DocumentMap}
  {s s₁ : Session σ String}

/-- A reading of the clock keeps serving. -/
theorem read_clock (h : s.Serves memory entity config others m) (hb : b.InMemory memory) :
    Serves memory entity config others m { s with outside := (b.now s.outside).2 } :=
  h.approached hb (consult_now_unaffected s).approached

/-- The configuration of the entity is always to be had. -/
theorem configOf_own (h : s.Serves memory entity config others m) (hb : b.InMemory memory) :
    ∃ s', configOf entity s = (.ok config, s') ∧ s'.Serves memory entity config others m
      ∧ s'.outside = s.outside := by
  have hserves := h.approached hb (configOf_approached entity s)
  exact ⟨(configOf entity s).2, configOf_eq h.known, hserves, rfl⟩

/-- **A call that comes to one request** is answered as the request is. -/
theorem requested (h : s₁.Serves memory entity config others m) (hb : b.InMemory memory)
    {call : Call} {work : Work} {q : Request String} {f : q.Reply → Answer String}
    {r : Except Failure q.Reply}
    (hprepare : call.prepare b s = (.ok (.ready entity work), s₁))
    (hwork : work.perform b entity config.containerId
      = consult (b.perform q) >>= fun reply => pure (f reply))
    (hrequest : ∀ database : Memory, database.Holds config m →
      (database.perform q).1 = r ∧ (database.perform q).2.Holds config m') :
    ∃ s', call.run b s = (r.map f, s') ∧ s'.Serves memory entity config others m' := by
  obtain ⟨s₂, hresolve, hserves, hholds⟩ := h.resolve_own hb
  obtain ⟨hresult, hafter⟩ := hrequest _ hholds
  obtain ⟨s', hconsult, hserves⟩ := hserves.after hb hafter
  refine ⟨s', ?_, hserves⟩
  rw [Call.run_of_ready hprepare hresolve, hwork, Run.bind_pure_eq, hconsult, hresult]

/-- **Reading a document** finds what the map has under the key. -/
theorem readItem_eq (h : s.Serves memory entity config others m) (hb : b.InMemory memory)
    (hholds : (memory s.outside).Holds config m) (v id : String) :
    ∃ s', readItem b config.containerId id (.str v) s
        = (.ok (m.read (v, id)), s') ∧ s'.Serves memory entity config others m := by
  have hread := hholds.read v id
  have hafter : ((memory s.outside).perform (.read config.containerId id (.str v))).2.Holds
      config m := by
    rw [hread]
    exact hholds
  obtain ⟨s', hconsult, hserves⟩ := h.after hb hafter
  refine ⟨s', ?_, hserves⟩
  rw [readItem, Run.tryCatch_eq, Run.bind_pure_eq, hconsult, hread, DocumentMap.read]
  cases m (v, id) <;> rfl

/-- Where the partition value is left out, it is the id. -/
theorem perform_read (h : s.Serves memory entity config others m) (hb : b.InMemory memory)
    (hholds : (memory s.outside).Holds config m) {id : String} {partition : Option String}
    (hpartition : partition = none → config.partitionField = Document.idField) :
    ∃ s', Work.perform b entity config.containerId (.read id (.ofText? partition)) s
        = (.ok (m.read (partition.getD id, id)), s')
      ∧ s'.Serves memory entity config others m := by
  cases partition with
  | some v => exact h.readItem_eq hb hholds v id
  | none =>
    -- Looking the configuration up may register the entity, but leaves the documents alone.
    obtain ⟨s₁, hconfig, hserves, houtside⟩ := h.configOf_own hb
    obtain ⟨s', hread, hserves⟩ := hserves.readItem_eq hb (houtside ▸ hholds) id id
    refine ⟨s', ?_, hserves⟩
    show (Session.configOf entity >>= fun config =>
      if config.partitionField = Document.idField then readItem b _ id (.str id)
      else findItem b _ id) s = _
    rw [Run.bind_eq, hconfig]
    dsimp only
    rw [if_pos (hpartition rfl)]
    exact hread

/-- **A call on a single document** is answered as the map answers it, and leaves the documents of
the map after it. -/
theorem answer (h : s.Serves memory entity config others m) (hb : b.InMemory memory)
    (hentity : Text.isBlankText entity = false) {call : DocumentCall}
    (hcall : call.Fits entity config) :
    ∃ s', (call.toCall entity).run b s = ((m.answer entity config (b.now s.outside).1 call).1, s')
      ∧ s'.Serves memory entity config others
        (m.answer entity config (b.now s.outside).1 call).2 := by
  cases call with
  | create id document =>
    obtain ⟨hid, hpartition⟩ := hcall
    have hprepare := Call.prepare_create_eq (b := b) (s := s) hentity hid document
    rw [DocumentMap.answer, DocumentCall.toCall]
    rcases Call.drafted hprepare (fun _ _ => Document.stampNew_id) hpartition with
      ⟨e, hbody, hrun⟩ | ⟨body, v, hbody, hready, hbodyId, hv, hkey⟩
    · -- No body can be drafted, and the call fails before it reaches the container.
      rw [hbody]
      exact ⟨_, hrun, h.read_clock hb⟩
    · rw [hbody]
      dsimp only
      rw [hkey]
      -- The container makes the key from the document itself, and it is the same key.
      exact (h.read_clock hb).requested hb hready rfl fun _ hholds => hholds.create hbodyId hv
  | read id partition =>
    obtain ⟨hid, hpartition⟩ := hcall
    -- Reading needs the container as the map has it, and leaves it so.
    have hprepare := Call.prepare_read_eq (b := b) (s := s) hentity hid (.ofText? partition)
    obtain ⟨s₁, hresolve, hserves, hholds⟩ := h.resolve_own hb
    obtain ⟨s', hperform, hserves⟩ := hserves.perform_read hb hholds hpartition
    refine ⟨s', ?_, hserves⟩
    rw [DocumentCall.toCall, Call.run_of_ready hprepare hresolve, hperform, DocumentMap.answer]
  | replace id document =>
    obtain ⟨hid, hpartition⟩ := hcall
    have hprepare := Call.prepare_replace_eq (b := b) (s := s) hentity hid document
    rw [DocumentMap.answer, DocumentCall.toCall]
    rcases Call.drafted hprepare (fun _ _ => Document.stampReplacing_id) hpartition with
      ⟨e, hbody, hrun⟩ | ⟨body, v, hbody, hready, hbodyId, hv, hkey⟩
    · rw [hbody]
      exact ⟨_, hrun, h.read_clock hb⟩
    · rw [hbody]
      dsimp only
      rw [hkey]
      exact (h.read_clock hb).requested hb hready rfl fun _ hholds => hholds.replace hbodyId hv
  | delete id partition =>
    obtain ⟨hid, hpartition⟩ := hcall
    -- The configuration is looked up to tell the partition of the key.
    obtain ⟨s₁, hconfig, hserves, -⟩ := h.configOf_own hb
    have hprepare := Call.prepare_delete_eq (b := b) hentity hid hconfig hpartition
    exact hserves.requested hb hprepare rfl fun _ hholds => hholds.delete (partition.getD id) id

end Session.Serves

/-! ### Sequences of calls -/

/-- One call of a sequence: on a document of the entity in question, or of another entity. -/
inductive Use where
  | own (call : DocumentCall)
  | other (call : Call)

/-- The call on a document, if it is one. -/
def Use.own? : Use → Option DocumentCall
  | own call => some call
  | other _ => none

/-- **The calls of a sequence**: a map answers those on documents, and the other calls are of
entities that do not have the same container. -/
def Use.Fits (registry : Registry) (entity : String) (config : ContainerConfig) : Use → Prop
  | own call => call.Fits entity config
  | other call => ∀ e c, call.entity? = some e → (registry.lookup e).1 = .ok c →
      c.containerId ≠ config.containerId

/-- A call on a document that has been answered, and what the clock showed before. -/
structure Served where
  call : DocumentCall
  now : Except Failure DateTime
  result : Except Failure (Answer String)

/-- What was asked. -/
def Served.asked (c : Served) : DocumentCall × Except Failure DateTime := (c.call, c.now)

/-- **A sequence of calls**, one after the other: those on documents, with their results. -/
def Session.serve {σ : Type} (b : Backend σ String) (entity : String) :
    List Use → Session σ String → List Served × Session σ String
  | [], s => ([], s)
  | .own call :: r, s =>
    let (result, s₁) := (call.toCall entity).run b s
    let (served, s₂) := serve b entity r s₁
    (⟨call, (b.now s.outside).1, result⟩ :: served, s₂)
  | .other call :: r, s => serve b entity r (call.run b s).2

/-- **A sequence of calls on a map**: the results, and the map in the end. -/
def DocumentMap.replay (entity : String) (config : ContainerConfig) :
    List (DocumentCall × Except Failure DateTime) → DocumentMap →
      List (Except Failure (Answer String)) × DocumentMap
  | [], m => ([], m)
  | (call, now) :: r, m =>
    let (result, m₁) := m.answer entity config now call
    let (results, m₂) := replay entity config r m₁
    (result :: results, m₂)

section

variable {σ : Type} {b : Backend σ String} {memory : σ → Memory} {entity : String}
  {config : ContainerConfig} {others : String → Prop} {m : DocumentMap} {s : Session σ String}

/-- Every call on a document is answered, in order. -/
theorem Session.serve_calls (uses : List Use) (s : Session σ String) :
    (s.serve b entity uses).1.map Served.call = uses.filterMap Use.own? := by
  induction uses generalizing s with
  | nil => rfl
  | cons u r ih =>
    cases u with
    | own call =>
      have hrest := ih ((call.toCall entity).run b s).2
      exact congrArg (call :: ·) hrest
    | other call => exact ih (call.run b s).2

/-- **A session that serves the documents of a map goes on as the map does.** -/
theorem Session.Serves.replay (h : s.Serves memory entity config others m) (hb : b.InMemory memory)
    (hentity : Text.isBlankText entity = false) {uses : List Use}
    (hown : ∀ call, .own call ∈ uses → call.Fits entity config)
    (hother : ∀ call, .other call ∈ uses → ∀ e, call.entity? = some e → others e) :
    ∃ m', m.replay entity config ((s.serve b entity uses).1.map Served.asked)
        = ((s.serve b entity uses).1.map Served.result, m')
      ∧ (s.serve b entity uses).2.Serves memory entity config others m' := by
  induction uses generalizing s m with
  | nil => exact ⟨m, rfl, h⟩
  | cons u r ih =>
    have hownRest (call : DocumentCall) (hcall : .own call ∈ r) : call.Fits entity config :=
      hown call (List.mem_cons_of_mem _ hcall)
    have hotherRest (call : Call) (hcall : .other call ∈ r) :
        ∀ e, call.entity? = some e → others e :=
      hother call (List.mem_cons_of_mem _ hcall)
    cases u with
    -- A call of the entity goes the same way in the map.
    | own call =>
      obtain ⟨s₁, hrun, hserves⟩ := h.answer hb hentity (hown call List.mem_cons_self)
      obtain ⟨m', hreplay, hserves⟩ := ih hserves hownRest hotherRest
      refine ⟨m', ?_, ?_⟩
      · rw [Session.serve, hrun]
        dsimp only
        rw [List.map_cons, List.map_cons, Served.asked, DocumentMap.replay]
        dsimp only
        rw [hreplay]
      · rw [Session.serve, hrun]
        exact hserves
    -- A call of another one is not replayed, and changes nothing for the entity.
    | other call =>
      exact ih (h.other hb (hother call List.mem_cons_self)) hownRest hotherRest

/-- A session that has just been opened, over a database that does not refuse and has no container
under an id. -/
structure Session.Fresh {σ : Type} (memory : σ → Memory) (containerId : String)
    (s : Session σ String) : Prop where
  handles : s.router.handles = []
  locks : s.router.locks = []
  accepts : (memory s.outside).refusals ≤ 0
  missing : (memory s.outside).containers.get? containerId = none

theorem Session.Fresh.serves (h : s.Fresh memory config.containerId)
    (hknown : (s.router.registry.lookup entity).1 = .ok config)
    (hothers : ∀ e c, others e → (s.router.registry.lookup e).1 = .ok c →
      c.containerId ≠ config.containerId) :
    s.Serves memory entity config others fun _ => none := by
  have hhandle (e : String) : s.router.handles.get? e = none := by
    rw [h.handles]
    rfl
  constructor
  case known => exact hknown
  case apart => exact fun he hlookup => hothers _ _ he hlookup
  case own =>
    intro handle hkept
    rw [hhandle] at hkept
    cases hkept
  case foreign =>
    intro e handle _ hkept
    rw [hhandle] at hkept
    cases hkept
  case free =>
    intro e
    rw [Router.lockOf, h.locks]
    rfl
  -- A container that has not been made represents the empty map.
  case ready =>
    refine ⟨h.accepts, fun _ _ => rfl, ?_⟩
    intro c hpresent
    rw [h.missing] at hpresent
    cases hpresent

end

/-- **Calls on single documents refine a map.**  Whatever sequence of them is made, with calls of
entities in other containers in between, every call is answered as by the map that starts empty, and
in the end the container holds exactly the documents of the map. -/
theorem calls_refine_map {σ : Type} (b : Backend σ String) (memory : σ → Memory)
    (hb : b.InMemory memory) (s : Session σ String) (entity : String) (config : ContainerConfig)
    (hentity : Text.isBlankText entity = false)
    (hknown : (s.router.registry.lookup entity).1 = .ok config)
    (hfresh : s.Fresh memory config.containerId) (uses : List Use)
    (huses : ∀ u ∈ uses, u.Fits s.router.registry entity config) :
    let served := (s.serve b entity uses).1
    let database := memory (s.serve b entity uses).2.outside
    let replayed := DocumentMap.replay entity config (served.map Served.asked) fun _ => none
    served.map Served.call = uses.filterMap Use.own? ∧ served.map Served.result = replayed.1
      ∧ replayed.2.Represents (database.container config.containerId).documents := by
  intro served database replayed
  -- The entities that may be used in between are those with other containers.
  let others (e : String) : Prop :=
    ∀ c, (s.router.registry.lookup e).1 = .ok c → c.containerId ≠ config.containerId
  have hserves : s.Serves memory entity config others fun _ => none :=
    hfresh.serves hknown fun _ c he hlookup => he c hlookup
  have hown (call : DocumentCall) (hcall : .own call ∈ uses) : call.Fits entity config :=
    huses (.own call) hcall
  have hother (call : Call) (hcall : .other call ∈ uses) (e : String)
      (he : call.entity? = some e) : others e := fun c => huses (.other call) hcall e c he
  obtain ⟨m', hreplay, hafter⟩ := hserves.replay hb hentity hown hother
  have hreplayed : replayed = (served.map Served.result, m') := hreplay
  rw [hreplayed]
  exact ⟨Session.serve_calls uses s, rfl, hafter.ready.represents⟩

/-- The documents of one tenant: one is created, once more in vain, replaced and read, while another
entity has a document of the same id; deleting it for another tenant fails. -/
theorem calls_refine_map_dotted :
    let orders : ContainerConfig := ⟨"order", "orders", "tenant.name"⟩
    let s : Session LocalState String :=
      ⟨{ registry := .ofList [orders, ⟨"customer", "customers", "id"⟩] false }, 10,
        { clock := ⟨⟨2024, 1, 1⟩, 0, 0, 0, 0, none⟩, ids := ⟨[], 0⟩ }⟩
    let sent : Fields := [("tenant", .object [("name", .str "a")])]
    let uses : List Use :=
      [.own (.create "1" sent), .own (.create "1" sent),
        .other (.create (some "customer") (some "1") (.object [])),
        .own (.replace "1" (sent.put "closed" (.bool true))), .own (.read "1" (some "a")),
        .own (.delete "1" (some "b"))]
    (∀ u ∈ uses, u.Fits s.router.registry "order" orders)
      ∧ ((s.serve LocalState.backend "order" uses).1.map fun c => c.result.toOption.isSome)
        = [true, false, true, true, false]
      ∧ let served := (s.serve LocalState.backend "order" uses).1
        let database := (s.serve LocalState.backend "order" uses).2.outside.memory
        let replayed := DocumentMap.replay "order" orders (served.map Served.asked) fun _ => none
        served.map Served.call = uses.filterMap Use.own? ∧ served.map Served.result = replayed.1
          ∧ replayed.2.Represents (database.container orders.containerId).documents := by
  intro orders s sent uses
  have hpath : MemoryContainer.pathSegments orders.partitionPath = ["tenant", "name"] :=
    (ContainerConfig.pathSegments_partitionPath (by decide) (by decide)).trans (by decide)
  -- The field has two segments, and the document is stamped without touching it.
  have hpartition (fields : Fields)
      (hfields : fields.get? "tenant" = some (.object [("name", .str "a")])) :
      orders.partitionOf fields = .str "a" := by
    rw [ContainerConfig.partitionOf, hpath, MemoryContainer.valueAt]
    show MemoryContainer.valueAt ((fields.get? "tenant").getD .null) ["name"] = _
    rw [hfields]
    rfl
  have hcreate : DocumentCall.Fits "order" orders (.create "1" sent) := by
    refine ⟨by decide, fun now body hstamp => ⟨"a", hpartition body ?_⟩⟩
    obtain ⟨time, -, rfl⟩ := Option.map_eq_some_iff.1 hstamp
    rfl
  have hreplace : DocumentCall.Fits "order" orders
      (.replace "1" (sent.put "closed" (.bool true))) := by
    refine ⟨by decide, fun now body hstamp => ⟨"a", hpartition body ?_⟩⟩
    obtain ⟨time, -, rfl⟩ := Option.map_eq_some_iff.1 hstamp
    rfl
  -- Every call of the run is one that the map answers.
  have hfits : ∀ u ∈ uses, u.Fits s.router.registry "order" orders := by
    simp only [uses, List.forall_mem_cons]
    refine ⟨hcreate, hcreate, ?_, hreplace, ?_, ?_, List.forall_mem_nil _⟩
    · rintro e c ⟨⟩ ⟨⟩
      decide
    · exact ⟨by decide, fun h => by cases h⟩
    · exact ⟨by decide, fun h => by cases h⟩
  exact ⟨hfits, by decide +kernel, calls_refine_map LocalState.backend LocalState.memory
    LocalState.backend_inMemory s "order" orders (by decide) rfl ⟨rfl, rfl, by decide, rfl⟩ uses
    hfits⟩

end EntityStore
