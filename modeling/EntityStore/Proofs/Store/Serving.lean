import EntityStore.Proofs.Store.DocumentMap
import EntityStore.Proofs.Store.Draft
import EntityStore.Proofs.Store.Turn

/-!
# Sessions that serve the documents of an entity

Calls are made one after the other, over a database in memory that refuses nothing.  A session
serves the documents of an entity when the entity is known, and its container holds the documents,
or is not there yet and there are none (`Session.Serves`, `Memory.Ready`).  Others are served beside
it, and none of them has the same container.  Which entities these are is left open: with automatic
registration there is always an entity of the name of the container, and it must not be used.

Every call keeps that.  A call of another entity does not come near the container
(`Serves.other`); resolving the container of the entity itself succeeds and makes the container if
need be (`Serves.resolve_own`).
-/

namespace EntityStore

/-! ### Resolving while no other task runs -/

namespace Router

variable {κ : Type} {r : Router κ} {entity : String}

/-- No lock is held, and nobody waits for one. -/
def AllFree (r : Router κ) : Prop := ∀ entity, r.lockOf entity = {}

/-- A lock that nobody waits for is free once it has been passed on. -/
theorem release_allFree (hwaiters : (r.lockOf entity).waiters = [])
    (hothers : ∀ e, e ≠ entity → r.lockOf e = {}) : (r.release entity).2.AllFree := by
  intro e
  rw [release, hwaiters]
  dsimp only
  rw [lockOf_put]
  split
  · rfl
  · next he => exact hothers e he

theorem request_free (task : Nat) {config : ContainerConfig} {registry : Registry}
    (h : r.handles.get? entity = none)
    (hlookup : r.registry.lookup entity = (.ok config, registry)) (hfree : r.AllFree) :
    r.request task entity
      = (.calling config, ⟨registry, r.handles, r.locks.put entity { holder := some task }⟩) := by
  rw [request, h, hlookup]
  dsimp only
  rw [hfree entity]
  rfl

end Router

/-- **Resolving a container while no other task runs**: a container whose handle is not kept is
provisioned, and its handle kept when that succeeds. -/
theorem Session.resolve_free {σ κ : Type} (b : Backend σ κ) {s : Session σ κ} {entity : String}
    {config : ContainerConfig} {registry : Registry} (h : s.router.handles.get? entity = none)
    (hlookup : s.router.registry.lookup entity = (.ok config, registry))
    (hfree : s.router.AllFree) {handle : κ} {o : σ}
    (hprovision : b.provision config.containerId config.partitionPath s.outside = (.ok handle, o)) :
    ∃ locks, resolve b entity s
        = (.ok handle, ⟨⟨registry, s.router.handles.put entity handle, locks⟩, s.pageSize, o⟩)
      ∧ (⟨registry, s.router.handles.put entity handle, locks⟩ : Router κ).AllFree := by
  -- The router as it is while the lock is held, with the handle in it already.
  let held : Router κ :=
    ⟨registry, s.router.handles.put entity handle,
      s.router.locks.put entity { holder := some 0 }⟩
  have hheld (e : String) : held.lockOf e
      = if e = entity then { holder := some 0 } else s.router.lockOf e :=
    s.router.lockOf_put entity e { holder := some 0 }
  have hwaiters : (held.lockOf entity).waiters = [] := by
    rw [hheld, if_pos rfl]
  have hreleased : (held.release entity).2.AllFree := by
    refine Router.release_allFree hwaiters fun e he => ?_
    rw [hheld, if_neg he, hfree e]
  have hrouter : (held.release entity).2
      = ⟨registry, s.router.handles.put entity handle, held.locks.put entity {}⟩ := by
    rw [Router.release, hwaiters]
  refine ⟨held.locks.put entity {}, ?_, hrouter ▸ hreleased⟩
  rw [resolve, Router.request_free 0 h hlookup hfree, ← hrouter]
  -- The lock is taken before the database is asked, and nobody waits for it.
  let asked : Router κ :=
    ⟨registry, s.router.handles, s.router.locks.put entity { holder := some 0 }⟩
  let answer := b.provision config.containerId config.partitionPath s.outside
  show (answer.1, (⟨(asked.settle entity answer.1).2, s.pageSize, answer.2⟩ : Session σ κ)) = _
  rw [show answer = (.ok handle, o) from hprovision]
  rfl

/-! ### A database that refuses nothing -/

namespace Memory

/-- **A container has been provisioned**: it is as it was, or new, and no other has changed. -/
structure Provisioned (m : Memory) (containerId path : String) (m' : Memory) : Prop where
  refusals : m'.refusals = m.refusals
  made : m'.containers.get? containerId = some ((m.containers.get? containerId).getD
    { partitionPath := MemoryContainer.pathSegments path })
  others : ∀ id, id ≠ containerId → m'.containers.get? id = m.containers.get? id

theorem provision_accepts {m : Memory} (h : m.refusals ≤ 0) (containerId path : String) :
    (m.provision containerId path).1 = .ok containerId
      ∧ m.Provisioned containerId path (m.provision containerId path).2 := by
  have hrefusals : ¬ 0 < (m.log (.provision containerId path)).refusals := Int.not_lt.2 h
  have hcontains : (m.log (.provision containerId path)).containers.contains containerId
      = (m.containers.get? containerId).isSome := rfl
  rw [provision]
  dsimp only
  rw [if_neg hrefusals, hcontains]
  cases hget : m.containers.get? containerId with
  | some c =>
    rw [if_pos Option.isSome_some]
    refine ⟨rfl, rfl, ?_, fun id _ => rfl⟩
    rw [hget]
    exact hget
  | none =>
    rw [Option.isSome_none, if_neg Bool.false_ne_true]
    refine ⟨rfl, rfl, ?_, ?_⟩
    · rw [hget]
      exact Entries.get?_put_self ..
    · intro id hid
      exact Entries.get?_put_of_ne _ _ (Ne.symm hid)

end Memory

/-- **A database that refuses nothing** provisions the container that is asked for. -/
theorem Backend.InMemory.provision_accepts {σ : Type} {b : Backend σ String} {memory : σ → Memory}
    (hb : b.InMemory memory) {o : σ} (h : (memory o).refusals ≤ 0) (containerId path : String) :
    ∃ o', b.provision containerId path o = (.ok containerId, o')
      ∧ (memory o).Provisioned containerId path (memory o') := by
  obtain ⟨hanswer, hprovisioned⟩ := Memory.provision_accepts h containerId path
  refine ⟨(b.provision containerId path o).2, ?_, ?_⟩
  · exact Prod.ext ((hb.provision_fst containerId path o).trans hanswer) rfl
  · rw [hb.provision_snd]
    exact hprovisioned

/-! ### Requests to other containers -/

/-- The container that a request is about. -/
def Request.container {κ : Type} : Request κ → κ
  | .create container _ | .read container _ _ | .replace container _ _ | .delete container _ _
  | .page container _ => container

namespace Memory

/-- A request does not make the database refuse. -/
theorem perform_refusals (q : Request String) (m : Memory) :
    (m.perform q).2.refusals = m.refusals := by
  have hchange {α : Type} (id : String) (reply : α) (result : Except Failure MemoryContainer) :
      (m.change id reply result).2.refusals = m.refusals := by
    cases result <;> rfl
  cases q with
  | read id item partition => rfl
  | page id request =>
    rw [perform]
    split <;> rfl
  | create | replace | delete => exact hchange _ _ _

/-- One container, and whether the database refuses to provision, are as before. -/
structure Spares (id : String) (m m' : Memory) : Prop where
  container : m'.containers.get? id = m.containers.get? id
  refusals : m'.refusals = m.refusals

/-- **A request spares every container but its own.** -/
theorem perform_spares {id : String} {q : Request String} (hother : q.container ≠ id) (m : Memory) :
    m.Spares id (m.perform q).2 := by
  refine ⟨?_, perform_refusals q m⟩
  have hchange {α : Type} {other : String} (hne : other ≠ id) (reply : α)
      (result : Except Failure MemoryContainer) :
      (m.change other reply result).2.containers.get? id = m.containers.get? id := by
    cases result with
    | ok c => exact Entries.get?_put_of_ne _ _ hne
    | error e => rfl
  cases q with
  | read other item partition => rfl
  | page other request => rw [perform_page_containers]
  | create | replace | delete => exact hchange hother _ _

end Memory

/-- A session that routes as before, and in whose database one container is as before. -/
structure Session.Spares {σ : Type} (memory : σ → Memory) (id : String) (s s' : Session σ String) :
    Prop where
  router : s.router.Alike s'.router
  memory : (memory s.outside).Spares id (memory s'.outside)

instance {σ : Type} (memory : σ → Memory) (id : String) :
    IsPreorder (Session σ String) (Session.Spares memory id) where
  refl s := ⟨Std.Refl.refl s.router, rfl, rfl⟩
  trans _ _ _ h h' :=
    ⟨IsTrans.trans _ _ _ h.router h'.router, h'.memory.container.trans h.memory.container,
      h'.memory.refusals.trans h.memory.refusals⟩

/-- **Work in another container spares this one.** -/
theorem perform_sparesContainer {σ : Type} {b : Backend σ String} {memory : σ → Memory}
    (hb : b.InMemory memory) {id other : String} (hother : other ≠ id) (entity : String)
    (work : Work) : Run.Keeps (Session.Spares memory id) (work.perform b entity other) := by
  have hrequest (q : Request String) (hq : q.container = other) :
      Run.Keeps (Session.Spares memory id)
        (Session.consult (b.perform q) : Run (Session σ String) q.Reply) := by
    intro s
    have hspares : (memory s.outside).Spares id ((memory s.outside).perform q).2 :=
      Memory.perform_spares (hq.symm ▸ hother) _
    rw [← hb.perform q s.outside] at hspares
    exact ⟨Std.Refl.refl s.router, hspares⟩
  refine keeps_perform entity work ?_ (fun body _ => hrequest _ rfl)
    (fun id body _ => hrequest _ rfl) (fun id partition _ => hrequest _ rfl)
    (fun id partition => hrequest _ rfl) (fun request => hrequest _ rfl)
  intro s
  exact ⟨⟨rfl, rfl, s.router.registry.lookup_agrees entity⟩, rfl, rfl⟩

/-! ### Databases that are ready -/

namespace Memory

/-- **A database that is ready for the documents of a map**: it holds them, or there are none and
the container has not been made. -/
structure Ready (config : ContainerConfig) (m : DocumentMap) (database : Memory) : Prop where
  accepts : database.refusals ≤ 0
  missing : database.containers.get? config.containerId = none → ∀ k, m k = none
  present : ∀ {c : MemoryContainer}, database.containers.get? config.containerId = some c →
    c.partitionPath = MemoryContainer.pathSegments config.partitionPath ∧ m.Represents c.documents

namespace Ready

variable {config : ContainerConfig} {m : DocumentMap} {database database' : Memory}

theorem spared (h : Ready config m database)
    (hspares : database.Spares config.containerId database') : Ready config m database' where
  accepts := by
    rw [hspares.refusals]
    exact h.accepts
  missing hmissing := h.missing (hspares.container.symm.trans hmissing)
  present hpresent := h.present (hspares.container.symm.trans hpresent)

theorem holds (h : Ready config m database)
    (hmade : (database.containers.get? config.containerId).isSome = true) :
    database.Holds config m := by
  obtain ⟨c, hc⟩ := Option.isSome_iff_exists.1 hmade
  exact ⟨c, hc, h.present hc⟩

theorem of_holds (haccepts : database.refusals ≤ 0) (h : database.Holds config m) :
    Ready config m database := by
  obtain ⟨c, hc, hcontainer⟩ := h
  refine ⟨haccepts, ?_, ?_⟩
  · intro hmissing
    rw [hc] at hmissing
    cases hmissing
  · intro c' hpresent
    rw [hc] at hpresent
    cases hpresent
    exact hcontainer

/-- **Provisioning makes the container with no documents in it**, if it was not there. -/
theorem provisioned (h : Ready config m database) {containerId path : String}
    (hpath : containerId = config.containerId → path = config.partitionPath)
    (hprovisioned : database.Provisioned containerId path database') :
    Ready config m database' := by
  by_cases hid : containerId = config.containerId
  case neg =>
    have hcontainer := hprovisioned.others _ (Ne.symm hid)
    exact h.spared ⟨hcontainer, hprovisioned.refusals⟩
  have haccepts : database'.refusals ≤ 0 := hprovisioned.refusals.symm ▸ h.accepts
  have hmade := hprovisioned.made
  rw [hid, hpath hid] at hmade
  refine of_holds haccepts ⟨_, hmade, ?_⟩
  cases hold : database.containers.get? config.containerId with
  | some c => exact h.present hold
  | none =>
    have hempty : m = fun _ => none := funext (h.missing hold)
    rw [hempty, Option.getD_none]
    refine ⟨?_, .empty⟩
    dsimp only

/-- **The container holds exactly the documents**; where there are none it may not be there yet. -/
theorem represents (h : Ready config m database) :
    m.Represents (database.container config.containerId).documents := by
  rw [container]
  cases hcontainer : database.containers.get? config.containerId with
  | some c => exact (h.present hcontainer).2
  | none =>
    have hempty : m = fun _ => none := funext (h.missing hcontainer)
    rw [hempty, Option.getD_none]
    exact .empty

end Ready

end Memory

/-! ### Serving an entity -/

namespace Session

variable {σ : Type} {b : Backend σ String} {memory : σ → Memory} {entity : String}
  {config : ContainerConfig} {others : String → Prop} {m : DocumentMap} {s s' : Session σ String}

/-- **A session that serves the documents of an entity**, beside those of others. -/
structure Serves (memory : σ → Memory) (entity : String) (config : ContainerConfig)
    (others : String → Prop) (m : DocumentMap) (s : Session σ String) : Prop where
  known : (s.router.registry.lookup entity).1 = .ok config
  /-- None of the others has the same container. -/
  apart : ∀ {e : String} {c : ContainerConfig}, others e →
    (s.router.registry.lookup e).1 = .ok c → c.containerId ≠ config.containerId
  /-- A handle that is kept for the entity is that of its container, which is there. -/
  own : ∀ {handle : String}, s.router.handles.get? entity = some handle →
    handle = config.containerId
      ∧ ((memory s.outside).containers.get? config.containerId).isSome = true
  foreign : ∀ {e handle : String}, others e → s.router.handles.get? e = some handle →
    handle ≠ config.containerId
  free : s.router.AllFree
  ready : (memory s.outside).Ready config m

namespace Serves

/-- Only the container of the entity matters, as long as routing does not change. -/
theorem alike (h : s.Serves memory entity config others m)
    (halike : Session.Spares memory config.containerId s s') :
    s'.Serves memory entity config others m where
  known := (halike.router.registry entity).trans h.known
  apart he hlookup := h.apart he ((halike.router.registry _).symm.trans hlookup)
  own hhandle := by
    rw [halike.router.handles] at hhandle
    rw [halike.memory.container]
    exact h.own hhandle
  foreign he hhandle := by
    rw [halike.router.handles] at hhandle
    exact h.foreign he hhandle
  free e := by
    rw [Router.lockOf, halike.router.locks]
    exact h.free e
  ready := h.ready.spared halike.memory

/-- **Preparing a call keeps serving.** -/
theorem approached (h : s.Serves memory entity config others m) (hb : b.InMemory memory)
    (happroached : s.Approached b s') : s'.Serves memory entity config others m := by
  have hmemory := happroached.outside.memory_eq hb
  refine h.alike ⟨happroached.router, ?_, ?_⟩
  · rw [hmemory]
  · rw [hmemory]

/-- **After a request to the container of the entity** it serves the documents that the container
then holds. -/
theorem after (h : s.Serves memory entity config others m) (hb : b.InMemory memory)
    {q : Request String} {m' : DocumentMap}
    (hafter : ((memory s.outside).perform q).2.Holds config m') :
    ∃ s', consult (b.perform q) s = (((memory s.outside).perform q).1, s')
      ∧ s'.Serves memory entity config others m' := by
  have hperform := hb.perform q s.outside
  have hrefusals := Memory.perform_refusals q (memory s.outside)
  rw [← hperform] at hafter hrefusals
  refine ⟨{ s with outside := (b.perform q s.outside).2 }, ?_, ?_⟩
  · rw [← hperform]
    rfl
  constructor
  case known => exact h.known
  case apart => exact h.apart
  case own =>
    intro handle hhandle
    obtain ⟨c, hc, -⟩ := hafter
    exact ⟨(h.own hhandle).1, Option.isSome_iff_exists.2 ⟨c, hc⟩⟩
  case foreign => exact h.foreign
  case free => exact h.free
  case ready => exact .of_holds (hrefusals.symm ▸ h.ready.accepts) hafter

/-- **Provisioning keeps serving**, of whatever entity the container is. -/
theorem provisioned (h : s.Serves memory entity config others m) (hb : b.InMemory memory)
    {e : String} (he : e = entity ∨ others e) {c : ContainerConfig} {registry : Registry}
    (hhandle : s.router.handles.get? e = none)
    (hlookup : s.router.registry.lookup e = (.ok c, registry)) :
    ∃ s', resolve b e s = (.ok c.containerId, s') ∧ s'.Serves memory entity config others m
      ∧ ((memory s'.outside).containers.get? c.containerId).isSome = true := by
  obtain ⟨o, hprovision, hprovisioned⟩ :=
    hb.provision_accepts h.ready.accepts c.containerId c.partitionPath
  obtain ⟨locks, hresolve, hfree⟩ := resolve_free b hhandle hlookup h.free hprovision
  have hmade : ((memory o).containers.get? c.containerId).isSome = true :=
    Option.isSome_iff_exists.2 ⟨_, hprovisioned.made⟩
  have hagrees : s.router.registry.Agrees registry := by
    have hnext := s.router.registry.lookup_agrees e
    rw [hlookup] at hnext
    exact hnext
  -- Only the entity itself is ever provisioned with this container.
  have hname : c.containerId = config.containerId → e = entity ∧ c = config := by
    intro hid
    rcases he with rfl | he
    · have hknown := h.known
      rw [hlookup] at hknown
      exact ⟨rfl, Except.ok.inj hknown⟩
    · exact absurd hid (h.apart he (congrArg Prod.fst hlookup))
  refine ⟨_, hresolve, ?_, hmade⟩
  constructor
  case known => exact (hagrees entity).trans h.known
  case apart =>
    intro e' c' he' hlookup'
    exact h.apart he' ((hagrees e').symm.trans hlookup')
  -- The handle that is put is that of the entity, or of another one with another container.
  case own =>
    intro handle hkept
    by_cases he : e = entity
    · subst he
      have hknown := h.known
      rw [hlookup] at hknown
      cases hknown
      rw [Entries.get?_put_self] at hkept
      cases hkept
      exact ⟨rfl, hmade⟩
    · rw [Entries.get?_put_of_ne _ _ he] at hkept
      rw [hprovisioned.others _ fun hid => he (hname hid.symm).1]
      exact h.own hkept
  -- A handle that is put for another entity is of another container.
  case foreign =>
    intro e' handle he' hkept
    by_cases he : e = e'
    · subst he
      rw [Entries.get?_put_self] at hkept
      cases hkept
      exact h.apart he' (congrArg Prod.fst hlookup)
    · rw [Entries.get?_put_of_ne _ _ he] at hkept
      exact h.foreign he' hkept
  case free => exact hfree
  case ready =>
    exact h.ready.provisioned (fun hid => congrArg _ (hname hid).2) hprovisioned

/-- **The container of the entity is always to be had**, and holds the documents. -/
theorem resolve_own (h : s.Serves memory entity config others m) (hb : b.InMemory memory) :
    ∃ s', resolve b entity s = (.ok config.containerId, s')
      ∧ s'.Serves memory entity config others m ∧ (memory s'.outside).Holds config m := by
  cases hhandle : s.router.handles.get? entity with
  | some handle =>
    obtain ⟨rfl, hmade⟩ := h.own hhandle
    exact ⟨s, resolve_cached hhandle, h, h.ready.holds hmade⟩
  | none =>
    rcases hlookup : s.router.registry.lookup entity with ⟨r, registry⟩
    have hknown := h.known
    rw [hlookup] at hknown
    cases hknown
    obtain ⟨s', hresolve, hserves, hmade⟩ := h.provisioned hb (.inl rfl) hhandle hlookup
    exact ⟨s', hresolve, hserves, hserves.ready.holds hmade⟩

/-- Resolving the container of another entity keeps serving, and gives another container. -/
theorem resolve_other (h : s.Serves memory entity config others m) (hb : b.InMemory memory)
    {e : String} (he : others e) :
    (resolve b e s).2.Serves memory entity config others m
      ∧ ∀ handle, (resolve b e s).1 = .ok handle → handle ≠ config.containerId := by
  cases hhandle : s.router.handles.get? e with
  | some handle =>
    rw [resolve_cached hhandle]
    refine ⟨h, ?_⟩
    rintro handle ⟨⟩
    exact h.foreign he hhandle
  | none =>
    rcases hlookup : s.router.registry.lookup e with ⟨e' | c, registry⟩
    · rw [resolve_unknown hhandle hlookup]
      refine ⟨h, ?_⟩
      rintro handle ⟨⟩
    · obtain ⟨s', hresolve, hserves, -⟩ := h.provisioned hb (.inr he) hhandle hlookup
      rw [hresolve]
      refine ⟨hserves, ?_⟩
      rintro handle ⟨⟩
      exact h.apart he (congrArg Prod.fst hlookup)

/-- **A call of another entity keeps serving.** -/
theorem other (h : s.Serves memory entity config others m) (hb : b.InMemory memory) {call : Call}
    (hcall : ∀ e, call.entity? = some e → others e) :
    (call.run b s).2.Serves memory entity config others m := by
  have happroached := Call.prepare_approached (b := b) call s
  rw [Call.run, Run.bind_eq]
  rcases hprepare : call.prepare b s with ⟨e | a | ⟨e, work⟩, s₁⟩
  · rw [hprepare] at happroached
    exact h.approached hb happroached
  · rw [hprepare] at happroached
    exact h.approached hb happroached
  · rw [hprepare] at happroached
    have he : others e := hcall e (Call.prepare_entity hprepare)
    obtain ⟨hserves, hforeign⟩ := (h.approached hb happroached).resolve_other hb he
    show ((resolve b e >>= fun handle => work.perform b e handle) s₁).2.Serves
      memory entity config others m
    rw [Run.bind_eq]
    rcases hresolve : resolve b e s₁ with ⟨failure | handle, s₂⟩
    · rw [hresolve] at hserves
      exact hserves
    · rw [hresolve] at hserves hforeign
      exact hserves.alike (perform_sparesContainer hb (hforeign handle rfl) e work s₂)

end Serves

end Session

end EntityStore
