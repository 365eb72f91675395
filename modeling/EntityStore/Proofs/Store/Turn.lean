import EntityStore.Proofs.Store.Performed
import EntityStore.Proofs.Store.Provisioning

/-!
# What a turn of a task comes to

`Crew.advance` runs one stretch of one task, whatever its call is.  `Crew.Turn` lists what can come
of it, from a session and a stage to a session and a stage: the call fails or is answered while it
is being prepared, its entity is unknown, it waits for the lock of the entity, it calls to
provision, the call to provision is refused, or the work is done in the container.

`advance_turn` says that nothing else happens.  What holds of calls that run side by side is derived
from it.
-/

namespace EntityStore

namespace Router

variable {κ : Type} {r : Router κ} {entity : String}

/-! ### Asking for a container -/

theorem request_cached (task : Nat) {handle : κ} (h : r.handles.get? entity = some handle) :
    r.request task entity = (.settled (.ok handle), r) := by
  rw [request, h]

theorem request_unknown (task : Nat) {e : Failure} {registry : Registry}
    (h : r.handles.get? entity = none)
    (hlookup : r.registry.lookup entity = (.error e, registry)) :
    r.request task entity = (.settled (.error e), { r with registry := registry }) := by
  rw [request, h, hlookup]

/-- The container of a known entity has to be provisioned, unless another task is at it. -/
theorem request_known (task : Nat) {config : ContainerConfig} {registry : Registry}
    (h : r.handles.get? entity = none)
    (hlookup : r.registry.lookup entity = (.ok config, registry)) :
    ∃ locks, r.request task entity = (.calling config, ⟨registry, r.handles, locks⟩)
      ∨ r.request task entity = (.waiting config, ⟨registry, r.handles, locks⟩) := by
  rw [request, h, hlookup]
  dsimp only
  split_ifs
  · exact ⟨_, .inl rfl⟩
  · exact ⟨_, .inr rfl⟩

theorem release_registry (r : Router κ) (entity : String) :
    (r.release entity).2.registry = r.registry := by
  rw [release]
  split <;> rfl

theorem release_handles (r : Router κ) (entity : String) :
    (r.release entity).2.handles = r.handles := by
  rw [release]
  split <;> rfl

theorem settle_registry (r : Router κ) (entity : String) (answer : Except Failure κ) :
    (r.settle entity answer).2.registry = r.registry := by
  cases answer with
  | ok handle => exact release_registry _ entity
  | error e => exact release_registry r entity

end Router

namespace Session

variable {σ κ : Type} {b : Backend σ κ} {s : Session σ κ} {entity : String}

/-! ### Resolving one container by itself -/

theorem resolve_cached {handle : κ} (h : s.router.handles.get? entity = some handle) :
    resolve b entity s = (.ok handle, s) := by
  rw [resolve, Router.request_cached 0 h]

theorem resolve_unknown {e : Failure} {registry : Registry}
    (h : s.router.handles.get? entity = none)
    (hlookup : s.router.registry.lookup entity = (.error e, registry)) :
    resolve b entity s = (.error e, s) := by
  obtain ⟨-, rfl, -⟩ := Registry.lookup_error hlookup
  rw [resolve, Router.request_unknown 0 h hlookup]

/-- **The container of a known entity** is provisioned when no handle is kept, unless the lock is
held. -/
theorem resolve_known {config : ContainerConfig} {registry : Registry}
    (h : s.router.handles.get? entity = none)
    (hlookup : s.router.registry.lookup entity = (.ok config, registry)) :
    (resolve b entity s).2.router.registry = registry
      ∧ ((resolve b entity s).1 = .error .endless
        ∨ (resolve b entity s).1
          = (b.provision config.containerId config.partitionPath s.outside).1) := by
  rw [resolve]
  obtain ⟨locks, hrequest | hrequest⟩ := Router.request_known 0 h hlookup
  · rw [hrequest]
    exact ⟨Router.settle_registry .., .inr rfl⟩
  · rw [hrequest]
    exact ⟨rfl, .inl rfl⟩

end Session

namespace Crew

variable {σ κ : Type}

/-- What a task is to do in the container of an entity, and the session in which it asks for it. -/
inductive Reached (b : Backend σ κ) (s : Session σ κ) :
    Stage κ → String → Work → Session σ κ → Prop
  | starting {call : Call} {entity : String} {work : Work} {s₁ : Session σ κ}
    (hprepare : call.prepare b s = (.ok (.ready entity work), s₁)) :
    Reached b s (.starting call) entity work s₁
  | queued {entity : String} {config : ContainerConfig} {work : Work} :
    Reached b s (.queued entity config work) entity work s
  | provisioning {entity : String} {answer : Except Failure κ} {work : Work} :
    Reached b s (.provisioning entity answer work) entity work s

/-- **What a turn of a task comes to**: the stages of the task before and after it, and the sessions.
-/
inductive Turn (b : Backend σ κ) (s : Session σ κ) : Stage κ → Stage κ → Session σ κ → Prop
  /-- The call fails while it is being prepared. -/
  | failed {call : Call} {e : Failure} {s' : Session σ κ}
    (hprepare : call.prepare b s = (.error e, s')) :
    Turn b s (.starting call) (.finished (.error e)) s'
  /-- The call is answered while it is being prepared. -/
  | answered {call : Call} {a : Answer κ} {s' : Session σ κ}
    (hprepare : call.prepare b s = (.ok (.answered a), s')) :
    Turn b s (.starting call) (.finished (.ok a)) s'
  /-- The entity is unknown. -/
  | unknown {call : Call} {entity : String} {work : Work} {e : Failure} {s' : Session σ κ}
    (hprepare : call.prepare b s = (.ok (.ready entity work), s'))
    (hlookup : s'.router.registry.lookup entity = (.error e, s'.router.registry)) :
    Turn b s (.starting call) (.finished (.error e)) s'
  /-- The lock is taken. -/
  | waits {call : Call} {entity : String} {work : Work} {config : ContainerConfig}
    (s₁ : Session σ κ) (router : Router κ)
    (hprepare : call.prepare b s = (.ok (.ready entity work), s₁))
    (hlookup : s₁.router.registry.lookup entity = (.ok config, router.registry))
    (hhandles : router.handles = s₁.router.handles) :
    Turn b s (.starting call) (.queued entity config work) { s₁ with router := router }
  /-- No handle is kept, and the task calls to provision. -/
  | calls {stage : Stage κ} {entity : String} {work : Work} {config : ContainerConfig}
    (s₁ : Session σ κ) (router : Router κ) (hreached : Reached b s stage entity work s₁)
    (hconfig : s₁.router.registry.lookup entity = (.ok config, router.registry)
      ∨ stage = .queued entity config work ∧ router.registry = s₁.router.registry)
    (hhandles : router.handles = s₁.router.handles) :
    Turn b s stage
      (.provisioning entity
        (b.provision config.containerId config.partitionPath s₁.outside).1 work)
      { s₁ with
        router := router
        outside := (b.provision config.containerId config.partitionPath s₁.outside).2 }
  /-- The call to provision has been refused. -/
  | refused {entity : String} {work : Work} {e : Failure} (router : Router κ)
    (hregistry : router.registry = s.router.registry) (hhandles : router.handles = s.router.handles) :
    Turn b s (.provisioning entity (.error e) work) (.finished (.error e))
      { s with router := router }
  /-- The work is done in the container. -/
  | works {stage : Stage κ} {entity : String} {work : Work} {handle : κ} (s₁ : Session σ κ)
    (router : Router κ) (hreached : Reached b s stage entity work s₁)
    (hregistry : router.registry = s₁.router.registry)
    (hrouter : router = s₁.router
      ∨ (∃ config, stage = .queued entity config work) ∧ router.handles = s₁.router.handles
      ∨ stage = .provisioning entity (.ok handle) work
        ∧ router.handles = s₁.router.handles.put entity handle)
    (hhandle : router.handles.get? entity = some handle)
    {result : Except Failure (Answer κ)} {s' : Session σ κ}
    (hperform : work.perform b entity handle { s₁ with router := router } = (result, s')) :
    Turn b s stage (.finished result) s'

section

variable {b : Backend σ κ} {s s' s₁ : Session σ κ} {stage stage' : Stage κ}

theorem Reached.approached {entity : String} {work : Work}
    (h : Reached b s stage entity work s₁) : s.Approached b s₁ := by
  cases h with
  | @starting call _ _ _ hprepare => exact (Call.prepare_approached call).of_eq hprepare
  | queued => exact Std.Refl.refl s
  | provisioning => exact Std.Refl.refl s

/-- **A turn changes no answer of the registry.** -/
theorem Turn.agrees (h : Turn b s stage stage' s') :
    s.router.registry.Agrees s'.router.registry := by
  cases h with
  | @failed call _ _ hprepare | @answered call _ _ hprepare | @unknown call _ _ _ _ hprepare =>
    have happroached := (Call.prepare_approached call).of_eq hprepare
    exact happroached.router.registry
  | @waits _ entity _ _ s₁ router hprepare hlookup =>
    have hnext := s₁.router.registry.lookup_agrees entity
    rw [hlookup] at hnext
    exact (Reached.starting hprepare).approached.router.registry.trans hnext
  | @calls _ entity _ _ s₁ router hreached hconfig =>
    refine hreached.approached.router.registry.trans ?_
    -- The task has found the lock free, or has it handed over, when nothing is looked up.
    rcases hconfig with hlookup | ⟨-, hregistry⟩
    · have hnext := s₁.router.registry.lookup_agrees entity
      rw [hlookup] at hnext
      exact hnext
    · intro entity'
      rw [hregistry]
  | refused router hregistry =>
    intro entity
    rw [hregistry]
  | @works _ entity work handle s₁ router hreached hregistry _ _ _ _ hperform =>
    have hwork := (perform_alike b entity handle work).of_eq hperform
    have hnext := hwork.router.registry
    rw [hregistry] at hnext
    exact hreached.approached.router.registry.trans hnext

end

/-- **A turn of a task in which something happens.** -/
structure Turned (b : Backend σ κ) (task : Nat) (c c' : Crew σ κ) (stage stage' : Stage κ) :
    Prop where
  before : c.stages[task]? = some stage
  stages : c'.stages = c.stages.set task stage'
  turn : Turn b c.session stage stage' c'.session

namespace Turned

variable {b : Backend σ κ} {task : Nat} {c c' : Crew σ κ} {stage stage' : Stage κ}

theorem stage_self (h : Turned b task c c' stage stage') : c'.stages[task]? = some stage' := by
  have hlt : task < c.stages.length := (List.getElem?_eq_some_iff.1 h.before).1
  rw [h.stages, List.getElem?_set_self hlt]

/-- A stage after the turn is the new one of the task, or one that another task was at. -/
theorem stage_cases (h : Turned b task c c' stage stage') {i : Nat} {t : Stage κ}
    (ht : c'.stages[i]? = some t) :
    (i = task ∧ t = stage') ∨ (i ≠ task ∧ c.stages[i]? = some t) :=
  stage_cases_of_set h.before h.stages ht

end Turned

/-- The first stretch of a task whose call is prepared. -/
theorem request_turn (b : Backend σ κ) (task : Nat) {c : Crew σ κ} {call : Call} {entity : String}
    {work : Work} {s₁ : Session σ κ}
    (hprepare : call.prepare b c.session = (.ok (.ready entity work), s₁)) :
    ∃ stage', (({ c with session := s₁ } : Crew σ κ).request b task entity work).1.stages
        = c.stages.set task stage'
      ∧ Turn b c.session (.starting call) stage'
        (({ c with session := s₁ } : Crew σ κ).request b task entity work).1.session := by
  rw [request]
  dsimp only
  cases hhandle : s₁.router.handles.get? entity with
  -- A handle is kept.
  | some handle =>
    rw [Router.request_cached task hhandle]
    exact ⟨_, rfl, .works s₁ s₁.router (.starting hprepare) rfl (.inl rfl) hhandle rfl⟩
  | none =>
    rcases hlookup : s₁.router.registry.lookup entity with ⟨e | config, registry⟩
    · rw [Router.request_unknown task hhandle hlookup]
      obtain ⟨-, rfl, -⟩ := Registry.lookup_error hlookup
      exact ⟨_, rfl, .unknown hprepare hlookup⟩
    · -- The lock is free, or somebody holds it.
      obtain ⟨locks, hrequest | hrequest⟩ := Router.request_known task hhandle hlookup
      · rw [hrequest]
        exact ⟨_, rfl, .calls s₁ ⟨registry, s₁.router.handles, locks⟩ (.starting hprepare)
          (.inl hlookup) rfl⟩
      · rw [hrequest]
        exact ⟨_, rfl, .waits s₁ ⟨registry, s₁.router.handles, locks⟩ hprepare hlookup rfl⟩

/-- A turn of a task that has been given the lock. -/
theorem enter_turn (b : Backend σ κ) {c : Crew σ κ} {task : Nat} {entity : String}
    {config : ContainerConfig} {work : Work}
    (hstage : c.stages[task]? = some (.queued entity config work))
    (hholder : (c.session.router.lockOf entity).holder = some task) :
    ∃ stage', Turned b task c (c.advance b task).1 (.queued entity config work) stage' := by
  rw [advance, hstage]
  dsimp only
  rw [if_pos hholder, Router.enter]
  cases hhandle : c.session.router.handles.get? entity with
  | some handle =>
    have hhandles := c.session.router.release_handles entity
    refine ⟨_, hstage, rfl, ?_⟩
    exact .works c.session _ .queued (c.session.router.release_registry entity)
      (.inr (.inl ⟨⟨config, rfl⟩, hhandles⟩)) (hhandles ▸ hhandle) rfl
  | none => exact ⟨_, hstage, rfl, .calls c.session c.session.router .queued (.inr ⟨rfl, rfl⟩) rfl⟩

/-- A turn of a task whose call to provision has been answered. -/
theorem settle_turn (b : Backend σ κ) {c : Crew σ κ} {task : Nat} {entity : String}
    {answer : Except Failure κ} {work : Work}
    (hstage : c.stages[task]? = some (.provisioning entity answer work)) :
    ∃ stage', Turned b task c (c.advance b task).1 (.provisioning entity answer work) stage' := by
  rw [advance, hstage]
  dsimp only
  cases answer with
  | error e =>
    refine ⟨_, hstage, rfl, ?_⟩
    exact .refused _ (c.session.router.release_registry entity)
      (c.session.router.release_handles entity)
  | ok handle =>
    let kept : Router κ :=
      { c.session.router with handles := c.session.router.handles.put entity handle }
    have hhandles : (kept.release entity).2.handles = kept.handles := kept.release_handles entity
    refine ⟨_, hstage, rfl, ?_⟩
    refine .works c.session (kept.release entity).2 .provisioning (kept.release_registry entity)
      (.inr (.inr ⟨rfl, hhandles⟩)) ?_ rfl
    rw [hhandles]
    exact Entries.get?_put_self ..

/-- **Whatever a task is to do**, its turn comes to one of the cases, or nothing happens; a task that
has not started yet always gets on. -/
theorem advance_turn (b : Backend σ κ) (c : Crew σ κ) (task : Nat) :
    ((c.advance b task).1 = c ∧ ∀ call, c.stages[task]? ≠ some (.starting call))
      ∨ ∃ stage stage', Turned b task c (c.advance b task).1 stage stage' := by
  cases hstage : c.stages[task]? with
  -- There is no such task.
  | none =>
    left
    rw [advance, hstage]
    exact ⟨rfl, fun call h => by cases h⟩
  | some stage =>
    cases stage with
    | starting call =>
      right
      rcases hprepare : call.prepare b c.session with ⟨e | a | ⟨entity, work⟩, s₁⟩
      · rw [advance, hstage]
        dsimp only
        rw [hprepare]
        exact ⟨_, _, hstage, rfl, .failed hprepare⟩
      · rw [advance, hstage]
        dsimp only
        rw [hprepare]
        exact ⟨_, _, hstage, rfl, .answered hprepare⟩
      · obtain ⟨stage', hstages, hturn⟩ := request_turn b task hprepare
        refine ⟨_, stage', hstage, ?_, ?_⟩
        · rw [advance, hstage]
          dsimp only
          rw [hprepare]
          exact hstages
        · rw [advance, hstage]
          dsimp only
          rw [hprepare]
          exact hturn
    | queued entity config work =>
      by_cases hholder : (c.session.router.lockOf entity).holder = some task
      · -- The lock has been handed over to the task,
        exact .inr ⟨_, enter_turn b hstage hholder⟩
      · -- or another one still holds it, and nothing happens.
        left
        rw [advance, hstage]
        dsimp only
        rw [if_neg hholder]
        exact ⟨rfl, fun call h => by cases h⟩
    | provisioning entity answer work => exact .inr ⟨_, settle_turn b hstage⟩
    | finished result =>
      left
      rw [advance, hstage]
      exact ⟨rfl, fun call h => by cases h⟩

end Crew

end EntityStore
