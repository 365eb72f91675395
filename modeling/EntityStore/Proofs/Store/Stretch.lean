import EntityStore.Proofs.Store.Router
import EntityStore.Store.Schedule

/-!
# What a stretch of a resolution comes to

`Crew.advance` runs one stretch of one task.  For a task that resolves an entity there are five
outcomes (`Outcome`): it finds a handle that has been kept, it learns that the entity is unknown, it
waits for the lock, it calls to provision, or the answer to its call is settled.  Otherwise nothing
happens.

`advance_stretch` says so, once and for all; everything that holds of side by side resolutions is
derived from it.
-/

namespace EntityStore

/-! ### Calls to provision -/

/-- A call to provision: the task that makes it, the entity that it is for, and its answer. -/
structure Provision (κ : Type) where
  task : Nat
  entity : String
  answer : Except Failure κ

/-- Whether a call is answered with a handle. -/
def Provision.Succeeds {κ : Type} (call : Provision κ) : Prop := ∃ h, call.answer = .ok h

/-- The call to provision that is under way at a stage of a task. -/
def Stage.underWay {κ : Type} (task : Nat) : Stage κ → List (Provision κ)
  | .provisioning entity answer _ => [⟨task, entity, answer⟩]
  | _ => []

@[simp]
theorem Stage.underWay_queued {κ : Type} (task : Nat) (entity : String)
    (config : ContainerConfig) (work : Work) :
    (queued entity config work : Stage κ).underWay task = [] := rfl

@[simp]
theorem Stage.underWay_finished {κ : Type} (task : Nat) (result : Except Failure (Answer κ)) :
    (finished result).underWay task = [] := rfl

/-- **What has been asked of the database**: the given calls, in this order, and nothing else lead
from one state of the outside to another. -/
inductive Backend.Provisions {σ κ : Type} (b : Backend σ κ) : σ → List (Provision κ) → σ → Prop
  | nil (outside : σ) : Provisions b outside [] outside
  | cons {outside outside' : σ} {call : Provision κ} {calls : List (Provision κ)}
    (containerId path : String) (hanswer : call.answer = (b.provision containerId path outside).1)
    (hcalls : Provisions b (b.provision containerId path outside).2 calls outside') :
    Provisions b outside (call :: calls) outside'

theorem Backend.Provisions.append {σ κ : Type} {b : Backend σ κ} {o o' o'' : σ}
    {calls calls' : List (Provision κ)} (h : b.Provisions o calls o')
    (h' : b.Provisions o' calls' o'') : b.Provisions o (calls ++ calls') o'' := by
  induction h with
  | nil _ => exact h'
  | cons containerId path hanswer _ ih => exact .cons containerId path hanswer (ih h')

/-! ### Stages of a resolution -/

/-- A stage of a task that resolves an entity. -/
def Stage.Resolves {κ : Type} (entity : String) : Stage κ → Prop
  | .starting call => call = .resolve entity
  | .queued entity' _ work | .provisioning entity' _ work => entity' = entity ∧ work = .resolve
  | .finished _ => True

/-- A stage before any call to provision. -/
def Stage.Pending {κ : Type} : Stage κ → Prop
  | .starting _ | .queued .. => True
  | .provisioning .. | .finished _ => False

/-- What is kept when a call to provision has been answered. -/
def keptHandles {κ : Type} (handles : Entries String κ) (entity : String) :
    Except Failure κ → Entries String κ
  | .ok h => handles.put entity h
  | .error _ => handles

/-- **What a stretch of a task that resolves an entity comes to**: the routers and the stages of the
task before and after it. -/
inductive Outcome {κ : Type} (task : Nat) (entity : String) (r r' : Router κ) :
    Stage κ → Stage κ → Prop
  /-- A handle has been kept. -/
  | cached {s : Stage κ} {h : κ} (hs : s.Pending) (hhandle : r.handles.get? entity = some h)
    (hhandles : r'.handles = r.handles) :
    Outcome task entity r r' s (.finished (.ok (.container h)))
  /-- The entity is not registered, and is not going to be. -/
  | unknown {s : Stage κ} (hs : s.Pending) (hclosed : r.registry.autoRegister = false)
    (hentity : r.registry.contains entity = false) (hhandles : r'.handles = r.handles) :
    Outcome task entity r r' s (.finished (.error (.unknownEntity entity)))
  /-- The lock is taken. -/
  | waiting {s : Stage κ} {config : ContainerConfig} (hs : s.Pending)
    (hhandles : r'.handles = r.handles) :
    Outcome task entity r r' s (.queued entity config .resolve)
  /-- No handle has been kept, and no other task holds the lock. -/
  | calling {s : Stage κ} {answer : Except Failure κ} (hs : s.Pending)
    (hhandles : r'.handles = r.handles) (hnone : r.handles.get? entity = none)
    (halone : ∀ i, (r.lockOf entity).holder = some i → i = task)
    (hholder : (r'.lockOf entity).holder = some task) :
    Outcome task entity r r' s (.provisioning entity answer .resolve)
  /-- The call has been answered. -/
  | settled {answer : Except Failure κ}
    (hhandles : r'.handles = keptHandles r.handles entity answer) :
    Outcome task entity r r' (.provisioning entity answer .resolve)
      (.finished (answer.map .container))

namespace Crew

variable {σ κ : Type}

/-- Where one task has gone on, a stage is its new one, or one that another task was at. -/
theorem stage_cases_of_set {task : Nat} {stages stages' : List (Stage κ)} {s s' : Stage κ}
    (hbefore : stages[task]? = some s) (hstages : stages' = stages.set task s') {i : Nat}
    {t : Stage κ} (ht : stages'[i]? = some t) :
    (i = task ∧ t = s') ∨ (i ≠ task ∧ stages[i]? = some t) := by
  by_cases hi : i = task
  · have hlt : task < stages.length := (List.getElem?_eq_some_iff.1 hbefore).1
    rw [hi, hstages, List.getElem?_set_self hlt] at ht
    exact .inl ⟨hi, (Option.some.inj ht).symm⟩
  · rw [hstages, List.getElem?_set_ne (Ne.symm hi)] at ht
    exact .inr ⟨hi, ht⟩

/-- **A stretch of a task**, in which something happens. -/
structure Stretch (b : Backend σ κ) (task : Nat) (entity : String) (c c' : Crew σ κ)
    (s s' : Stage κ) : Prop where
  before : c.stages[task]? = some s
  stages : c'.stages = c.stages.set task s'
  outside : b.Provisions c.session.outside (s'.underWay task) c'.session.outside
  steps : Router.Steps task c.session.router c'.session.router
  outcome : Outcome task entity c.session.router c'.session.router s s'

namespace Stretch

variable {b : Backend σ κ} {task : Nat} {entity : String} {c c' : Crew σ κ} {s s' : Stage κ}

theorem stage_self (st : Stretch b task entity c c' s s') : c'.stages[task]? = some s' := by
  have hlt : task < c.stages.length := (List.getElem?_eq_some_iff.1 st.before).1
  rw [st.stages, List.getElem?_set_self hlt]

theorem stage_of_ne (st : Stretch b task entity c c' s s') {i : Nat} (hi : i ≠ task) :
    c'.stages[i]? = c.stages[i]? := by
  rw [st.stages, List.getElem?_set_ne (Ne.symm hi)]

/-- A stage after the stretch is the new one of the task, or one that another task was at. -/
theorem stage_cases (st : Stretch b task entity c c' s s') {i : Nat} {t : Stage κ}
    (ht : c'.stages[i]? = some t) : (i = task ∧ t = s') ∨ (i ≠ task ∧ c.stages[i]? = some t) :=
  stage_cases_of_set st.before st.stages ht

/-- A call that the stretch makes is the task's own, for its entity, and under the lock. -/
theorem of_mem_underWay (st : Stretch b task entity c c' s s') {call : Provision κ}
    (hcall : call ∈ s'.underWay task) :
    ∃ answer, s' = .provisioning entity answer .resolve ∧ call = ⟨task, entity, answer⟩
      ∧ (c'.session.router.lockOf entity).holder = some task := by
  cases st.outcome with
  | @calling _ answer _ _ _ _ hholder =>
    exact ⟨answer, rfl, List.mem_singleton.1 hcall, hholder⟩
  | cached | unknown | waiting | settled => cases hcall

/-- Nothing happens to a task that has finished. -/
theorem ne_of_finished (st : Stretch b task entity c c' s s') {i : Nat}
    {result : Except Failure (Answer κ)} (hi : c.stages[i]? = some (.finished result)) :
    i ≠ task := by
  rintro rfl
  obtain rfl : s = .finished result := Option.some.inj (st.before.symm.trans hi)
  cases st.outcome with
  | cached hs | unknown hs | waiting hs | calling hs => exact hs

end Stretch

/-- A task that resolves an entity ends with the handle of its container. -/
theorem finish_resolve (b : Backend σ κ) (task : Nat) (entity : String)
    (container : Except Failure κ) (c : Crew σ κ) :
    c.finish b task entity .resolve container
      = c.place task (.finished (container.map .container)) := by
  cases container <;> rfl

/-- The first stretch of a resolution. -/
theorem request_stretch (b : Backend σ κ) {c : Crew σ κ} {task : Nat} {entity : String}
    {s : Stage κ} (hs : c.stages[task]? = some s) (hpending : s.Pending) :
    ∃ s', Stretch b task entity c (c.request b task entity .resolve).1 s s' := by
  have hrequested := c.session.router.requested task entity
  rw [Crew.request]
  rcases hrequest : c.session.router.request task entity with ⟨progress, router⟩
  rw [hrequest] at hrequested
  cases hrequested with
  | cached hhandle =>
    dsimp only
    rw [finish_resolve]
    exact ⟨_, hs, rfl, .nil _, .refl _ _, .cached hpending hhandle rfl⟩
  | unknown hclosed hentity =>
    dsimp only
    rw [finish_resolve]
    exact ⟨_, hs, rfl, .nil _, .refl _ _, .unknown hpending hclosed hentity rfl⟩
  | waiting hsteps hhandles => exact ⟨_, hs, rfl, .nil _, hsteps, .waiting hpending hhandles⟩
  | calling hsteps hhandles hnone hfree hholder =>
    -- The lock was free, so nobody but this task holds it.
    have halone : ∀ i, (c.session.router.lockOf entity).holder = some i → i = task := by
      intro i hi
      rw [hfree] at hi
      contradiction
    exact ⟨_, hs, rfl, .cons _ _ rfl (.nil _), hsteps,
      .calling hpending hhandles hnone halone hholder⟩

/-- The stretch of a task that has been given the lock. -/
theorem enter_stretch (b : Backend σ κ) {c : Crew σ κ} {task : Nat} {entity : String}
    {config : ContainerConfig} (hs : c.stages[task]? = some (.queued entity config .resolve))
    (hholder : (c.session.router.lockOf entity).holder = some task) :
    ∃ s', Stretch b task entity c (c.advance b task).1 (.queued entity config .resolve) s' := by
  rw [advance, hs]
  dsimp only
  rw [if_pos hholder, Router.enter]
  cases hhandle : c.session.router.handles.get? entity with
  | some h =>
    obtain ⟨hsteps, hhandles⟩ := Router.release_steps hholder c.session.router.handles
    dsimp only
    rw [finish_resolve]
    exact ⟨_, hs, rfl, .nil _, hsteps, .cached trivial hhandle hhandles⟩
  | none =>
    have halone : ∀ i, (c.session.router.lockOf entity).holder = some i → i = task := by
      intro i hi
      rw [hholder] at hi
      exact (Option.some.inj hi).symm
    exact ⟨_, hs, rfl, .cons _ _ rfl (.nil _), .refl _ _,
      .calling trivial rfl hhandle halone hholder⟩

/-- The stretch of a task whose call to provision has been answered. -/
theorem settle_stretch (b : Backend σ κ) {c : Crew σ κ} {task : Nat} {entity : String}
    {answer : Except Failure κ} (hs : c.stages[task]? = some (.provisioning entity answer .resolve))
    (hholder : (c.session.router.lockOf entity).holder = some task) :
    ∃ s',
      Stretch b task entity c (c.advance b task).1 (.provisioning entity answer .resolve) s' := by
  obtain ⟨hsteps, hhandles⟩ := Router.release_steps hholder
    (keptHandles c.session.router.handles entity answer)
  rw [advance, hs]
  dsimp only
  rw [finish_resolve]
  cases answer with
  | ok h => exact ⟨_, hs, rfl, .nil _, hsteps, .settled hhandles⟩
  | error e => exact ⟨_, hs, rfl, .nil _, hsteps, .settled hhandles⟩

/-- **What a crew becomes by a stretch of a task that resolves an entity.**  A task whose call to
provision is under way has to hold the lock. -/
theorem advance_stretch (b : Backend σ κ) {c : Crew σ κ} {task : Nat} {entity : String}
    {s : Stage κ} (hs : c.stages[task]? = some s) (hentity : s.Resolves entity)
    (hholder : ∀ a w, s = .provisioning entity a w →
      (c.session.router.lockOf entity).holder = some task) :
    (c.advance b task).1 = c ∧ (∀ a w, s ≠ .provisioning entity a w)
      ∨ ∃ s', Stretch b task entity c (c.advance b task).1 s s' := by
  cases s with
  | starting call =>
    obtain rfl : call = .resolve entity := hentity
    obtain ⟨s', hstretch⟩ := request_stretch b hs trivial
    refine .inr ⟨s', ?_⟩
    rw [advance, hs]
    exact hstretch
  | queued entity' config work =>
    obtain ⟨rfl, rfl⟩ := hentity
    -- The task is next in line, or it goes on waiting.
    by_cases hown : (c.session.router.lockOf entity').holder = some task
    · exact .inr (enter_stretch b hs hown)
    · refine .inl ⟨?_, fun a w h => by cases h⟩
      rw [advance, hs]
      dsimp only
      rw [if_neg hown]
  | provisioning entity' answer work =>
    obtain ⟨rfl, rfl⟩ := hentity
    exact .inr (settle_stretch b hs (hholder answer .resolve rfl))
  | finished result =>
    refine .inl ⟨?_, fun a w h => by cases h⟩
    rw [advance, hs]

end Crew

end EntityStore
