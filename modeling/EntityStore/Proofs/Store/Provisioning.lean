import EntityStore.Proofs.Store.Stretch
import EntityStore.Store.Memory

/-!
# Provisioning is single and agreed upon

Any number of resolutions run side by side; a run is a list of tasks, each of which advances by one
stretch when its turn comes, and the database may answer each call to provision as it likes.

`Agreed` is the invariant.  It ties the calls that have been made so far (`Crew.calls`) to the
stages of the tasks, the locks, and the handles that are kept: whoever calls holds the lock, and a
call that has been answered with a handle is under way or has its handle kept.  Its fields are shown
to survive a stretch one by one, which gives the step `Agreed.stretch` and, by induction on the
schedule, the whole run (`Agreed.run`).  `provisioning_agreed` starts it from a router that has
resolved nothing.
-/

namespace EntityStore

namespace Crew

variable {σ κ : Type}

/-! ### Runs -/

/-- The call to provision that is under way for a task. -/
def callOf (task : Nat) (c : Crew σ κ) : List (Provision κ) :=
  match c.stages[task]? with
  | some stage => stage.underWay task
  | none => []

theorem Stretch.callOf_eq {b : Backend σ κ} {task : Nat} {entity : String} {c c' : Crew σ κ}
    {s s' : Stage κ} (st : Stretch b task entity c c' s s') :
    c'.callOf task = s'.underWay task := by
  rw [callOf, st.stage_self]

/-- **A run**: the tasks of a schedule advance by one stretch each, one after the other. -/
def run (b : Backend σ κ) : List Nat → Crew σ κ → Crew σ κ
  | [], c => c
  | task :: schedule, c => run b schedule (c.advance b task).1

/-- **The calls to provision of a run**, the earliest first.  After a stretch of a task a call is
under way for it only when the stretch made the call. -/
def calls (b : Backend σ κ) : List Nat → Crew σ κ → List (Provision κ)
  | [], _ => []
  | task :: schedule, c =>
    (c.advance b task).1.callOf task ++ calls b schedule (c.advance b task).1

/-- A crew about to resolve the given entities, of which none has been resolved before. -/
def resolving (registry : Registry) (pageSize : Int) (outside : σ) (entities : List String) :
    Crew σ κ :=
  ⟨⟨{ registry := registry }, pageSize, outside⟩, entities.map fun e => .starting (.resolve e)⟩

/-- The usual order is one schedule of many. -/
theorem runQueue_run (b : Backend σ κ) (n : Nat) (queue : List Nat) (c : Crew σ κ) :
    ∃ schedule, runQueue b n queue c = run b schedule c := by
  induction n generalizing queue c with
  | zero => exact ⟨[], by rw [runQueue, run]; simp⟩
  | succ n ih =>
    cases queue with
    | nil => exact ⟨[], by rw [runQueue, run]; simp⟩
    | cons task queue =>
      obtain ⟨schedule, h⟩ := ih (queue ++ (c.advance b task).2) (c.advance b task).1
      exact ⟨task :: schedule, h⟩

/-- **Resolutions that run in the usual order** run by some schedule. -/
theorem together_resolving (b : Backend σ κ) (registry : Registry) (pageSize : Int) (outside : σ)
    (entities : List String) :
    ∃ schedule, together b (entities.map .resolve) ⟨{ registry := registry }, pageSize, outside⟩
      = (((resolving registry pageSize outside entities).run b schedule).stages.map resultOf,
        ((resolving registry pageSize outside entities).run b schedule).session) := by
  have hstart : (entities.map Call.resolve).map Stage.starting
      = (resolving registry pageSize outside entities : Crew σ κ).stages := List.map_map
  obtain ⟨schedule, hrun⟩ := runQueue_run b (3 * (entities.map Call.resolve).length)
    (List.range (entities.map Call.resolve).length) (resolving registry pageSize outside entities)
  refine ⟨schedule, ?_⟩
  rw [together, hstart, ← hrun]
  rfl

/-! ### The invariant -/

/-- **What holds after the given calls**, when the tasks resolve the given entities and nothing had
been resolved before. -/
structure Agreed (registry : Registry) (entities : List String) (calls : List (Provision κ))
    (c : Crew σ κ) : Prop where
  resolves : ∀ {i : Nat} {s : Stage κ}, c.stages[i]? = some s →
    ∃ entity, entities[i]? = some entity ∧ s.Resolves entity
  /-- Whoever calls to provision holds the lock. -/
  holder : ∀ {i : Nat} {entity : String} {a : Except Failure κ} {w : Work},
    c.stages[i]? = some (.provisioning entity a w) →
    (c.session.router.lockOf entity).holder = some i
  underWay : ∀ {i : Nat} {entity : String} {a : Except Failure κ} {w : Work},
    c.stages[i]? = some (.provisioning entity a w) → ⟨i, entity, a⟩ ∈ calls
  /-- A call is under way, or its task has ended with its answer. -/
  made : ∀ {call : Provision κ}, call ∈ calls → entities[call.task]? = some call.entity
    ∧ (c.stages[call.task]? = some (.provisioning call.entity call.answer .resolve)
      ∨ c.stages[call.task]? = some (.finished (call.answer.map .container)))
  /-- The handle that a call is answered with is kept once the call is over. -/
  kept : ∀ {call : Provision κ} {h : κ}, call ∈ calls → call.answer = .ok h →
    c.stages[call.task]? = some (.provisioning call.entity (.ok h) .resolve)
      ∨ c.session.router.handles.get? call.entity = some h
  /-- A handle that is kept is that of a call that is over. -/
  origin : ∀ {entity : String} {h : κ}, c.session.router.handles.get? entity = some h →
    ∃ task, ⟨task, entity, .ok h⟩ ∈ calls
      ∧ c.stages[task]? = some (.finished (.ok (.container h)))
  /-- No call for an entity follows one that succeeds. -/
  last : calls.Pairwise fun x y => x.Succeeds → y.entity ≠ x.entity
  once : (calls.map (·.task)).Nodup
  returned : ∀ {i : Nat} {entity : String} {a : Answer κ}, entities[i]? = some entity →
    c.stages[i]? = some (.finished (.ok a)) →
    ∃ h task, a = .container h ∧ ⟨task, entity, .ok h⟩ ∈ calls
  failed : ∀ {i : Nat} {entity : String} {e : Failure}, entities[i]? = some entity →
    c.stages[i]? = some (.finished (.error e)) → ⟨i, entity, .error e⟩ ∈ calls
      ∨ (e = .unknownEntity entity ∧ registry.autoRegister = false
        ∧ registry.contains entity = false)
  locked : ∀ {call : Provision κ}, call ∈ calls →
    c.session.router.locks.contains call.entity = true
  registered : ∀ {entity : String}, c.session.router.locks.contains entity = true →
    c.session.router.registry.contains entity = true
  registry : registry.Extends c.session.router.registry

/-- Nothing has been resolved at the start. -/
theorem resolving_agreed (registry : Registry) (pageSize : Int) (outside : σ)
    (entities : List String) :
    Agreed registry entities [] (resolving registry pageSize outside entities : Crew σ κ) := by
  -- Every task has just started; nearly all cases are about later stages, and so empty.
  have hstage : ∀ {i : Nat} {s : Stage κ},
      (resolving registry pageSize outside entities : Crew σ κ).stages[i]? = some s →
      ∃ entity, entities[i]? = some entity ∧ s = .starting (.resolve entity) := by
    intro i s hs
    rw [resolving, List.getElem?_map, Option.map_eq_some_iff] at hs
    obtain ⟨entity, hentity, rfl⟩ := hs
    exact ⟨entity, hentity, rfl⟩
  constructor
  case resolves =>
    intro i s hs
    obtain ⟨entity, hentity, rfl⟩ := hstage hs
    exact ⟨entity, hentity, rfl⟩
  case last => exact .nil
  case once => exact .nil
  case registry => exact .refl registry
  case returned | failed =>
    intro i entity _ _ hs
    obtain ⟨_, -, h⟩ := hstage hs
    cases h
  case holder | underWay =>
    intro i entity a w hs
    obtain ⟨_, -, h⟩ := hstage hs
    cases h
  case made | kept | locked =>
    intro call
    intros
    contradiction
  case origin | registered =>
    intro entity
    intros
    contradiction

namespace Agreed

variable {registry : Registry} {entities : List String} {calls : List (Provision κ)}
  {b : Backend σ κ} {c c' : Crew σ κ} {task : Nat} {entity : String} {s s' : Stage κ}

/-- **At most one call for an entity succeeds.** -/
theorem unique (h : Agreed registry entities calls c) {x y : Provision κ} (hx : x ∈ calls)
    (hy : y ∈ calls) (hxs : x.Succeeds) (hys : y.Succeeds) (hentity : x.entity = y.entity) :
    x = y := by
  obtain ⟨i, hi, rfl⟩ := List.mem_iff_getElem.1 hx
  obtain ⟨j, hj, rfl⟩ := List.mem_iff_getElem.1 hy
  have hlast := List.pairwise_iff_getElem.1 h.last
  rcases Nat.lt_trichotomy i j with hij | rfl | hij
  · exact absurd hentity.symm (hlast i j hi hj hij hxs)
  · rfl
  · exact absurd hentity (hlast j i hj hi hij hys)

/-- A task that has made no call yet is not among those that have. -/
theorem not_made (h : Agreed registry entities calls c) (hs : c.stages[task]? = some s)
    (hpending : s.Pending) {call : Provision κ} (hcall : call ∈ calls) : call.task ≠ task := by
  rintro rfl
  obtain ⟨-, hstage⟩ := h.made hcall
  rw [hs] at hstage
  rcases hstage with hstage | hstage
  · cases hstage
    exact hpending
  · cases hstage
    exact hpending

/-! ### A stretch in which something happens -/

section

variable (st : Stretch b task entity c c' s s') (h : Agreed registry entities calls c)

include st h

theorem resolves_stretch (hentity : entities[task]? = some entity) {i : Nat} {t : Stage κ}
    (ht : c'.stages[i]? = some t) :
    ∃ entity, entities[i]? = some entity ∧ t.Resolves entity := by
  rcases st.stage_cases ht with ⟨rfl, rfl⟩ | ⟨-, hold⟩
  · refine ⟨entity, hentity, ?_⟩
    cases st.outcome with
    | cached | unknown | settled => trivial
    | waiting | calling => exact ⟨rfl, rfl⟩
  · exact h.resolves hold

theorem holder_stretch {i : Nat} {e : String} {a : Except Failure κ} {w : Work}
    (ht : c'.stages[i]? = some (.provisioning e a w)) :
    (c'.session.router.lockOf e).holder = some i := by
  rcases st.stage_cases ht with ⟨rfl, rfl⟩ | ⟨hi, hold⟩
  · cases st.outcome with
    | calling _ _ _ _ hholder => exact hholder
  · -- No stretch takes a lock from another task.
    exact st.steps.holder (h.holder hold) hi

theorem underWay_stretch {i : Nat} {e : String} {a : Except Failure κ} {w : Work}
    (ht : c'.stages[i]? = some (.provisioning e a w)) :
    ⟨i, e, a⟩ ∈ calls ++ s'.underWay task := by
  rcases st.stage_cases ht with ⟨rfl, rfl⟩ | ⟨-, hold⟩
  · exact List.mem_append_right _ (List.mem_singleton_self _)
  · exact List.mem_append_left _ (h.underWay hold)

theorem made_stretch (hentity : entities[task]? = some entity) {call : Provision κ}
    (hcall : call ∈ calls ++ s'.underWay task) :
    entities[call.task]? = some call.entity
      ∧ (c'.stages[call.task]? = some (.provisioning call.entity call.answer .resolve)
        ∨ c'.stages[call.task]? = some (.finished (call.answer.map .container))) := by
  rcases List.mem_append.1 hcall with hold | hnew
  · -- A call from before: its task has either got its answer now, or not moved.
    obtain ⟨he, hstage⟩ := h.made hold
    refine ⟨he, ?_⟩
    by_cases hi : call.task = task
    · right
      rw [hi, st.before] at hstage
      rw [hi, st.stage_self]
      cases st.outcome with
      | cached hs | unknown hs | waiting hs | calling hs =>
        exact absurd hi (h.not_made st.before hs hold)
      | settled =>
        rcases hstage with hstage | hstage
        · cases hstage
          rfl
        · cases hstage
    · rw [st.stage_of_ne hi]
      exact hstage
  · -- The call that is made in this stretch is under way.
    obtain ⟨answer, rfl, rfl, -⟩ := st.of_mem_underWay hnew
    exact ⟨hentity, .inl st.stage_self⟩

/-- A handle that is kept stays: the only stretch that could replace it ends a call that is answered
with a handle, and there is only one such call. -/
theorem get?_handles_stretch {e : String} {k : κ}
    (hk : c.session.router.handles.get? e = some k) :
    c'.session.router.handles.get? e = some k := by
  cases st.outcome with
  | cached _ _ hhandles | unknown _ _ _ hhandles | waiting _ hhandles | calling _ hhandles =>
    rw [hhandles]
    exact hk
  | @settled answer hhandles =>
    rw [hhandles]
    cases answer with
    | error _ => exact hk
    | ok k' =>
      obtain ⟨i, hi, -⟩ := h.origin hk
      have hown := h.underWay st.before
      by_cases he : entity = e
      · subst he
        cases h.unique hown hi ⟨k', rfl⟩ ⟨k, rfl⟩ rfl
        exact Entries.get?_put_self ..
      · rw [keptHandles, Entries.get?_put_of_ne _ _ he]
        exact hk

theorem kept_stretch {call : Provision κ} {k : κ} (hcall : call ∈ calls ++ s'.underWay task)
    (hanswer : call.answer = .ok k) :
    c'.stages[call.task]? = some (.provisioning call.entity (.ok k) .resolve)
      ∨ c'.session.router.handles.get? call.entity = some k := by
  rcases List.mem_append.1 hcall with hold | hnew
  · rcases h.kept hold hanswer with hstage | hkept
    · by_cases hi : call.task = task
      · right
        rw [hi, st.before] at hstage
        cases st.outcome with
        | cached hs | unknown hs | waiting hs | calling hs =>
          exact absurd hi (h.not_made st.before hs hold)
        | settled hhandles =>
          cases hstage
          rw [hhandles]
          exact Entries.get?_put_self ..
      · left
        rw [st.stage_of_ne hi]
        exact hstage
    · exact .inr (get?_handles_stretch st h hkept)
  · obtain ⟨answer, rfl, rfl, -⟩ := st.of_mem_underWay hnew
    obtain rfl : answer = .ok k := hanswer
    exact .inl st.stage_self

theorem origin_stretch {e : String} {k : κ}
    (hk : c'.session.router.handles.get? e = some k) :
    ∃ i, ⟨i, e, .ok k⟩ ∈ calls ++ s'.underWay task
      ∧ c'.stages[i]? = some (.finished (.ok (.container k))) := by
  -- A handle from before comes from a call from before.
  have hold (hk : c.session.router.handles.get? e = some k) :
      ∃ i, ⟨i, e, .ok k⟩ ∈ calls ++ s'.underWay task
        ∧ c'.stages[i]? = some (.finished (.ok (.container k))) := by
    obtain ⟨i, hi, hstage⟩ := h.origin hk
    refine ⟨i, List.mem_append_left _ hi, ?_⟩
    rw [st.stage_of_ne (st.ne_of_finished hstage)]
    exact hstage
  cases st.outcome with
  | cached _ _ hhandles | unknown _ _ _ hhandles | waiting _ hhandles | calling _ hhandles =>
    exact hold (hhandles ▸ hk)
  | @settled answer hhandles =>
    rw [hhandles] at hk
    cases answer with
    | error _ => exact hold hk
    | ok k' =>
      -- The handle is the one that is kept now, or one from before.
      by_cases he : entity = e
      · subst he
        rw [keptHandles, Entries.get?_put_self] at hk
        obtain rfl := Option.some.inj hk
        exact ⟨task, List.mem_append_left _ (h.underWay st.before), st.stage_self⟩
      · rw [keptHandles, Entries.get?_put_of_ne _ _ he] at hk
        exact hold hk

/-- A call for an entity is made only when no call for it has succeeded. -/
theorem last_stretch :
    (calls ++ s'.underWay task).Pairwise fun x y => x.Succeeds → y.entity ≠ x.entity := by
  cases st.outcome with
  | cached | unknown | waiting | settled =>
    simp only [Stage.underWay_queued, Stage.underWay_finished, List.append_nil]
    exact h.last
  | calling hs _ hnone halone =>
    refine List.pairwise_append.2 ⟨h.last, List.pairwise_singleton .., ?_⟩
    rintro x hx y hy ⟨k, hk⟩ hxy
    obtain rfl := List.mem_singleton.1 hy
    change entity = x.entity at hxy
    -- A success that is under way holds the lock, and one that is over has its handle kept.
    rcases h.kept hx hk with hstage | hkept
    · have hholder := h.holder hstage
      rw [← hxy] at hholder
      exact h.not_made st.before hs hx (halone x.task hholder)
    · rw [← hxy, hnone] at hkept
      contradiction

theorem once_stretch : ((calls ++ s'.underWay task).map (·.task)).Nodup := by
  cases st.outcome with
  | cached | unknown | waiting | settled =>
    simp only [Stage.underWay_queued, Stage.underWay_finished, List.append_nil]
    exact h.once
  | calling hs =>
    rw [List.map_append, List.nodup_append]
    refine ⟨h.once, List.pairwise_singleton _ _, ?_⟩
    intro i hi j hj hij
    obtain ⟨call, hcall, rfl⟩ := List.mem_map.1 hi
    exact h.not_made st.before hs hcall (hij.trans (List.mem_singleton.1 hj))

theorem returned_stretch (hentity : entities[task]? = some entity) {i : Nat} {e : String}
    {a : Answer κ} (he : entities[i]? = some e) (ht : c'.stages[i]? = some (.finished (.ok a))) :
    ∃ k j, a = .container k ∧ ⟨j, e, .ok k⟩ ∈ calls ++ s'.underWay task := by
  rcases st.stage_cases ht with ⟨rfl, hs'⟩ | ⟨-, hold⟩
  · obtain rfl : entity = e := Option.some.inj (hentity.symm.trans he)
    rw [← hs', Stage.underWay_finished, List.append_nil]
    cases st.outcome with
    | cached _ hhandle =>
      cases hs'
      obtain ⟨j, hj, -⟩ := h.origin hhandle
      exact ⟨_, j, rfl, hj⟩
    | unknown | waiting | calling => cases hs'
    | @settled answer _ =>
      cases answer with
      | error _ => cases hs'
      | ok k =>
        cases hs'
        exact ⟨k, i, rfl, h.underWay st.before⟩
  · obtain ⟨k, j, ha, hj⟩ := h.returned he hold
    exact ⟨k, j, ha, List.mem_append_left _ hj⟩

theorem failed_stretch (hentity : entities[task]? = some entity) {i : Nat} {e : String}
    {failure : Failure} (he : entities[i]? = some e)
    (ht : c'.stages[i]? = some (.finished (.error failure))) :
    ⟨i, e, .error failure⟩ ∈ calls ++ s'.underWay task
      ∨ (failure = .unknownEntity e ∧ registry.autoRegister = false
        ∧ registry.contains e = false) := by
  rcases st.stage_cases ht with ⟨rfl, hs'⟩ | ⟨-, hold⟩
  · obtain rfl : entity = e := Option.some.inj (hentity.symm.trans he)
    rw [← hs', Stage.underWay_finished, List.append_nil]
    cases st.outcome with
    -- No call was made, for an entity that is not known.
    | unknown _ hclosed hunknown =>
      cases hs'
      rw [h.registry.autoRegister] at hclosed
      rw [h.registry.closed hclosed] at hunknown
      exact .inr ⟨rfl, hclosed, hunknown⟩
    | cached | waiting | calling => cases hs'
    -- The call has been answered by an error, which is passed on.
    | @settled answer _ =>
      cases answer with
      | ok _ => cases hs'
      | error _ =>
        cases hs'
        exact .inl (h.underWay st.before)
  · -- The task has failed before.
    rcases h.failed he hold with hmade | hunknown
    · exact .inl (List.mem_append_left _ hmade)
    · exact .inr hunknown

theorem locked_stretch {call : Provision κ} (hcall : call ∈ calls ++ s'.underWay task) :
    c'.session.router.locks.contains call.entity = true := by
  rcases List.mem_append.1 hcall with hold | hnew
  · exact st.steps.locks (h.locked hold)
  · obtain ⟨answer, -, rfl, hholder⟩ := st.of_mem_underWay hnew
    exact Router.contains_of_holder hholder

theorem registered_stretch {e : String} (he : c'.session.router.locks.contains e = true) :
    c'.session.router.registry.contains e = true := by
  rcases st.steps.locked he with hold | hnew
  · exact st.steps.registry.contains (h.registered hold)
  · exact hnew

/-- **The invariant survives a stretch.** -/
theorem stretch (hentity : entities[task]? = some entity) :
    Agreed registry entities (calls ++ c'.callOf task) c' := by
  rw [st.callOf_eq]
  constructor
  case resolves => exact resolves_stretch st h hentity
  case holder => exact holder_stretch st h
  case underWay => exact underWay_stretch st h
  case made => exact made_stretch st h hentity
  case kept => exact kept_stretch st h
  case origin => exact origin_stretch st h
  case last => exact last_stretch st h
  case once => exact once_stretch st h
  case returned => exact returned_stretch st h hentity
  case failed => exact failed_stretch st h hentity
  case locked => exact locked_stretch st h
  case registered => exact registered_stretch st h
  case registry => exact h.registry.trans st.steps.registry

end

/-! ### A whole run -/

/-- **One turn of a task**, whatever it is: nothing happens, or a stretch of the task. -/
theorem turn (h : Agreed registry entities calls c) (b : Backend σ κ) (task : Nat) :
    ((c.advance b task).1 = c ∧ c.callOf task = [])
      ∨ ∃ entity s s', entities[task]? = some entity
        ∧ Stretch b task entity c (c.advance b task).1 s s' := by
  cases hs : c.stages[task]? with
  | none =>
    left
    rw [advance, callOf, hs]
    exact ⟨rfl, rfl⟩
  | some s =>
    obtain ⟨entity, hentity, hresolves⟩ := h.resolves hs
    rcases advance_stretch b hs hresolves fun a w heq => h.holder (heq ▸ hs) with hidle | ⟨s', st⟩
    · left
      refine ⟨hidle.1, ?_⟩
      rw [callOf, hs]
      cases s with
      | provisioning e a w =>
        obtain ⟨rfl, -⟩ := hresolves
        exact absurd rfl (hidle.2 a w)
      | starting | queued | finished => rfl
    · exact .inr ⟨entity, s, s', hentity, st⟩

/-- The invariant survives a turn, and the database is asked for the calls that it makes. -/
theorem advance (h : Agreed registry entities calls c) (b : Backend σ κ) (task : Nat) :
    Agreed registry entities (calls ++ (c.advance b task).1.callOf task) (c.advance b task).1
      ∧ b.Provisions c.session.outside ((c.advance b task).1.callOf task)
          (c.advance b task).1.session.outside := by
  rcases h.turn b task with ⟨hidle, hnone⟩ | ⟨entity, s, s', hentity, st⟩
  · rw [hidle, hnone, List.append_nil]
    exact ⟨h, .nil _⟩
  · refine ⟨stretch st h hentity, ?_⟩
    rw [st.callOf_eq]
    exact st.outside

/-- **The invariant holds throughout a run.** -/
theorem run (h : Agreed registry entities calls c) (b : Backend σ κ) (schedule : List Nat) :
    Agreed registry entities (calls ++ c.calls b schedule) (c.run b schedule)
      ∧ b.Provisions c.session.outside (c.calls b schedule)
          (c.run b schedule).session.outside := by
  induction schedule generalizing calls c with
  | nil =>
    rw [Crew.calls, Crew.run, List.append_nil]
    exact ⟨h, .nil _⟩
  | cons task schedule ih =>
    obtain ⟨hnext, hasked⟩ := h.advance b task
    obtain ⟨hrun, hrest⟩ := ih hnext
    rw [Crew.calls, Crew.run, ← List.append_assoc]
    exact ⟨hrun, hasked.append hrest⟩

/-- Only a call that is answered with a handle changes the handles that are kept. -/
theorem handles_advance (h : Agreed registry entities calls c) (b : Backend σ κ) (task : Nat)
    (hstage : ∀ e k w, c.stages[task]? ≠ some (.provisioning e (.ok k) w)) :
    (c.advance b task).1.session.router.handles = c.session.router.handles := by
  rcases h.turn b task with ⟨hidle, -⟩ | ⟨entity, s, s', -, st⟩
  · rw [hidle]
  · cases st.outcome with
    | cached _ _ hhandles | unknown _ _ _ hhandles | waiting _ hhandles | calling _ hhandles =>
      exact hhandles
    | @settled answer hhandles =>
      cases answer with
      | ok k => exact absurd st.before (hstage entity k .resolve)
      | error _ => exact hhandles

end Agreed

/-! ### Agreement -/

/-- **What a run of resolutions guarantees at every moment**: the tasks resolve the given entities,
and the calls to provision made so far are given, the earliest first. -/
structure Agreement (registry : Registry) (entities : List String) (calls : List (Provision κ))
    (c : Crew σ κ) : Prop where
  /-- At most one call for an entity is under way. -/
  single : ∀ {i j : Nat} {entity : String} {a a' : Except Failure κ} {w w' : Work},
    c.stages[i]? = some (.provisioning entity a w) →
    c.stages[j]? = some (.provisioning entity a' w') → i = j
  /-- A call is made by a task that resolves its entity, and no task makes two. -/
  made : (∀ call ∈ calls, entities[call.task]? = some call.entity) ∧ (calls.map (·.task)).Nodup
  /-- At most one call for an entity succeeds. -/
  succeeds : ∀ x ∈ calls, ∀ y ∈ calls, x.Succeeds → y.Succeeds → x.entity = y.entity → x = y
  /-- No call for an entity follows one that succeeds. -/
  last : calls.Pairwise fun x y => x.Succeeds → y.entity ≠ x.entity
  /-- Every resolution that returns, returns the handle of the call that succeeded. -/
  returned : ∀ {i : Nat} {entity : String} {a : Answer κ}, entities[i]? = some entity →
    c.stages[i]? = some (.finished (.ok a)) →
    ∃ h task, a = .container h ∧ ⟨task, entity, .ok h⟩ ∈ calls
  /-- A call that fails is reported by the task that made it, once it is over. -/
  reported : ∀ call ∈ calls, ∀ e, call.answer = .error e →
    c.stages[call.task]? = some (.provisioning call.entity (.error e) .resolve)
      ∨ c.stages[call.task]? = some (.finished (.error e))
  /-- A resolution that fails reports the call that its task made, or an unknown entity. -/
  failed : ∀ {i : Nat} {entity : String} {e : Failure}, entities[i]? = some entity →
    c.stages[i]? = some (.finished (.error e)) → ⟨i, entity, .error e⟩ ∈ calls
      ∨ (e = .unknownEntity entity ∧ registry.autoRegister = false
        ∧ registry.contains entity = false)
  /-- The handles that are kept are those of the calls that have succeeded and are over. -/
  cached : ∀ {entity : String} {h : κ}, c.session.router.handles.get? entity = some h ↔
    ∃ task, ⟨task, entity, .ok h⟩ ∈ calls
      ∧ c.stages[task]? = some (.finished (.ok (.container h)))
  /-- For an unknown entity no call is made, and no lock is left. -/
  unknown : ∀ {entity : String}, registry.autoRegister = false →
    registry.contains entity = false → (∀ call ∈ calls, call.entity ≠ entity)
      ∧ c.session.router.locks.contains entity = false
  /-- An entity whose handle is kept has a lock. -/
  locked : ∀ {entity : String}, c.session.router.handles.contains entity = true →
    c.session.router.locks.contains entity = true
  /-- An entity that has a lock is registered. -/
  registered : ∀ {entity : String}, c.session.router.locks.contains entity = true →
    c.session.router.registry.contains entity = true

theorem Agreed.agreement {registry : Registry} {entities : List String}
    {calls : List (Provision κ)} {c : Crew σ κ} (h : Agreed registry entities calls c) :
    Agreement registry entities calls c := by
  constructor
  -- Only the holder of a lock calls to provision.
  case single =>
    intro i j entity a a' w w' hi hj
    exact Option.some.inj ((h.holder hi).symm.trans (h.holder hj))
  case made => exact ⟨fun call hcall => (h.made hcall).1, h.once⟩
  case succeeds => exact fun x hx y hy => h.unique hx hy
  case last => exact h.last
  case returned => exact h.returned
  case reported =>
    intro call hcall e he
    obtain ⟨-, hstage⟩ := h.made hcall
    rw [he] at hstage
    exact hstage
  case failed => exact h.failed
  -- A handle is kept when a call that got it has returned, and only then.
  case cached =>
    intro entity k
    constructor
    · exact h.origin
    · rintro ⟨task, hcall, hstage⟩
      rcases h.kept hcall rfl with hunder | hkept
      · cases hstage.symm.trans hunder
      · exact hkept
  case unknown =>
    intro entity hclosed hunknown
    -- A lock would be that of an entity that was registered from the start.
    have hlock : c.session.router.locks.contains entity = false := by
      rw [← Bool.not_eq_true]
      intro hlocked
      have hregistered := h.registered hlocked
      rw [h.registry.closed hclosed, hunknown] at hregistered
      contradiction
    refine ⟨?_, hlock⟩
    rintro call hcall rfl
    rw [h.locked hcall] at hlock
    contradiction
  -- Whoever got the handle that is kept has held the lock.
  case locked =>
    intro entity hkept
    obtain ⟨k, hk⟩ := Option.isSome_iff_exists.1 hkept
    obtain ⟨task, hcall, -⟩ := h.origin hk
    exact h.locked hcall
  case registered => exact h.registered

/-- **Provisioning is single and agreed upon**: after any schedule, whatever the database answers.
The calls are all that the database has been asked for, and a turn of a task changes the handles
that are kept only when a call of the task has been answered with a handle. -/
theorem provisioning_agreed (b : Backend σ κ) (registry : Registry) (pageSize : Int) (outside : σ)
    (entities : List String) (schedule : List Nat) :
    let start := resolving registry pageSize outside entities
    let calls := start.calls b schedule
    let c := start.run b schedule
    Agreement registry entities calls c
      ∧ b.Provisions outside calls c.session.outside
      ∧ ∀ task, (∀ e h w, c.stages[task]? ≠ some (.provisioning e (.ok h) w)) →
        (c.advance b task).1.session.router.handles = c.session.router.handles := by
  obtain ⟨hrun, hasked⟩ :=
    (resolving_agreed registry pageSize outside entities).run b schedule
  exact ⟨hrun.agreement, hasked, hrun.handles_advance b⟩

/-- Of three tasks the first makes a call that is refused, the second one that succeeds, and the
third makes none. -/
example :
    let start : Crew LocalState String :=
      resolving { autoRegister := true } 10
        ⟨{ refusals := 1 }, ⟨⟨2024, 1, 1⟩, 0, 0, 0, 0, none⟩, ⟨[], 0⟩⟩ ["order", "order", "order"]
    (start.calls LocalState.backend [0, 1, 2, 0, 1, 1, 2]).map
        (fun call => (call.task, call.answer.toOption))
      = [(0, none), (1, some "order")] := by
  decide +kernel

end Crew

end EntityStore
