import EntityStore.Proofs.Store.Draft
import EntityStore.Proofs.Store.InMemory
import EntityStore.Proofs.Store.Steps

/-!
# Handles that outlive closing

Closing a session forgets all handles, but it takes no lock and waits for no task.  A task that was
waiting for a lock, or had a call to provision under way, goes on afterwards, and keeps the handle
that it is given.

`kept_since` says where the handles of a session come from between two moments: one that was not
kept at the first was put there by a task that was on its way to the container at that time and has
come to an end by the second.  `handles_after_close` is what this comes to for closing: only such
tasks put handles into a session that is being closed.  If none of them is half-way when the closing
is over, then the session stays empty until a task that starts after it has succeeded.
-/

namespace EntityStore

/-! ### Tasks on their way to a container -/

namespace Stage

variable {κ : Type}

/-- A task that is going to ask for the container of an entity, or has asked for it. -/
def Pursues (entity : String) : Stage κ → Prop
  | .starting call => call.entity? = some entity
  | .queued entity' _ _ | .provisioning entity' _ _ => entity' = entity
  | .finished _ => False

/-- A task that has given way: it waits for a lock, or its call to provision is under way. -/
def Suspended : Stage κ → Prop
  | .queued .. | .provisioning .. => True
  | .starting _ | .finished _ => False

end Stage

namespace Crew

variable {σ κ : Type} {b : Backend σ κ}

/-- **A task has come to the container of an entity** between two moments: it was on its way at the
first and has ended by the second, with the handle as its result if it was to resolve the entity. -/
def Arrived (c c' : Crew σ κ) (entity : String) (handle : κ) (task : Nat) : Prop :=
  ∃ stage result, c.stages[task]? = some stage ∧ stage.Pursues entity
    ∧ c'.stages[task]? = some (.finished result)
    ∧ (stage.Resolves entity → result = .ok (.container handle))

section

variable {s s' : Session σ κ} {stage stage' : Stage κ} {entity : String}

theorem Reached.pursues {work : Work} {s₁ : Session σ κ} (h : Reached b s stage entity work s₁) :
    stage.Pursues entity ∧ (stage.Resolves entity → work = .resolve) := by
  cases h with
  | starting hprepare =>
    refine ⟨Call.prepare_entity hprepare, ?_⟩
    rintro rfl
    cases hprepare
    rfl
  | queued | provisioning => exact ⟨rfl, And.right⟩

/-- **A task that is on its way has been so before**, and for the same purpose. -/
theorem Turn.pursues (h : Turn b s stage stage' s') (hstage : stage'.Pursues entity) :
    stage.Pursues entity ∧ (stage.Resolves entity → stage'.Resolves entity) := by
  cases h with
  | failed | answered | unknown | refused | works => exact hstage.elim
  | waits s₁ router hprepare =>
    obtain rfl := hstage
    obtain ⟨hpursues, hwork⟩ := (Reached.starting hprepare).pursues
    exact ⟨hpursues, fun hresolves => ⟨rfl, hwork hresolves⟩⟩
  | calls s₁ router hreached =>
    obtain rfl := hstage
    obtain ⟨hpursues, hwork⟩ := hreached.pursues
    exact ⟨hpursues, fun hresolves => ⟨rfl, hwork hresolves⟩⟩

end

/-- **A task whose call to provision has been answered with a handle** keeps it when it goes on, and
has come to the container. -/
theorem advance_provisioning {c : Crew σ κ} {task : Nat} {entity : String} {handle : κ} {work : Work}
    (h : c.stages[task]? = some (.provisioning entity (.ok handle) work)) :
    (c.advance b task).1.session.router.handles = c.session.router.handles.put entity handle
      ∧ Arrived c (c.advance b task).1 entity handle task := by
  let kept : Router κ :=
    { c.session.router with handles := c.session.router.handles.put entity handle }
  let entered : Session σ κ := { c.session with router := (kept.release entity).2 }
  have halike := perform_alike b entity handle work entered
  have hlt : task < c.stages.length := (List.getElem?_eq_some_iff.1 h).1
  have hadvance : (c.advance b task).1
      = ({ c with session := (work.perform b entity handle entered).2 } : Crew σ κ).place task
        (.finished (work.perform b entity handle entered).1) := by
    rw [advance, h]
    rfl
  rw [hadvance]
  refine ⟨halike.router.handles.trans (kept.release_handles entity), ?_⟩
  refine ⟨_, _, h, rfl, List.getElem?_set_self hlt, ?_⟩
  rintro ⟨-, rfl⟩
  rfl

/-! ### Handles between two moments -/

theorem Arrived.since_before {c c' c'' : Crew σ κ} {entity : String} {handle : κ} {task : Nat}
    (h : Arrived c' c'' entity handle task)
    (hbefore : ∀ stage', c'.stages[task]? = some stage' → stage'.Pursues entity →
      ∃ stage, c.stages[task]? = some stage ∧ stage.Pursues entity
        ∧ (stage.Resolves entity → stage'.Resolves entity)) :
    Arrived c c'' entity handle task := by
  obtain ⟨stage', result, hstage', hpursues', hfinished, hresult⟩ := h
  obtain ⟨stage, hstage, hpursues, hresolves⟩ := hbefore stage' hstage' hpursues'
  exact ⟨stage, result, hstage, hpursues, hfinished, fun h => hresult (hresolves h)⟩

/-- Who is on the way after a step was so before it. -/
theorem step_pursues (c : Crew σ κ) (step : Step) {task : Nat} {entity : String} {stage' : Stage κ}
    (h : (c.step b step).stages[task]? = some stage') (hpursues : stage'.Pursues entity) :
    ∃ stage, c.stages[task]? = some stage ∧ stage.Pursues entity
      ∧ (stage.Resolves entity → stage'.Resolves entity) := by
  cases step with
  | advance other =>
    rcases advance_turn b c other with ⟨hidle, -⟩ | ⟨stage, next, ht⟩
    · rw [Crew.step, hidle] at h
      exact ⟨stage', h, hpursues, id⟩
    · rcases ht.stage_cases h with ⟨rfl, rfl⟩ | ⟨-, hold⟩
      · exact ⟨stage, ht.before, ht.turn.pursues hpursues⟩
      · exact ⟨stage', hold, hpursues, id⟩
  | register | lookUp | forget | shut => exact ⟨stage', h, hpursues, id⟩

/-- **A handle that is kept after a step** was kept before, or a task has just come to the
container. -/
theorem kept_step (c : Crew σ κ) (step : Step) {entity : String} {handle : κ}
    (h : (c.step b step).session.router.handles.get? entity = some handle) :
    c.session.router.handles.get? entity = some handle
      ∨ ∃ task, Arrived c (c.step b step) entity handle task := by
  cases step with
  | advance task =>
    rcases advance_turn b c task with ⟨hidle, -⟩ | ⟨stage, stage', ht⟩
    · rw [Crew.step, hidle] at h
      exact .inl h
    rcases ht.turn.handles with hsame | ⟨entity', handle', work, rfl, -⟩
    · rw [Crew.step, hsame] at h
      exact .inl h
    obtain ⟨hhandles, harrived⟩ := advance_provisioning (b := b) ht.before
    rw [Crew.step, hhandles] at h
    by_cases hentity : entity' = entity
    · subst hentity
      rw [Entries.get?_put_self] at h
      obtain rfl := Option.some.inj h
      exact .inr ⟨task, harrived⟩
    · rw [Entries.get?_put_of_ne _ _ hentity] at h
      exact .inl h
  | register | lookUp | shut => exact .inl h
  | forget => cases h

/-- **Where handles come from**: one that is kept after any steps was kept before them, or a task
that was on its way has come to the container. -/
theorem kept_since (steps : List Step) {c : Crew σ κ} {entity : String} {handle : κ}
    (h : (c.follow b steps).session.router.handles.get? entity = some handle) :
    c.session.router.handles.get? entity = some handle
      ∨ ∃ task, Arrived c (c.follow b steps) entity handle task := by
  induction steps generalizing c with
  | nil => exact .inl h
  | cons step steps ih =>
    rcases ih h with hkept | ⟨task, harrived⟩
    · rcases kept_step c step hkept with hbefore | ⟨task, stage, result, hstage, hpursues,
        hfinished, hresult⟩
      · exact .inl hbefore
      · exact .inr ⟨task, stage, result, hstage, hpursues, finished_follow steps hfinished, hresult⟩
    · exact .inr ⟨task, harrived.since_before fun _ => step_pursues c step⟩

/-! ### Closing -/

/-- **What closing leaves of the handles**, whatever calls run side by side and whatever happens
before, while the database is being closed, and after.  All handles are forgotten.  From then on
only a task that was on its way to the container of an entity puts a handle for the entity there.
Where none has been put there by the end of the closing, and no task is left half-way to it, a handle
that is kept later is that of a task which has not been started before the closing was over.  But a
task whose call to provision was under way keeps the handle of the database that is closed.

A task that resolves an entity has come to an end with the handle that is kept. -/
theorem handles_after_close (b : Backend σ κ) (s : Session σ κ) (calls : List Call)
    (before between after : List Step) :
    let closing := (⟨s, calls.map .starting⟩ : Crew σ κ).follow b before
    let closed := closing.follow b (.forget :: (between ++ [.shut]))
    let c := closed.follow b after
    (closing.step b .forget).session.router.handles = []
      ∧ (∀ entity handle, c.session.router.handles.get? entity = some handle →
        ∃ task, Arrived closing c entity handle task)
      ∧ (∀ entity handle, closed.session.router.handles.get? entity = none →
        (∀ (task : Nat) stage, closed.stages[task]? = some stage → stage.Suspended →
          ¬ stage.Pursues entity) →
        c.session.router.handles.get? entity = some handle →
          ∃ task call, closed.stages[task]? = some (.starting call)
            ∧ Arrived closed c entity handle task)
      ∧ ∀ (task : Nat) entity handle work,
        closed.stages[task]? = some (.provisioning entity (.ok handle) work) →
          (closed.step b (.advance task)).session.router.handles.get? entity = some handle := by
  intro closing closed c
  refine ⟨rfl, ?_, ?_, ?_⟩
  · -- What is kept has been put since the handles were forgotten.
    intro entity handle hkept
    have hfollow : c = (closing.step b .forget).follow b (between ++ [.shut] ++ after) :=
      (follow_append (.forget :: (between ++ [.shut])) after closing).symm
    rw [hfollow] at hkept ⊢
    rcases kept_since _ hkept with hforgotten | ⟨task, harrived⟩
    · cases hforgotten
    · exact ⟨task, harrived.since_before fun _ => step_pursues closing .forget⟩
  · intro entity handle hempty hnone hkept
    rcases kept_since after hkept with hforgotten | ⟨task, harrived⟩
    · cases hempty.symm.trans hforgotten
    obtain ⟨stage, result, hstage, hpursues, hfinished, hresult⟩ := harrived
    -- The task that put it was under way, and is then one of those excluded, or had not started.
    cases stage with
    | starting call =>
      exact ⟨task, call, hstage, _, result, hstage, hpursues, hfinished, hresult⟩
    | queued | provisioning => exact absurd hpursues (hnone task _ hstage trivial)
    | finished => exact hpursues.elim
  · -- A task that was provisioning keeps its handle in its next turn.
    intro task entity handle work hstage
    rw [Crew.step, (advance_provisioning hstage).1]
    exact Entries.get?_put_self ..

namespace Closing

/-- A session that has just been opened. -/
def opened : Session LocalState String :=
  ⟨{ registry := .ofList [⟨"order", "orders", "tenantId"⟩] false }, 50, .unused⟩

/-- Two tasks that resolve one entity. -/
def resolutions : List Call := [.resolve "order", .resolve "order"]

def start : Crew LocalState String := ⟨opened, resolutions.map .starting⟩

end Closing

open Closing in
/-- The first task ends before the closing and the second starts after it; or the first one's call to
provision is under way when the session is closed. -/
theorem handles_after_close_orders :
    let closing := start.follow LocalState.backend [.advance 0, .advance 0]
    let closed := closing.follow LocalState.backend [.forget, .shut]
    let c := closed.follow LocalState.backend [.advance 1, .advance 1]
    let cut := start.follow LocalState.backend [.advance 0, .forget, .shut]
    closing.session.router.handles = [("order", "orders")] ∧ closed.session.router.handles = []
      ∧ c.session.router.handles.get? "order" = some "orders"
      ∧ (∃ task call, closed.stages[task]? = some (.starting call)
        ∧ Arrived closed c "order" "orders" task)
      ∧ (cut.step LocalState.backend (.advance 0)).session.router.handles.get? "order"
        = some "orders" := by
  intro closing closed c cut
  have hkept : c.session.router.handles.get? "order" = some "orders" := by decide +kernel
  -- One task has finished and the other has not started, so that none is suspended.
  have hnone : ∀ (task : Nat) stage, closed.stages[task]? = some stage → stage.Suspended →
      ¬ stage.Pursues "order" := by
    intro task stage hstage hsuspended
    have hstages : closed.stages
        = [.finished (.ok (.container "orders")), .starting (.resolve "order")] := rfl
    rw [hstages] at hstage
    rcases task with _ | _ | task
    · cases hstage
      exact hsuspended.elim
    · cases hstage
      exact hsuspended.elim
    · cases hstage
  obtain ⟨-, -, hlater, -⟩ := handles_after_close LocalState.backend opened resolutions
    [.advance 0, .advance 0] [] [.advance 1, .advance 1]
  obtain ⟨-, -, -, hcut⟩ := handles_after_close LocalState.backend opened resolutions [.advance 0]
    [] []
  exact ⟨by decide +kernel, by decide +kernel, hkept, hlater _ _ rfl hnone hkept,
    hcut 0 "order" "orders" .resolve rfl⟩

open Closing in
/-- **A resolution outlives closing**: its call to provision is under way when the session is closed,
and it puts the handle of the closed database into the session that the closing has left empty,
though nothing has been started since. -/
theorem resolve_outlives_closing :
    let closed := start.follow LocalState.backend [.advance 0, .forget, .shut]
    let c := closed.follow LocalState.backend [.advance 0]
    closed.session.router.handles = []
      ∧ (∀ call, closed.stages[0]? ≠ some (.starting call))
      ∧ c.session.router.handles = [("order", "orders")]
      ∧ ¬ ∃ task call, closed.stages[task]? = some (.starting call)
        ∧ Arrived closed c "order" "orders" task := by
  intro closed c
  have hstages : c.stages
      = [.finished (.ok (.container "orders")), .starting (.resolve "order")] := rfl
  have hclosed : closed.stages
      = [.provisioning "order" (.ok "orders") .resolve, .starting (.resolve "order")] := rfl
  refine ⟨by decide +kernel, ?_, by decide +kernel, ?_⟩
  · rintro call ⟨⟩
  · rintro ⟨task, call, hstarting, -, result, -, -, hfinished, -⟩
    rw [hclosed] at hstarting
    rw [hstages] at hfinished
    rcases task with _ | _ | task
    · cases hstarting
    · cases hfinished
    · cases hstarting

end Crew

end EntityStore
