import EntityStore.Proofs.Store.Turn

/-!
# Steps of a session in use

While the tasks of a session run side by side, more can happen to it than that a task advances: a
configuration is registered, one is looked up, and the session is closed.  `Crew.Step` lists what can
happen next, and any list of steps is a possible run (`Crew.follow`).

Closing takes two steps, since it may give way while the database is being closed: all handles are
forgotten before, and the database is closed after.
-/

namespace EntityStore

namespace Crew

variable {σ κ : Type}

/-- What can happen next to a session whose tasks run side by side. -/
inductive Step where
  /-- A task advances by one stretch. -/
  | advance (task : Nat)
  | register (config : ContainerConfig)
  /-- The configuration of an entity is looked up. -/
  | lookUp (entity : String)
  /-- All handles are forgotten. -/
  | forget
  /-- The database is closed. -/
  | shut

/-- A crew after a step. -/
def step (b : Backend σ κ) (c : Crew σ κ) : Step → Crew σ κ
  | .advance task => (c.advance b task).1
  | .register config =>
    c.withRouter
      { c.session.router with registry := c.session.router.registry.register config }
  | .lookUp entity => { c with session := (Session.configOf entity c.session).2 }
  | .forget => c.withRouter c.session.router.clear
  | .shut => { c with session := { c.session with outside := b.close c.session.outside } }

/-- **A crew after any steps**, one after the other. -/
def follow (b : Backend σ κ) : List Step → Crew σ κ → Crew σ κ
  | [], c => c
  | step :: steps, c => follow b steps (c.step b step)

variable {b : Backend σ κ}

theorem follow_append (earlier later : List Step) (c : Crew σ κ) :
    c.follow b (earlier ++ later) = (c.follow b earlier).follow b later := by
  induction earlier generalizing c with
  | nil => rfl
  | cons step earlier ih => exact ih (c.step b step)

/-- The only task begins, and has been prepared. -/
theorem advance_prepared {call : Call} {s s₁ : Session σ κ} {r : Except Failure (Prepared κ)}
    (h : call.prepare b s = (r, s₁)) :
    (∀ e, r = .error e → ((⟨s, [.starting call]⟩ : Crew σ κ).advance b 0).1
        = ⟨s₁, [.finished (.error e)]⟩)
      ∧ (∀ a, r = .ok (.answered a) → ((⟨s, [.starting call]⟩ : Crew σ κ).advance b 0).1
        = ⟨s₁, [.finished (.ok a)]⟩)
      ∧ ∀ entity work, r = .ok (.ready entity work) →
        ((⟨s, [.starting call]⟩ : Crew σ κ).advance b 0).1
          = ((⟨s₁, [.starting call]⟩ : Crew σ κ).request b 0 entity work).1 := by
  refine ⟨fun e hr => ?_, fun a hr => ?_, fun entity work hr => ?_⟩
  all_goals
    subst hr
    rw [advance]
    dsimp only [List.getElem?_cons_zero]
    rw [h]
  · rfl
  · rfl

/-- **A call by itself** leaves what the run of one task leaves. -/
theorem exists_follow_run (b : Backend σ κ) (call : Call) (s : Session σ κ) :
    ∃ steps, (call.run b s).2
      = ((⟨s, [.starting call]⟩ : Crew σ κ).follow b steps).session := by
  rw [Call.run, Run.bind_eq]
  rcases hprepare : call.prepare b s with ⟨e | a | ⟨entity, work⟩, s₁⟩
  · have hfailed := (advance_prepared hprepare).1 e rfl
    exact ⟨[.advance 0], (congrArg session hfailed).symm⟩
  · have hanswered := (advance_prepared hprepare).2.1 a rfl
    exact ⟨[.advance 0], (congrArg session hanswered).symm⟩
  have hready := (advance_prepared hprepare).2.2 entity work rfl
  show ∃ steps, ((Session.resolve b entity >>= fun handle => work.perform b entity handle) s₁).2
    = _
  rw [Crew.request] at hready
  rw [Run.bind_eq]
  rcases hrequest : s₁.router.request 0 entity with ⟨(e | handle) | config | config, router⟩
  -- The handle has to be provisioned, which takes a second turn.
  case calling =>
    let asked := b.provision config.containerId config.partitionPath s₁.outside
    have hresolve : Session.resolve b entity s₁
        = (asked.1, ⟨(router.settle entity asked.1).2, s₁.pageSize, asked.2⟩) := by
      rw [Session.resolve, hrequest]
    have hcall : ((⟨s, [.starting call]⟩ : Crew σ κ).advance b 0).1
        = ⟨⟨router, s₁.pageSize, asked.2⟩, [.provisioning entity asked.1 work]⟩ := by
      dsimp only at hready
      rw [hrequest] at hready
      exact hready
    refine ⟨[.advance 0, .advance 0], ?_⟩
    rw [hresolve, follow, follow, follow, Crew.step, Crew.step, hcall]
    clear_value asked
    rcases asked with ⟨e | handle, o⟩ <;> rfl
  -- In all other cases one turn is enough.
  all_goals
    dsimp only at hready
    rw [hrequest] at hready
    rw [Session.resolve, hrequest]
    exact ⟨[.advance 0], (congrArg session hready).symm⟩

/-! ### Stages and handles -/

variable {s s' : Session σ κ} {stage stage' : Stage κ}

/-- A task that has finished does not go on. -/
theorem Turn.not_finished (h : Turn b s stage stage' s') (result : Except Failure (Answer κ)) :
    stage ≠ .finished result := by
  rintro rfl
  cases h with
  | calls _ _ hreached | works _ _ hreached => cases hreached

/-- **A turn keeps the handles**, unless it ends a call to provision: then the handle that the call
has been answered with is kept for the entity. -/
theorem Turn.handles (h : Turn b s stage stage' s') :
    s'.router.handles = s.router.handles
      ∨ ∃ entity handle work, stage = .provisioning entity (.ok handle) work
        ∧ s'.router.handles = s.router.handles.put entity handle := by
  have hprepared {call : Call} {r : Except Failure (Prepared κ)} {s₁ : Session σ κ}
      (hprepare : call.prepare b s = (r, s₁)) : s₁.router.handles = s.router.handles := by
    have happroached := (Call.prepare_approached call).of_eq hprepare
    exact happroached.router.handles
  cases h with
  | failed hprepare | answered hprepare | unknown hprepare => exact .inl (hprepared hprepare)
  | waits s₁ router hprepare _ hhandles => exact .inl (hhandles.trans (hprepared hprepare))
  | calls s₁ router hreached _ hhandles =>
    exact .inl (hhandles.trans hreached.approached.router.handles)
  | refused router _ hhandles => exact .inl hhandles
  | @works _ entity work handle s₁ router hreached _ hrouter _ result s' hperform =>
    have halike := (perform_alike b entity handle work).of_eq hperform
    have hkept : s'.router.handles = router.handles := halike.router.handles
    have hreach : s₁.router.handles = s.router.handles := hreached.approached.router.handles
    -- The router is as it was, or the lock has been handed over, or a new handle is put.
    rcases hrouter with rfl | ⟨-, hhandles⟩ | ⟨rfl, hhandles⟩
    · exact .inl (hkept.trans hreach)
    · exact .inl (hkept.trans (hhandles.trans hreach))
    · rw [hreach] at hhandles
      exact .inr ⟨entity, handle, work, rfl, hkept.trans hhandles⟩

/-- **What has finished stays finished.** -/
theorem finished_follow {task : Nat} {result : Except Failure (Answer κ)} (steps : List Step)
    {c : Crew σ κ} (h : c.stages[task]? = some (.finished result)) :
    (c.follow b steps).stages[task]? = some (.finished result) := by
  induction steps generalizing c with
  | nil => exact h
  | cons step steps ih =>
    refine ih ?_
    cases step with
    | advance other =>
      rcases advance_turn b c other with ⟨hidle, -⟩ | ⟨stage, stage', ht⟩
      · rw [Crew.step, hidle]
        exact h
      · have hne : other ≠ task := by
          rintro rfl
          exact ht.turn.not_finished result (Option.some.inj (ht.before.symm.trans h))
        rw [Crew.step, ht.stages, List.getElem?_set_ne hne]
        exact h
    | register | lookUp | forget | shut => exact h

end Crew

end EntityStore
