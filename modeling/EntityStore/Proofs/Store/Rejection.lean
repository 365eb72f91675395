import EntityStore.Proofs.Store.InMemory
import EntityStore.Proofs.Store.Turn

/-!
# Rejected calls have no effect

A call is rejected when an argument is missing, a document is no object, a query or a filter is not
valid, a partition value is missing, or the entity is unknown (`Failure.isRejection`).  Whatever the
call and the state of the session, a rejected call has made no request and provisioned nothing, and
it leaves the registry, the handles and the locks exactly as they were; only the clock may have been
read and an id taken (`Session.Unaffected`).

For a call by itself this follows from what preparing it, resolving its container and doing its work
come to.  Beside other calls a call is rejected in its first turn: whoever is past that looks for the
container of a known entity (`Crew.Known`), and what is known stays known.
-/

namespace EntityStore

section

variable {σ κ : Type} {b : Backend σ κ}

/-! ### Preparing -/

/-- A call that looks its entity up and gets ready knows the entity. -/
theorem Call.prepare_known {call : Call} (hcall : call.LooksUp) {entity : String} {work : Work}
    {s s' : Session σ κ} (h : call.prepare b s = (.ok (.ready entity work), s')) :
    ∃ config, (s.router.registry.lookup entity).1 = .ok config := by
  cases call with
  | delete entity id partition =>
    obtain ⟨entity, -, h⟩ := Run.ok_of_lift_bind h
    obtain ⟨id, -, h⟩ := Run.ok_of_lift_bind h
    obtain ⟨config, s₁, hlookup, h⟩ := Run.ok_of_bind h
    obtain ⟨partition, -, h⟩ := Run.ok_of_lift_bind h
    cases h
    exact ⟨config, congrArg Prod.fst hlookup⟩
  | readMap entity partition ids =>
    obtain ⟨entity, -, h⟩ := Run.ok_of_lift_bind h
    obtain ⟨ids, -, h⟩ := Run.ok_of_lift_bind h
    split at h
    · cases h
    obtain ⟨config, s₁, hlookup, h⟩ := Run.ok_of_bind h
    cases h
    exact ⟨config, congrArg Prod.fst hlookup⟩
  | resolve | create | read | replace | query | count => exact hcall.elim

/-- **Getting ready for an unknown entity has no effect.** -/
theorem Call.prepare_unknown {call : Call} {entity : String} {work : Work} {s s' : Session σ κ}
    (h : call.prepare b s = (.ok (.ready entity work), s')) {e : Failure}
    (hlookup : (s'.router.registry.lookup entity).1 = .error e) : s.Unaffected b s' := by
  by_cases hcall : call.LooksUp
  · obtain ⟨config, hknown⟩ := prepare_known hcall h
    have happroached := (prepare_approached call).of_eq h
    rw [happroached.router.registry, hknown] at hlookup
    cases hlookup
  · exact (prepare_unaffected hcall).of_eq h

/-! ### One call by itself -/

/-- Resolving a container fails with a rejection only when the entity is unknown. -/
theorem Session.resolve_rejected (hb : b.NeverRejects) {entity : String} {s s' : Session σ κ}
    {e : Failure} (h : Session.resolve b entity s = (.error e, s')) (he : e.isRejection = true) :
    s' = s ∧ (s.router.registry.lookup entity).1 = .error e := by
  cases hhandle : s.router.handles.get? entity with
  | some handle =>
    rw [resolve_cached hhandle] at h
    cases h
  | none =>
    rcases hlookup : s.router.registry.lookup entity with ⟨e' | config, registry⟩
    · rw [resolve_unknown hhandle hlookup] at h
      cases h
      exact ⟨rfl, rfl⟩
    · obtain ⟨-, hendless | hanswer⟩ := resolve_known (b := b) hhandle hlookup
      · rw [h] at hendless
        cases hendless
        cases he
      · rw [h] at hanswer
        rw [hb.provision _ _ _ e hanswer.symm] at he
        contradiction

/-- A container that has been resolved is one whose handle had been kept, or that of a known entity.
-/
theorem Session.resolve_ok {entity : String} {handle : κ} {s s' : Session σ κ}
    (h : Session.resolve b entity s = (.ok handle, s')) :
    s' = s ∨ ∃ config, (s'.router.registry.lookup entity).1 = .ok config := by
  cases hhandle : s.router.handles.get? entity with
  | some handle =>
    rw [resolve_cached hhandle] at h
    cases h
    exact .inl rfl
  | none =>
    rcases hlookup : s.router.registry.lookup entity with ⟨e | config, registry⟩
    · rw [resolve_unknown hhandle hlookup] at h
      cases h
    · obtain ⟨hregistry, -⟩ := resolve_known (b := b) hhandle hlookup
      rw [h] at hregistry
      exact .inr ⟨config, hregistry ▸ Registry.lookup_again hlookup⟩

/-- **A rejected call has no effect**, in whatever state of the session it is made. -/
theorem Call.run_rejected (hb : b.NeverRejects) {call : Call} {s s' : Session σ κ} {e : Failure}
    (h : call.run b s = (.error e, s')) (he : e.isRejection = true) : s.Unaffected b s' := by
  rcases Run.of_bind h with ⟨e', hprepare, -⟩ | ⟨prepared, s₁, hprepare, h⟩
  · exact prepare_error hprepare
  cases prepared with
  | answered a => cases h
  | ready entity work =>
    rcases Run.of_bind h with ⟨e', hresolve, he'⟩ | ⟨handle, s₂, hresolve, h⟩
    · cases he'
      obtain ⟨rfl, hlookup⟩ := Session.resolve_rejected hb hresolve he
      exact prepare_unknown hprepare hlookup
    · obtain ⟨hlookup, hwork⟩ := perform_rejected hb h he
      rcases Session.resolve_ok hresolve with rfl | ⟨config, hknown⟩
      · exact IsTrans.trans _ _ _ (prepare_unknown hprepare hlookup) hwork
      · rw [hknown] at hlookup
        cases hlookup

end

/-! ### Calls side by side -/

/-- A task that is past its first turn looks for the container of a known entity, and if its call to
provision has been refused, that is no rejection. -/
def Stage.Known {κ : Type} (registry : Registry) : Stage κ → Prop
  | .starting _ | .finished _ => True
  | .queued entity _ _ => ∃ config, (registry.lookup entity).1 = .ok config
  | .provisioning entity answer _ =>
    (∃ config, (registry.lookup entity).1 = .ok config)
      ∧ ∀ e, answer = .error e → e.isRejection = false

theorem Stage.Known.agrees {κ : Type} {r r' : Registry} {stage : Stage κ} (h : stage.Known r)
    (hagrees : r.Agrees r') : stage.Known r' := by
  cases stage with
  | starting | finished => trivial
  | queued entity =>
    obtain ⟨config, hconfig⟩ := h
    exact ⟨config, (hagrees entity).trans hconfig⟩
  | provisioning entity =>
    obtain ⟨⟨config, hconfig⟩, hanswer⟩ := h
    exact ⟨⟨config, (hagrees entity).trans hconfig⟩, hanswer⟩

namespace Crew

variable {σ κ : Type} {b : Backend σ κ}

section

variable {s s' : Session σ κ} {stage stage' : Stage κ}

theorem Turn.known (hb : b.NeverRejects) (h : Turn b s stage stage' s')
    (hknown : stage.Known s.router.registry) : stage'.Known s'.router.registry := by
  cases h with
  | failed | answered | unknown | refused | works => trivial
  | @waits _ _ _ config _ _ _ hlookup => exact ⟨config, Registry.lookup_again hlookup⟩
  | @calls _ _ _ config s₁ router hreached hconfig =>
    refine ⟨?_, fun e he => hb.provision _ _ _ e he⟩
    rcases hconfig with hlookup | ⟨rfl, hregistry⟩
    · exact ⟨config, Registry.lookup_again hlookup⟩
    · cases hreached
      dsimp only
      rw [hregistry]
      exact hknown

/-- **A turn that ends in a rejection** is the first of its task, and has no effect. -/
theorem Turn.rejected (hb : b.NeverRejects) {e : Failure}
    (h : Turn b s stage (.finished (.error e)) s') (hknown : stage.Known s.router.registry)
    (he : e.isRejection = true) : (∃ call, stage = .starting call) ∧ s.Unaffected b s' := by
  cases h with
  | @failed call _ _ hprepare => exact ⟨⟨call, rfl⟩, Call.prepare_error hprepare⟩
  | @unknown call _ _ _ _ hprepare hlookup =>
    exact ⟨⟨call, rfl⟩, Call.prepare_unknown hprepare (congrArg Prod.fst hlookup)⟩
  | refused =>
    -- The database does not answer with rejections.
    rw [hknown.2 e rfl] at he
    contradiction
  | @works _ entity work handle s₁ router hreached hregistry hrouter _ _ _ hperform =>
    obtain ⟨hlookup, hwork⟩ := perform_rejected hb hperform he
    dsimp only at hlookup
    rw [hregistry] at hlookup
    cases hreached with
    -- Only a call that has just been prepared can be of an unknown entity.
    | @starting call _ _ _ hprepare =>
      refine ⟨⟨call, rfl⟩, ?_⟩
      rcases hrouter with rfl | ⟨⟨_, h⟩, -⟩ | ⟨h, -⟩
      · exact IsTrans.trans _ _ _ (Call.prepare_unknown hprepare hlookup) hwork
      · cases h
      · cases h
    | queued =>
      obtain ⟨config, hconfig⟩ := hknown
      rw [hconfig] at hlookup
      cases hlookup
    | provisioning =>
      obtain ⟨⟨config, hconfig⟩, -⟩ := hknown
      rw [hconfig] at hlookup
      cases hlookup

end

/-- **Every task is after the container of a known entity**, once it is past its first turn. -/
def Known (c : Crew σ κ) : Prop :=
  ∀ (i : Nat) (stage : Stage κ), c.stages[i]? = some stage →
    stage.Known c.session.router.registry

theorem known_starting (s : Session σ κ) (calls : List Call) :
    Known (⟨s, calls.map .starting⟩ : Crew σ κ) := by
  intro i stage hstage
  rw [List.getElem?_map, Option.map_eq_some_iff] at hstage
  obtain ⟨call, -, rfl⟩ := hstage
  trivial

theorem Known.advance (hb : b.NeverRejects) {c : Crew σ κ} (h : c.Known) (task : Nat) :
    (c.advance b task).1.Known := by
  rcases advance_turn b c task with ⟨hidle, -⟩ | ⟨stage, stage', ht⟩
  · rw [hidle]
    exact h
  · intro i stage₁ hstage
    rcases ht.stage_cases hstage with ⟨-, rfl⟩ | ⟨-, hold⟩
    · exact ht.turn.known hb (h _ _ ht.before)
    · exact (h i stage₁ hold).agrees ht.turn.agrees

/-- **A task that ends in a rejection** has been rejected in its first turn, and without effect. -/
theorem Known.run_rejected (hb : b.NeverRejects) {c : Crew σ κ} (h : c.Known)
    (schedule : List Nat) {task : Nat} {e : Failure} (he : e.isRejection = true)
    (hstart : c.stages[task]? ≠ some (.finished (.error e)))
    (hend : (c.run b schedule).stages[task]? = some (.finished (.error e))) :
    ∃ before after call, schedule = before ++ task :: after
      ∧ (c.run b before).stages[task]? = some (.starting call)
      ∧ ((c.run b before).advance b task).1.stages[task]? = some (.finished (.error e))
      ∧ (c.run b before).session.Unaffected b ((c.run b before).advance b task).1.session := by
  induction schedule generalizing c with
  | nil => exact absurd hend hstart
  | cons t schedule ih =>
    by_cases hnext : (c.advance b t).1.stages[task]? = some (.finished (.error e))
    · rcases advance_turn b c t with ⟨hidle, -⟩ | ⟨stage, stage', ht⟩
      · rw [hidle] at hnext
        exact absurd hnext hstart
      · rcases ht.stage_cases hnext with ⟨rfl, rfl⟩ | ⟨-, hold⟩
        · obtain ⟨⟨call, rfl⟩, heffect⟩ := ht.turn.rejected hb (h _ _ ht.before) he
          exact ⟨[], schedule, call, rfl, ht.before, hnext, heffect⟩
        · exact absurd hold hstart
    · obtain ⟨before, after, call, rfl, hcall, hfinished, heffect⟩ :=
        ih (h.advance hb t) hnext hend
      exact ⟨t :: before, after, call, rfl, hcall, hfinished, heffect⟩

end Crew

/-- **Rejected calls have no effect.**  The first part is about a call by itself, in any state of the
session; the second about any number of calls side by side, in any schedule: a task that has ended
in a rejection was rejected in its first turn, in which nothing has happened to the session. -/
theorem rejected_unaffected {σ κ : Type} (b : Backend σ κ) (hb : b.NeverRejects) :
    (∀ (call : Call) (s s' : Session σ κ) (e : Failure), call.run b s = (.error e, s') →
      e.isRejection = true → s.Unaffected b s')
    ∧ ∀ (s : Session σ κ) (calls : List Call) (schedule : List Nat) (task : Nat) (e : Failure),
      let start : Crew σ κ := ⟨s, calls.map .starting⟩
      (start.run b schedule).stages[task]? = some (.finished (.error e)) →
      e.isRejection = true →
      ∃ before after call, schedule = before ++ task :: after
        ∧ (start.run b before).stages[task]? = some (.starting call)
        ∧ ((start.run b before).advance b task).1.stages[task]? = some (.finished (.error e))
        ∧ (start.run b before).session.Unaffected b
            ((start.run b before).advance b task).1.session := by
  refine ⟨fun call s s' e h he => Call.run_rejected hb h he, ?_⟩
  intro s calls schedule task e start hend he
  refine (Crew.known_starting s calls).run_rejected hb schedule he ?_ hend
  intro hstart
  rw [List.getElem?_map, Option.map_eq_some_iff] at hstart
  obtain ⟨call, -, h⟩ := hstart
  cases h

/-- A document of an entity that is not partitioned on the id cannot be deleted by its id alone. -/
theorem rejected_unaffected_delete :
    let orders : ContainerConfig := ⟨"order", "orders", "tenantId"⟩
    let s : Session LocalState String :=
      ⟨{ registry := .ofList [orders] true }, 10,
        { clock := ⟨⟨2024, 1, 1⟩, 0, 0, 0, 0, none⟩, ids := ⟨[], 0⟩ }⟩
    let call : Call := .delete (some "order") (some "1") .null
    (call.run LocalState.backend s).1 = .error (.partitionRequired "order" "tenantId")
      ∧ s.Unaffected LocalState.backend (call.run LocalState.backend s).2 := by
  intro orders s call
  have hresult : (call.run LocalState.backend s).1
      = .error (.partitionRequired "order" "tenantId") := by
    rfl
  have hb : LocalState.backend.NeverRejects := LocalState.backend_inMemory.neverRejects
  exact ⟨hresult, (rejected_unaffected LocalState.backend hb).1 call s _ _
    (Prod.ext hresult rfl) rfl⟩

/-- **The documents and containers in memory are as before**, whenever nothing has happened to a
session. -/
theorem Session.Unaffected.memory_eq {σ : Type} {b : Backend σ String} {memory : σ → Memory}
    (hb : b.InMemory memory) {s s' : Session σ String} (h : s.Unaffected b s') :
    memory s'.outside = memory s.outside :=
  h.outside.memory_eq hb

end EntityStore
