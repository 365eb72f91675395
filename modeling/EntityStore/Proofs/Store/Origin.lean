import EntityStore.Proofs.Store.InMemory
import EntityStore.Proofs.Store.Steps

/-!
# Where handles come from

A handle is kept for as long as its session is open, and configurations may be registered at any
time.  `handles_origin` says what ties the two together: every handle that is kept is the answer to
a call to provision made with a configuration that the entity had at some moment of the run, and
unless another container or partition field has been registered for the entity since, it is what the
entity has now.

A task looks the configuration up when it starts, and may have to wait for a lock and then for the
database before the handle is kept.  So the invariant (`Sourced`) covers the tasks that are waiting:
each holds a configuration of its entity, or the answer to a call made with one.  The calls are
written down by the backend (`Backend.recorded`).
-/

namespace EntityStore

/-! ### Configurations of one container -/

/-- **Two configurations of one container**, with one partition field. -/
structure ContainerConfig.SameContainer (c c' : ContainerConfig) : Prop where
  containerId : c'.containerId = c.containerId
  partitionField : c'.partitionField = c.partitionField

namespace ContainerConfig.SameContainer

variable {c c' c'' : ContainerConfig}

theorem symm (h : c.SameContainer c') : c'.SameContainer c :=
  ⟨h.containerId.symm, h.partitionField.symm⟩

theorem trans (h : c.SameContainer c') (h' : c'.SameContainer c'') : c.SameContainer c'' :=
  ⟨h'.containerId.trans h.containerId, h'.partitionField.trans h.partitionField⟩

theorem partitionPath (h : c.SameContainer c') : c'.partitionPath = c.partitionPath := by
  rw [ContainerConfig.partitionPath, ContainerConfig.partitionPath, h.partitionField]

end ContainerConfig.SameContainer

/-! ### Recording calls to provision -/

/-- A call to provision that has been made: the container and its partition path, and the answer. -/
structure ProvisionCall (κ : Type) where
  containerId : String
  path : String
  answer : Except Failure κ

/-- **A backend that writes down the calls to provision** that are made of it. -/
def Backend.recorded {σ κ : Type} (b : Backend σ κ) : Backend (σ × List (ProvisionCall κ)) κ where
  now o := ((b.now o.1).1, (b.now o.1).2, o.2)
  newId o := ((b.newId o.1).1, (b.newId o.1).2, o.2)
  provision containerId path o :=
    let (answer, outside) := b.provision containerId path o.1
    (answer, outside, o.2 ++ [⟨containerId, path, answer⟩])
  perform q o := ((b.perform q o.1).1, (b.perform q o.1).2, o.2)
  close o := (b.close o.1, o.2)
  patience o := b.patience o.1

/-- **An answer to a call to provision** that was made with a known configuration of the entity. -/
def Answered {κ : Type} (known : String → ContainerConfig → Prop) (record : List (ProvisionCall κ))
    (entity : String) (answer : Except Failure κ) : Prop :=
  ∃ config, known entity config
    ∧ ⟨config.containerId, config.partitionPath, answer⟩ ∈ record

theorem Answered.mono {κ : Type} {known : String → ContainerConfig → Prop}
    {record record' : List (ProvisionCall κ)} {entity : String} {answer : Except Failure κ}
    (h : Answered known record entity answer) (hrecord : record ⊆ record') :
    Answered known record' entity answer := by
  obtain ⟨config, hknown, hmade⟩ := h
  exact ⟨config, hknown, hrecord hmade⟩

/-- **A task that waits with a known configuration**, or for an answer to a call made with one. -/
def Stage.Sourced {κ : Type} (known : String → ContainerConfig → Prop)
    (record : List (ProvisionCall κ)) : Stage κ → Prop
  | .queued entity config _ => known entity config
  | .provisioning entity answer _ => Answered known record entity answer
  | .starting _ | .finished _ => True

theorem Stage.Sourced.mono {κ : Type} {known : String → ContainerConfig → Prop}
    {record record' : List (ProvisionCall κ)} {stage : Stage κ} (h : stage.Sourced known record)
    (hrecord : record ⊆ record') : stage.Sourced known record' := by
  cases stage with
  | provisioning => exact Answered.mono h hrecord
  | starting | queued | finished => exact h

namespace Crew

variable {σ κ : Type} {b : Backend σ κ} {known : String → ContainerConfig → Prop}

section

variable {s s' s₁ : Session (σ × List (ProvisionCall κ)) κ} {stage stage' : Stage κ}

/-- Only calls to provision are written down. -/
theorem perform_record (entity : String) (handle : κ) (work : Work) :
    Run.Keeps (fun s s' : Session (σ × List (ProvisionCall κ)) κ => s'.outside.2 = s.outside.2)
      (work.perform b.recorded entity handle) := by
  have : IsPreorder (Session (σ × List (ProvisionCall κ)) κ) fun s s' =>
      s'.outside.2 = s.outside.2 :=
    { refl := fun _ => rfl, trans := fun _ _ _ h h' => Eq.trans h' h }
  exact keeps_perform entity work (fun _ => rfl) (fun _ _ _ => rfl) (fun _ _ _ _ => rfl)
    (fun _ _ _ _ => rfl) (fun _ _ _ => rfl) fun _ _ => rfl

theorem record_of_approached (h : s.Approached b.recorded s') : s'.outside.2 = s.outside.2 := by
  have hnow : ∀ o, Prod.snd (b.recorded.now o).2 = Prod.snd o := fun _ => rfl
  exact h.outside.view_eq hnow fun _ => rfl

/-- **A turn keeps that tasks wait with known configurations**, and nothing is struck from the
record. -/
theorem Turn.sourced (h : Turn b.recorded s stage stage' s')
    (hknown : ∀ entity config, (s.router.registry.lookup entity).1 = .ok config →
      known entity config)
    (hstage : stage.Sourced known s.outside.2) :
    s.outside.2 ⊆ s'.outside.2 ∧ stage'.Sourced known s'.outside.2 := by
  -- Preparing a call provisions nothing.
  have hprepared {call : Call} {r : Except Failure (Prepared κ)}
      {s₁ : Session (σ × List (ProvisionCall κ)) κ} (hprepare : call.prepare b.recorded s = (r, s₁)) :
      s.outside.2 ⊆ s₁.outside.2 := by
    have happroached := (Call.prepare_approached call).of_eq hprepare
    rw [record_of_approached happroached]
    exact List.Subset.refl _
  -- A configuration that is looked up in between is one that was known in the session.
  have hfound {entity : String} {work : Work} {config : ContainerConfig} {registry : Registry}
      {s₁ : Session (σ × List (ProvisionCall κ)) κ} (hreached : Reached b.recorded s stage entity work s₁)
      (hlookup : s₁.router.registry.lookup entity = (.ok config, registry)) :
      known entity config := by
    refine hknown entity config ?_
    rw [← hreached.approached.router.registry entity, hlookup]
  cases h with
  | failed hprepare | answered hprepare | unknown hprepare =>
    exact ⟨hprepared hprepare, trivial⟩
  | waits s₁ router hprepare hlookup =>
    have hrecord : s.outside.2 ⊆ s₁.outside.2 := hprepared hprepare
    exact ⟨hrecord, hfound (.starting hprepare) hlookup⟩
  | @calls _ entity work config s₁ router hreached hconfig =>
    have hrecord := record_of_approached hreached.approached
    have hconfigured : known entity config := by
      rcases hconfig with hlookup | ⟨rfl, -⟩
      · exact hfound hreached hlookup
      · exact hstage
    refine ⟨?_, config, hconfigured, ?_⟩
    · -- The call to provision is written behind the others, with its answer.
      rw [← hrecord]
      exact List.subset_append_left ..
    · exact List.mem_append_right _ List.mem_cons_self
  | refused => exact ⟨List.Subset.refl _, trivial⟩
  | @works _ entity work handle s₁ router hreached _ _ _ result s' hperform =>
    have hrecord := (perform_record (b := b) entity handle work).of_eq hperform
    refine ⟨?_, trivial⟩
    rw [hrecord, ← record_of_approached hreached.approached]
    exact List.Subset.refl _

end

/-- **What is known of the handles of a crew** and of the tasks that wait. -/
structure Sourced (known : String → ContainerConfig → Prop)
    (c : Crew (σ × List (ProvisionCall κ)) κ) : Prop where
  handles : ∀ {entity : String} {handle : κ},
    c.session.router.handles.get? entity = some handle →
      Answered known c.session.outside.2 entity (.ok handle)
  stages : ∀ {task : Nat} {stage : Stage κ}, c.stages[task]? = some stage →
    stage.Sourced known c.session.outside.2

variable {c : Crew (σ × List (ProvisionCall κ)) κ}

theorem Sourced.step (h : Sourced known c)
    (hknown : ∀ entity config, (c.session.router.registry.lookup entity).1 = .ok config →
      known entity config) (step : Step) : Sourced known (c.step b.recorded step) := by
  cases step with
  | advance task =>
    rcases advance_turn b.recorded c task with ⟨hidle, -⟩ | ⟨stage, stage', ht⟩
    · rw [Crew.step, hidle]
      exact h
    obtain ⟨hrecord, hstage'⟩ := ht.turn.sourced hknown (h.stages ht.before)
    refine ⟨?_, ?_⟩
    · intro entity handle hkept
      -- The turn has kept a new handle or none; a new one is the answer to the call of this task.
      rcases ht.turn.handles with hsame | ⟨entity', handle', work, rfl, hput⟩
      · rw [Crew.step, hsame] at hkept
        exact (h.handles hkept).mono hrecord
      · rw [Crew.step, hput] at hkept
        by_cases hentity : entity' = entity
        · subst hentity
          rw [Entries.get?_put_self] at hkept
          obtain rfl := Option.some.inj hkept
          exact (h.stages ht.before).mono hrecord
        · rw [Entries.get?_put_of_ne _ _ hentity] at hkept
          exact (h.handles hkept).mono hrecord
    · intro other stage hstage
      rcases ht.stage_cases hstage with ⟨-, rfl⟩ | ⟨-, hold⟩
      · exact hstage'
      · exact (h.stages hold).mono hrecord
  | register | lookUp | shut => exact ⟨h.handles, h.stages⟩
  -- No handle is left.
  | forget =>
    refine ⟨?_, h.stages⟩
    intro entity handle hkept
    cases hkept

/-- **The invariant holds throughout**, if every configuration is known that is looked up on the
way. -/
theorem Sourced.follow (h : Sourced known c) (steps : List Step)
    (hknown : ∀ earlier later, earlier ++ later = steps → ∀ entity config,
      ((c.follow b.recorded earlier).session.router.registry.lookup entity).1 = .ok config →
      known entity config) : Sourced known (c.follow b.recorded steps) := by
  induction steps generalizing c with
  | nil => exact h
  | cons step steps ih =>
    refine ih (h.step (hknown [] _ rfl) step) ?_
    intro earlier later hsteps
    exact hknown (step :: earlier) later (by rw [← hsteps, List.cons_append])

/-! ### Configurations since then -/

/-- **A configuration holds as long as no other container or partition field is registered** for the
entity. -/
theorem lookup_since {b : Backend σ κ} {c : Crew σ κ} {entity : String} {config : ContainerConfig}
    (hlookup : (c.session.router.registry.lookup entity).1 = .ok config) (steps : List Step)
    (hsame : ∀ config', .register config' ∈ steps → config'.entity = entity →
      config.SameContainer config') :
    ∃ config', ((c.follow b steps).session.router.registry.lookup entity).1 = .ok config'
      ∧ config.SameContainer config' := by
  induction steps generalizing c config with
  | nil => exact ⟨config, hlookup, rfl, rfl⟩
  | cons step steps ih =>
    have hrest : ∀ config', .register config' ∈ steps → config'.entity = entity →
        config.SameContainer config' :=
      fun config' hmem => hsame config' (List.mem_cons_of_mem _ hmem)
    cases step with
    | advance task =>
      refine ih ?_ hrest
      rcases advance_turn b c task with ⟨hidle, -⟩ | ⟨stage, stage', ht⟩
      · rw [Crew.step, hidle]
        exact hlookup
      · exact (ht.turn.agrees entity).trans hlookup
    | register registered =>
      by_cases hentity : registered.entity = entity
      · -- The entity itself is registered anew, with the same container.
        have hown := hsame registered List.mem_cons_self hentity
        subst hentity
        refine (ih (Registry.lookup_register_self ..) fun config' hmem he =>
          hown.symm.trans (hrest config' hmem he)).imp fun config' h => ⟨h.1, hown.trans h.2⟩
      · -- Another one is registered.
        exact ih ((Registry.lookup_register_of_ne _ hentity).trans hlookup) hrest
    | lookUp other => exact ih ((Registry.lookup_agrees _ other entity).trans hlookup) hrest
    | forget | shut => exact ih hlookup hrest

/-- **Handles and configurations**, whatever calls run side by side and whatever is registered,
looked up and closed meanwhile.  Each handle that is kept is the answer to a call to provision made
with a configuration that the entity had earlier in the run.  If no other container or partition
field has been registered for the entity since, then at every later moment the configuration of the
entity is one that the handle has been provisioned with. -/
theorem handles_origin (b : Backend σ κ) (registry : Registry) (pageSize : Int) (outside : σ)
    (calls : List Call) (steps : List Step) :
    let start : Crew (σ × List (ProvisionCall κ)) κ :=
      ⟨⟨{ registry := registry }, pageSize, (outside, [])⟩, calls.map .starting⟩
    let configOf steps entity :=
      ((start.follow b.recorded steps).session.router.registry.lookup entity).1
    let s := (start.follow b.recorded steps).session
    ∀ entity handle, s.router.handles.get? entity = some handle →
      ∃ earlier later config, earlier ++ later = steps ∧ configOf earlier entity = .ok config
        ∧ ⟨config.containerId, config.partitionPath, .ok handle⟩ ∈ s.outside.2
        ∧ ((∀ config', .register config' ∈ later → config'.entity = entity →
            config.SameContainer config') →
          ∀ between rest, between ++ rest = later →
            ∃ config', configOf (earlier ++ between) entity = .ok config'
              ∧ ⟨config'.containerId, config'.partitionPath, .ok handle⟩ ∈ s.outside.2) := by
  intro start configOf s entity handle hkept
  -- No handle is kept in the beginning, and no task has called to provision.
  have hstart : Sourced (fun entity config => ∃ earlier later, earlier ++ later = steps
      ∧ configOf earlier entity = .ok config) start := by
    constructor
    case handles =>
      intro entity handle hkept
      cases hkept
    case stages =>
      intro task stage hstage
      rw [List.getElem?_map, Option.map_eq_some_iff] at hstage
      obtain ⟨call, -, rfl⟩ := hstage
      trivial
  have hend := hstart.follow steps fun earlier later hsteps entity config hlookup =>
    ⟨earlier, later, hsteps, hlookup⟩
  -- The handle is from a call with a configuration that an earlier look-up has given.
  obtain ⟨config, ⟨earlier, later, hsteps, hlookup⟩, hmade⟩ := hend.handles hkept
  refine ⟨earlier, later, config, hsteps, hlookup, hmade, ?_⟩
  intro hsame between rest hlater
  obtain ⟨config', hlookup', hcontainer⟩ := lookup_since (b := b.recorded) hlookup between
    fun config' hmem => hsame config' (hlater ▸ List.mem_append_left _ hmem)
  refine ⟨config', ?_, ?_⟩
  · show ((start.follow b.recorded (earlier ++ between)).session.router.registry.lookup _).1 = _
    rw [follow_append]
    exact hlookup'
  · rw [hcontainer.containerId, hcontainer.partitionPath]
    exact hmade

namespace Origin

/-- The orders of tenants. -/
def orders : ContainerConfig := ⟨"order", "orders", "tenantId"⟩

/-- A task that resolves orders, in a session that has just been opened. -/
def start : Crew (LocalState × List (ProvisionCall String)) String :=
  ⟨⟨{ registry := .ofList [orders] false }, 50, (.unused, [])⟩,
    [.resolve "order"].map .starting⟩

end Origin

open Origin in
/-- Notes are registered while the container of orders is provisioned, and looked up later. -/
theorem handles_origin_orders :
    let steps : List Step :=
      [.advance 0, .register ⟨"note", "notes", "id"⟩, .advance 0, .lookUp "note"]
    let s := (start.follow LocalState.backend.recorded steps).session
    s.router.handles.get? "order" = some "orders"
      ∧ ∃ config, (s.router.registry.lookup "order").1 = .ok config
        ∧ ⟨config.containerId, config.partitionPath, .ok "orders"⟩ ∈ s.outside.2 := by
  intro steps s
  have hkept : s.router.handles.get? "order" = some "orders" := by decide +kernel
  obtain ⟨earlier, later, config, hsteps, -, -, hsince⟩ :=
    handles_origin LocalState.backend (.ofList [orders] false) 50 .unused [.resolve "order"] steps
      "order" "orders" hkept
  have hothers : ∀ config', .register config' ∈ later → config'.entity = "order" →
      config.SameContainer config' := by
    intro config' hlater hentity
    have hmem : .register config' ∈ steps := hsteps ▸ List.mem_append_right _ hlater
    simp only [steps, List.mem_cons, List.not_mem_nil, or_false, reduceCtorEq, false_or,
      Step.register.injEq] at hmem
    rw [hmem] at hentity
    exact absurd hentity (by decide)
  obtain ⟨config', hlookup, hmade⟩ := hsince hothers later [] (List.append_nil _)
  rw [hsteps] at hlookup
  exact ⟨hkept, config', hlookup, hmade⟩

open Origin in
/-- **A handle outlives the configuration** that it has been provisioned with: orders are given
another container and another partition field, but the handle is kept, so the documents of a region
are asked of the container in which they are kept by tenants. -/
theorem handle_outlives_configuration :
    let c := start.follow LocalState.backend.recorded
      [.advance 0, .advance 0, .register ⟨"order", "orders-v2", "region"⟩]
    let asked := ((Call.readMap (some "order") (.str "eu") (.list [.str "1"])).run
      LocalState.backend.recorded c.session).2.outside.1.memory.events.getLast?
    c.session.router.handles.get? "order" = some "orders"
      ∧ (c.session.router.registry.lookup "order").1 = .ok ⟨"order", "orders-v2", "region"⟩
      ∧ (c.session.outside.2.map fun made => (made.containerId, made.path))
        = [("orders", "/tenantId")]
      ∧ ∃ request, asked = some (.query "orders" request)
        ∧ request.statement.text = "SELECT * FROM c WHERE c.region = @pKey AND c.id IN (@id0)" := by
  intro c asked
  exact ⟨by decide +kernel, rfl, by decide +kernel, _, rfl, by decide +kernel⟩

end Crew

end EntityStore
