import EntityStore.Proofs.Store.InOrder
import EntityStore.Proofs.Store.Selection

/-!
# The course of a call

In a session in order a call comes to an end before its container is resolved, or it does its work
in the container of the entity that it names (`Call.course`).  Either way it leaves the session in
order (`Course.inOrder`).
-/

namespace EntityStore

/-! ### What calls come to -/

/-- **Work whose requests are well posed**: a chain starts with the first page, whose size is
positive, and it is a count that counts. -/
def Work.WellPosed : Work → Prop
  | .readMap request =>
    request.token = none ∧ MemoryContainer.counts request.statement = false ∧ 1 ≤ request.size
  | .query request => MemoryContainer.counts request.statement = false
  | .count request => request.token = none ∧ MemoryContainer.counts request.statement = true
  | _ => True

section

variable {σ : Type} {b : Backend σ String} {memory : σ → Memory}

/-- A call that is answered before its container is resolved finds no documents; the requests that
are left to any other one are well posed. -/
def Prepared.WellPosed : Prepared String → Prop
  | .answered a => a = .documents []
  | .ready _ work => work.WellPosed

theorem eq_of_inWords {statement : Except FilterError Statement} {s : Statement}
    (h : inWords statement = .ok s) : statement = .ok s := by
  cases statement with
  | error e => cases h
  | ok t =>
    cases h
    rfl

theorem Call.prepare_wellPosed {call : Call} {r : Prepared String} {s s₁ : Session σ String}
    (h : call.prepare b s = (.ok r, s₁)) : r.WellPosed := by
  cases call with
  | resolve entity =>
    cases h
    trivial
  | create =>
    obtain ⟨name, key, fields, now, body, o, -, -, -, -, -, rfl, -⟩ := Call.prepare_create h
    trivial
  | replace =>
    obtain ⟨name, key, fields, now, body, -, -, -, -, -, rfl, -⟩ := Call.prepare_replace h
    trivial
  | read entity id partition =>
    obtain ⟨name, -, h⟩ := Run.ok_of_lift_bind h
    obtain ⟨id, -, h⟩ := Run.ok_of_lift_bind h
    cases h
    trivial
  | delete entity id partition =>
    obtain ⟨name, -, h⟩ := Run.ok_of_lift_bind h
    obtain ⟨id, -, h⟩ := Run.ok_of_lift_bind h
    obtain ⟨config, s₁, -, h⟩ := Run.ok_of_bind h
    obtain ⟨partition, -, h⟩ := Run.ok_of_lift_bind h
    cases h
    trivial
  | readMap entity partition ids =>
    obtain ⟨name, -, h⟩ := Run.ok_of_lift_bind h
    obtain ⟨ids, -, h⟩ := Run.ok_of_lift_bind h
    split at h
    · cases h
      rfl
    next hne =>
    obtain ⟨config, s₁, -, h⟩ := Run.ok_of_bind h
    cases h
    -- A page is as long as there are ids, and there are some.
    refine ⟨rfl, MemoryContainer.counts_idsStatement .., Int.ofNat_le.2 ?_⟩
    exact List.length_pos_iff.2 fun hnil => hne (List.isEmpty_iff.2 hnil)
  | query entity input =>
    obtain ⟨name, -, h⟩ := Run.ok_of_lift_bind h
    obtain ⟨q, -, h⟩ := Run.ok_of_lift_bind h
    obtain ⟨statement, hstatement, h⟩ := Run.ok_of_lift_bind h
    cases h
    -- A statement that selects documents does not count.
    exact MemoryContainer.counts_of_selectStatement (eq_of_inWords hstatement)
  | count entity input =>
    obtain ⟨name, -, h⟩ := Run.ok_of_lift_bind h
    obtain ⟨q, -, h⟩ := Run.ok_of_lift_bind h
    obtain ⟨statement, hstatement, h⟩ := Run.ok_of_lift_bind h
    cases h
    -- One that counts does.
    exact ⟨rfl, MemoryContainer.counts_of_countStatement (eq_of_inWords hstatement)⟩

/-- A document is replaced under the id that it holds. -/
theorem Call.prepare_replace_id {call : Call} {entity : String} {work : Work}
    {s s₁ : Session σ String} (h : call.prepare b s = (.ok (.ready entity work), s₁))
    (body : Fields) (id : String) (hwork : work = .replace id body) :
    (MemoryContainer.idOf body).text = id := by
  subst hwork
  rcases Call.prepare_drafts h with ⟨-, -, hnone⟩ | ⟨_, _, now, o, -, -, ⟨⟩, -, hdrafts, -⟩
  · cases hnone _ _ rfl
  · rw [hdrafts.replace_id]
    rfl

/-- **The container that a call is about**, if it names an entity that is known. -/
def Call.containerId? (registry : Registry) (call : Call) : Option String :=
  call.entity?.bind fun entity => (registry.lookup entity).1.toOption.map (·.containerId)

theorem Call.containerId?_of_known {registry : Registry} {call : Call} {entity : String}
    {config : ContainerConfig} (hentity : call.entity? = some entity)
    (hknown : (registry.lookup entity).1 = .ok config) :
    call.containerId? registry = some config.containerId := by
  rw [containerId?, hentity, Option.bind_some, hknown]
  rfl

theorem Call.known_of_containerId? {registry : Registry} {call : Call} {entity container : String}
    (hentity : call.entity? = some entity) (h : call.containerId? registry = some container) :
    ∃ config, (registry.lookup entity).1 = .ok config ∧ config.containerId = container := by
  rw [containerId?, hentity, Option.bind_some] at h
  cases hlookup : (registry.lookup entity).1 with
  | error e =>
    rw [hlookup] at h
    cases h
  | ok config =>
    rw [hlookup] at h
    exact ⟨config, rfl, Option.some.inj h⟩

theorem Call.containerId?_congr {registry registry' : Registry} (h : registry.Agrees registry')
    (call : Call) : call.containerId? registry' = call.containerId? registry := by
  rw [containerId?, containerId?]
  congr 1
  funext entity
  rw [h entity]

theorem Call.run_of_answered {s s₁ : Session σ String} {call : Call} {a : Answer String}
    (h : call.prepare b s = (.ok (.answered a), s₁)) : call.run b s = (.ok a, s₁) := by
  rw [Call.run, Run.bind_eq, h]
  rfl

/-- **How a call runs** in a session that is in order. -/
inductive Call.Course (b : Backend σ String) (memory : σ → Memory) (s : Session σ String)
    (call : Call) : Except Failure (Answer String) → Session σ String → Prop
  /-- It comes to an end before a container is resolved. -/
  | ended {result : Except Failure (Answer String)} {s' : Session σ String}
    (hresult : (∃ e, result = .error e) ∨ result = .ok (.documents []))
    (happroached : s.Approached b s') : Course b memory s call result s'
  /-- It does its work in the container of the entity that it names. -/
  | works {entity : String} {work : Work} {config : ContainerConfig} {s₁ s₂ s' : Session σ String}
    {result : Except Failure (Answer String)}
    (hprepare : call.prepare b s = (.ok (.ready entity work), s₁))
    (hknown : (s.router.registry.lookup entity).1 = .ok config) (hs₂ : s₂.InOrder memory)
    (hresolved : s₁.Resolved memory entity config s₂)
    (hperform : work.perform b entity config.containerId s₂ = (result, s')) :
    Course b memory s call result s'

theorem Call.course (hb : b.InMemory memory) {s : Session σ String} (h : s.InOrder memory)
    (call : Call) : call.Course b memory s (call.run b s).1 (call.run b s).2 := by
  have happroached := Call.prepare_approached (b := b) call s
  rcases hprepare : call.prepare b s with ⟨e | a | ⟨entity, work⟩, s₁⟩ <;>
    rw [hprepare] at happroached
  · -- Preparing fails,
    rw [Call.run_of_failed hprepare]
    exact .ended (.inl ⟨e, rfl⟩) happroached
  · -- or it answers a map without ids,
    obtain rfl : a = .documents [] := Call.prepare_wellPosed hprepare
    rw [Call.run_of_answered hprepare]
    exact .ended (.inr rfl) happroached
  · -- or it leaves work to be done in the container of an entity.
    have hs₁ := h.approached hb happroached
    rcases hlookup : s₁.router.registry.lookup entity with ⟨e | config, registry⟩
    · -- A session in order keeps no handle for an entity that is not known.
      have hunkept : s₁.router.handles.get? entity = none := by
        rw [Option.eq_none_iff_forall_not_mem]
        intro handle hhandle
        obtain ⟨config, hknown, -⟩ := hs₁.handles hhandle
        rw [hlookup] at hknown
        cases hknown
      have hrun : call.run b s = (.error e, s₁) := by
        rw [Call.run, Run.bind_eq, hprepare]
        show (Session.resolve b entity >>= fun handle => work.perform b entity handle) s₁ = _
        rw [Run.bind_eq, Session.resolve_unknown hunkept hlookup]
      rw [hrun]
      exact .ended (.inl ⟨e, rfl⟩) happroached
    · have hknown : (s₁.router.registry.lookup entity).1 = .ok config := by rw [hlookup]
      obtain ⟨s₂, hresolve, hs₂, hresolved⟩ := hs₁.resolve_known hb hknown
      rw [Call.run_of_ready hprepare hresolve]
      exact .works hprepare ((happroached.router.registry entity).symm.trans hknown) hs₂ hresolved
        rfl

/-- Work leaves the settings of the database alone. -/
theorem perform_keepsSettings (hb : b.InMemory memory) (entity container : String) (work : Work)
    {s s' : Session σ String} {result : Except Failure (Answer String)}
    (hscript : (memory s.outside).script = none)
    (h : work.perform b entity container s = (result, s')) :
    (memory s.outside).SameSettings (memory s'.outside) := by
  let Settled (s s' : Session σ String) : Prop :=
    (memory s.outside).script = none → (memory s.outside).SameSettings (memory s'.outside)
  have : IsPreorder (Session σ String) Settled :=
    { refl := fun _ _ => ⟨rfl, rfl, rfl⟩
      trans := fun _ _ _ h h' hscript =>
        (h hscript).trans (h' ((h hscript).script.trans hscript)) }
  have hrequest (q : Request String) : Run.Keeps Settled (Session.consult (b.perform q)) := by
    intro s hscript
    have hsettings := Memory.perform_settings hscript q
    rw [← hb.perform q s.outside] at hsettings
    exact hsettings
  have hkeeps : Run.Keeps Settled (work.perform b entity container) :=
    keeps_perform entity work (fun _ _ => ⟨rfl, rfl, rfl⟩) (fun _ _ => hrequest _)
      (fun _ _ _ => hrequest _) (fun _ _ _ => hrequest _) (fun _ _ => hrequest _)
      fun _ => hrequest _
  have hafter := hkeeps s hscript
  rw [h] at hafter
  exact hafter

/-- **A call leaves a session in order.** -/
theorem Call.Course.inOrder (hb : b.InMemory memory) {s s' : Session σ String}
    (h : s.InOrder memory) {call : Call} {result : Except Failure (Answer String)}
    (hcourse : call.Course b memory s result s') : s'.InOrder memory := by
  cases hcourse with
  | ended _ happroached => exact h.approached hb happroached
  | @works entity work config s₁ s₂ _ _ _ _ hs₂ _ hperform =>
    have halike := (perform_alike b entity config.containerId work).of_eq hperform
    exact hs₂.alike halike.router
      (perform_keepsSettings hb entity _ work hs₂.database.unscripted hperform)

/-- **A call changes no configuration.** -/
theorem Call.Course.agrees {s s' : Session σ String} {call : Call}
    {result : Except Failure (Answer String)} (hcourse : call.Course b memory s result s') :
    s.router.registry.Agrees s'.router.registry := by
  cases hcourse with
  | ended _ happroached => exact happroached.router.registry
  | @works entity work config s₁ s₂ _ _ hprepare _ _ hresolved hperform =>
    have happroached := (Call.prepare_approached call).of_eq hprepare
    have halike := (perform_alike b entity config.containerId work).of_eq hperform
    exact (happroached.router.registry.trans hresolved.browsed.registry).trans
      halike.router.registry

end

end EntityStore
