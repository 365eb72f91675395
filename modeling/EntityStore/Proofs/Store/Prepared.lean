import EntityStore.Proofs.Store.Router
import EntityStore.Proofs.Store.Run

/-!
# What preparing a call does

Preparing a call reads the clock, takes a new id or looks a configuration up, and does nothing else:
no request is made, and handles and locks stay as they are (`prepare_approached`).  A call that
fails while it is being prepared has not even registered its entity (`prepare_error`): of the two
calls that look a configuration up, one cannot fail after that, and the other fails only when the
container is not partitioned on the id, so that its entity had been registered before.
-/

namespace EntityStore

/-! ### Registries that agree -/

namespace Registry

/-- Two registries answer every look-up alike. -/
def Agrees (r r' : Registry) : Prop :=
  ∀ entity, (r'.lookup entity).1 = (r.lookup entity).1

theorem Agrees.trans {r r' r'' : Registry} (h : r.Agrees r') (h' : r'.Agrees r'') :
    r.Agrees r'' := fun entity => (h' entity).trans (h entity)

theorem lookup_of_get? {r : Registry} {entity : String} {c : ContainerConfig}
    (h : r.configs.get? entity = some c) : r.lookup entity = (.ok c, r) := by
  rw [lookup, h]

theorem lookup_of_autoRegister {r : Registry} {entity : String}
    (h : r.configs.get? entity = none) (hauto : r.autoRegister = true) :
    r.lookup entity = (.ok (.ownContainer entity), r.register (.ownContainer entity)) := by
  rw [lookup, h]
  dsimp only
  rw [if_pos hauto]

theorem lookup_of_closed {r : Registry} {entity : String}
    (h : r.configs.get? entity = none) (hauto : r.autoRegister = false) :
    r.lookup entity = (.error (.unknownEntity entity), r) := by
  rw [lookup, h]
  dsimp only
  rw [hauto, if_neg Bool.false_ne_true]

/-- **What is registered is found**, -/
theorem lookup_register_self (r : Registry) (config : ContainerConfig) :
    ((r.register config).lookup config.entity).1 = .ok config := by
  have hput : (r.register config).configs.get? config.entity = some config :=
    Entries.get?_put_self ..
  rw [lookup_of_get? hput]

/-- and registering it concerns no other entity. -/
theorem lookup_register_of_ne (r : Registry) {config : ContainerConfig} {entity : String}
    (h : config.entity ≠ entity) : ((r.register config).lookup entity).1 = (r.lookup entity).1 := by
  have hput : (r.register config).configs.get? entity = r.configs.get? entity :=
    Entries.get?_put_of_ne _ _ h
  cases hget : r.configs.get? entity with
  | some c => rw [lookup_of_get? hget, lookup_of_get? (hput.trans hget)]
  | none =>
    cases hauto : r.autoRegister with
    | false => rw [lookup_of_closed hget hauto, lookup_of_closed (hput.trans hget) hauto]
    | true => rw [lookup_of_autoRegister hget hauto, lookup_of_autoRegister (hput.trans hget) hauto]

/-- **Looking an entity up changes no answer**, though it may register the entity. -/
theorem lookup_agrees (r : Registry) (entity : String) : r.Agrees (r.lookup entity).2 := by
  intro entity'
  cases hget : r.configs.get? entity with
  | some c => rw [lookup_of_get? hget]
  | none =>
    cases hauto : r.autoRegister with
    | false => rw [lookup_of_closed hget hauto]
    | true =>
      rw [lookup_of_autoRegister hget hauto]
      by_cases h : entity = entity'
      · subst h
        rw [lookup_of_autoRegister hget hauto]
        exact r.lookup_register_self (.ownContainer entity)
      · exact r.lookup_register_of_ne h

/-- What a look-up finds is found again. -/
theorem lookup_again {r r' : Registry} {entity : String} {config : ContainerConfig}
    (h : r.lookup entity = (.ok config, r')) : (r'.lookup entity).1 = .ok config := by
  have hagrees := r.lookup_agrees entity entity
  rw [h] at hagrees
  exact hagrees

/-- An entity that is registered on the way has a container partitioned on the id. -/
theorem lookup_registered {r : Registry} {entity : String} {config : ContainerConfig}
    (h : (r.lookup entity).1 = .ok config) (hfield : config.partitionField ≠ Document.idField) :
    (r.lookup entity).2 = r := by
  cases hget : r.configs.get? entity with
  | some c => rw [lookup_of_get? hget]
  | none =>
    cases hauto : r.autoRegister with
    | false => rw [lookup_of_closed hget hauto]
    | true =>
      rw [lookup_of_autoRegister hget hauto] at h
      cases h
      exact absurd rfl hfield

end Registry

/-- Two routers keep the same handles and locks, and answer every look-up alike. -/
structure Router.Alike {κ : Type} (r r' : Router κ) : Prop where
  handles : r'.handles = r.handles
  locks : r'.locks = r.locks
  registry : r.registry.Agrees r'.registry

/-! ### Idle stretches -/

/-- **Nothing but readings of the clock and new ids** lead from one state of the outside to
another: nothing has been provisioned, and no request made. -/
inductive Backend.Idle {σ κ : Type} (b : Backend σ κ) (o : σ) : σ → Prop
  | refl : Idle b o o
  | now {o' : σ} (h : Idle b o o') : Idle b o (b.now o').2
  | newId {o' : σ} (h : Idle b o o') : Idle b o (b.newId o').2

namespace Backend.Idle

variable {σ κ : Type} {b : Backend σ κ} {o o' o'' : σ}

theorem trans (h : b.Idle o o') (h' : b.Idle o' o'') : b.Idle o o'' := by
  induction h' with
  | refl => exact h
  | now _ ih => exact ih.now
  | newId _ ih => exact ih.newId

/-- **What the clock and the source of ids leave alone is as before.** -/
theorem view_eq {τ : Type} {view : σ → τ} (hnow : ∀ o, view (b.now o).2 = view o)
    (hid : ∀ o, view (b.newId o).2 = view o) (h : b.Idle o o') : view o' = view o := by
  induction h with
  | refl => rfl
  | now _ ih => rw [hnow, ih]
  | newId _ ih => rw [hid, ih]

end Backend.Idle

namespace Session

variable {σ κ : Type}

/-- **Nothing has happened to a session**, the clock and the source of ids aside. -/
structure Unaffected (b : Backend σ κ) (s s' : Session σ κ) : Prop where
  router : s'.router = s.router
  pageSize : s'.pageSize = s.pageSize
  outside : b.Idle s.outside s'.outside

/-- A session in which nothing has happened but that an entity may have been registered. -/
structure Approached (b : Backend σ κ) (s s' : Session σ κ) : Prop where
  router : s.router.Alike s'.router
  pageSize : s'.pageSize = s.pageSize
  outside : b.Idle s.outside s'.outside

instance (b : Backend σ κ) : IsPreorder (Session σ κ) (Unaffected b) where
  refl _ := ⟨rfl, rfl, .refl⟩
  trans _ _ _ h h' :=
    ⟨h'.router.trans h.router, h'.pageSize.trans h.pageSize, h.outside.trans h'.outside⟩

instance {κ : Type} : IsPreorder (Router κ) Router.Alike where
  refl _ := ⟨rfl, rfl, fun _ => rfl⟩
  trans _ _ _ h h' := ⟨h'.handles.trans h.handles, h'.locks.trans h.locks,
    h.registry.trans h'.registry⟩

instance (b : Backend σ κ) : IsPreorder (Session σ κ) (Approached b) where
  refl s := ⟨Std.Refl.refl s.router, rfl, .refl⟩
  trans _ _ _ h h' := ⟨IsTrans.trans _ _ _ h.router h'.router, h'.pageSize.trans h.pageSize,
    h.outside.trans h'.outside⟩

variable {b : Backend σ κ} {s s' : Session σ κ}

theorem Unaffected.approached (h : s.Unaffected b s') : s.Approached b s' := by
  refine ⟨?_, h.pageSize, h.outside⟩
  rw [h.router]
  exact Std.Refl.refl s.router

/-! ### The single steps -/

theorem consult_now_unaffected : Run.Keeps (Unaffected b) (consult b.now) :=
  fun _ => ⟨rfl, rfl, .now .refl⟩

theorem consult_newId_unaffected :
    Run.Keeps (Unaffected b) (consult fun o => (.ok (b.newId o).1, (b.newId o).2)) :=
  fun _ => ⟨rfl, rfl, .newId .refl⟩

/-- Looking up a configuration registers an entity at most. -/
theorem configOf_approached (entity : String) : Run.Keeps (Approached b) (configOf entity) :=
  fun s => ⟨⟨rfl, rfl, s.router.registry.lookup_agrees entity⟩, rfl, .refl⟩

theorem configOf_eq {entity : String} {config : ContainerConfig}
    (h : (s.router.registry.lookup entity).1 = .ok config) :
    configOf entity s = (.ok config, (configOf entity s).2) := Prod.ext h rfl

/-- A look-up that fails registers nothing. -/
theorem configOf_error {entity : String} {e : Failure} (h : configOf entity s = (.error e, s')) :
    s.Unaffected b s' := by
  rcases hlookup : s.router.registry.lookup entity with ⟨r, registry⟩
  rw [configOf, hlookup] at h
  cases h
  obtain ⟨-, rfl, -⟩ := Registry.lookup_error hlookup
  exact Std.Refl.refl s

/-- Nor does one of an entity whose container is not partitioned on the id. -/
theorem configOf_registered {entity : String} {config : ContainerConfig}
    (h : configOf entity s = (.ok config, s'))
    (hfield : config.partitionField ≠ Document.idField) : s.Unaffected b s' := by
  have hsame := Registry.lookup_registered (congrArg Prod.fst h) hfield
  obtain rfl : { s with router := { s.router with registry := (s.router.registry.lookup entity).2 } }
      = s' := congrArg Prod.snd h
  rw [hsame]
  exact Std.Refl.refl s

end Session

/-- The partition value of a document to delete is missing only when the container is not
partitioned on the id. -/
theorem requirePartition_error {config : ContainerConfig} {id : String} {partition : Value}
    {e : Failure} (h : requirePartition config id partition = .error e) :
    config.partitionField ≠ Document.idField := by
  intro hfield
  rw [requirePartition, if_pos hfield] at h
  split_ifs at h

namespace Call

variable {σ κ : Type} {b : Backend σ κ}

open Session

/-! ### Calls that look nothing up -/

/-- The calls that look a configuration up before their container is resolved. -/
def LooksUp : Call → Prop
  | .delete .. | .readMap .. => True
  | _ => False

theorem prepare_unaffected {call : Call} (h : ¬ call.LooksUp) :
    Run.Keeps (Unaffected b) (call.prepare b) := by
  cases call with
  | resolve entity => exact Run.keeps_pure _
  | create entity id document =>
    refine Run.keeps_bind (Run.keeps_lift _) fun entity => ?_
    refine Run.keeps_bind (Run.keeps_lift _) fun document => ?_
    cases id with
    | some id =>
      refine Run.keeps_bind (Run.keeps_pure id) fun id => ?_
      refine Run.keeps_bind (Run.keeps_lift _) fun id => ?_
      refine Run.keeps_bind consult_now_unaffected fun now => ?_
      exact Run.keeps_bind (Run.keeps_lift _) fun body => Run.keeps_pure _
    | none =>
      refine Run.keeps_bind consult_newId_unaffected fun id => ?_
      refine Run.keeps_bind (Run.keeps_lift _) fun id => ?_
      refine Run.keeps_bind consult_now_unaffected fun now => ?_
      exact Run.keeps_bind (Run.keeps_lift _) fun body => Run.keeps_pure _
  | read entity id partition =>
    refine Run.keeps_bind (Run.keeps_lift _) fun entity => ?_
    exact Run.keeps_bind (Run.keeps_lift _) fun id => Run.keeps_pure _
  | replace entity id document =>
    refine Run.keeps_bind (Run.keeps_lift _) fun entity => ?_
    refine Run.keeps_bind (Run.keeps_lift _) fun id => ?_
    refine Run.keeps_bind (Run.keeps_lift _) fun document => ?_
    refine Run.keeps_bind consult_now_unaffected fun now => ?_
    exact Run.keeps_bind (Run.keeps_lift _) fun body => Run.keeps_pure _
  | delete | readMap => exact absurd trivial h
  | query entity input | count entity input =>
    refine Run.keeps_bind (Run.keeps_lift _) fun entity => ?_
    refine Run.keeps_bind (Run.keeps_lift _) fun q => ?_
    refine Run.keeps_bind (Run.keeps_lift _) fun statement => ?_
    exact Run.keeps_bind Run.keeps_get fun s => Run.keeps_pure _

/-! ### Calls that fail -/

/-- **A call that fails while it is being prepared has no effect.** -/
theorem prepare_error {call : Call} {s s' : Session σ κ} {e : Failure}
    (h : call.prepare b s = (.error e, s')) : s.Unaffected b s' := by
  -- Only a call that looks its entity up may have registered it before it fails.
  by_cases hlookup : call.LooksUp
  case neg => exact (prepare_unaffected hlookup).of_eq h
  cases call with
  | delete entity id partition =>
    rcases Run.of_lift_bind h with ⟨_, -, -, rfl⟩ | ⟨entity, -, h⟩
    · exact Std.Refl.refl s'
    rcases Run.of_lift_bind h with ⟨_, -, -, rfl⟩ | ⟨id, -, h⟩
    · exact Std.Refl.refl s'
    rcases Run.of_bind h with ⟨e', hlookup, -⟩ | ⟨config, s₁, hlookup, h⟩
    · exact configOf_error hlookup
    rcases Run.of_lift_bind h with ⟨_, hpartition, -, rfl⟩ | ⟨partition, -, h⟩
    · -- The partition is missing: the container is not partitioned on the id, so it was known.
      have hfield := requirePartition_error hpartition
      exact configOf_registered hlookup hfield
    · cases h
  | readMap entity partition ids =>
    rcases Run.of_lift_bind h with ⟨_, -, -, rfl⟩ | ⟨entity, -, h⟩
    · exact Std.Refl.refl s'
    rcases Run.of_lift_bind h with ⟨_, -, -, rfl⟩ | ⟨ids, -, h⟩
    · exact Std.Refl.refl s'
    split at h
    · cases h
    rcases Run.of_bind h with ⟨e', hlookup, -⟩ | ⟨config, s₁, -, h⟩
    · exact configOf_error hlookup
    · cases h
  | resolve | create | read | replace | query | count => exact hlookup.elim

/-- **Whatever a call comes to**, preparing it registers an entity at most. -/
theorem prepare_approached (call : Call) : Run.Keeps (Approached b) (call.prepare b) := by
  by_cases hlookup : call.LooksUp
  case neg => exact fun s => (prepare_unaffected hlookup s).approached
  cases call with
  | delete entity id partition =>
    refine Run.keeps_bind (Run.keeps_lift _) fun entity => ?_
    refine Run.keeps_bind (Run.keeps_lift _) fun id => ?_
    refine Run.keeps_bind (configOf_approached entity) fun config => ?_
    exact Run.keeps_bind (Run.keeps_lift _) fun partition => Run.keeps_pure _
  | readMap entity partition ids =>
    refine Run.keeps_bind (Run.keeps_lift _) fun entity => ?_
    refine Run.keeps_bind (Run.keeps_lift _) fun ids => ?_
    split
    · exact Run.keeps_pure _
    · exact Run.keeps_bind (configOf_approached entity) fun config => Run.keeps_pure _
  | resolve | create | read | replace | query | count => exact hlookup.elim

end Call

end EntityStore
