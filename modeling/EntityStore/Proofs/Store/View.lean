import EntityStore.Proofs.Store.Run
import EntityStore.Store.Logged

/-!
# Backends that see part of a state

A state may hold more than a backend needs, such as a trace of what has been done.  When one
backend does to a part of the state what another does to the whole (`Backend.Seen`), a call runs
alike on both: it is answered the same, and leaves the part that the other leaves
(`Call.seen_run`).

A computation on the whole and one on the part are taken side by side (`Run.Seen`), and their
sequences, the failures that they catch and their chains of pages stay side by side.
-/

namespace EntityStore

namespace Run

variable {S T α β : Type} {view : T → S} {x : Run T α} {y : Run S α}

/-- **A computation on a part of the state** does what another one does to the whole. -/
def Seen (view : T → S) (x : Run T α) (y : Run S α) : Prop :=
  ∀ t, y (view t) = ((x t).1, view (x t).2)

theorem seen_pure (a : α) : Seen view (pure a) (pure a) := fun _ => rfl

theorem seen_throw (e : Failure) : Seen view (throw e : Run T α) (throw e) := fun _ => rfl

theorem seen_lift (x : Except Failure α) : Seen view (liftM x) (liftM x) := fun _ => rfl

theorem seen_get {f : T → Run T β} {g : S → Run S β} (h : ∀ t, Seen view (f t) (g (view t))) :
    Seen view ((get : Run T T) >>= f) ((get : Run S S) >>= g) := fun t => h t t

theorem seen_bind {f : α → Run T β} {g : α → Run S β} (hx : Seen view x y)
    (hf : ∀ a, Seen view (f a) (g a)) : Seen view (x >>= f) (y >>= g) := by
  intro t
  rw [bind_eq, bind_eq, hx t]
  rcases x t with ⟨e | a, t'⟩
  · rfl
  · exact hf a t'

theorem seen_tryCatch {handle : Failure → Run T α} {handle' : Failure → Run S α}
    (hx : Seen view x y) (hhandle : ∀ e, Seen view (handle e) (handle' e)) :
    Seen view (tryCatch x handle) (tryCatch y handle') := by
  intro t
  rw [tryCatch_eq, tryCatch_eq, hx t]
  rcases x t with ⟨e | a, t'⟩
  · exact hhandle e t'
  · rfl

end Run

/-- The session on the part of the state that is seen. -/
def Session.view {σ τ κ : Type} (view : τ → σ) (s : Session τ κ) : Session σ κ where
  router := s.router
  pageSize := s.pageSize
  outside := view s.outside

/-- **A backend does to a part of the state what another one does to the whole.** -/
structure Backend.Seen {σ τ κ : Type} (view : τ → σ) (b : Backend τ κ) (b' : Backend σ κ) :
    Prop where
  now : ∀ t, b'.now (view t) = ((b.now t).1, view (b.now t).2)
  newId : ∀ t, b'.newId (view t) = ((b.newId t).1, view (b.newId t).2)
  provision : ∀ containerId path t, b'.provision containerId path (view t)
    = ((b.provision containerId path t).1, view (b.provision containerId path t).2)
  perform : ∀ q t, b'.perform q (view t) = ((b.perform q t).1, view (b.perform q t).2)
  patience : ∀ t, b'.patience (view t) = b.patience t

/-- A backend does to the state what it does to the logged state. -/
theorem Backend.seen_logged {ε σ κ : Type} (requested : List ε) (b : Backend σ κ) :
    Backend.Seen Logged.state (b.logged requested) b where
  now _ := rfl
  newId _ := rfl
  provision _ _ _ := rfl
  perform _ _ := rfl
  patience _ := rfl

section

variable {σ τ κ : Type} {view : τ → σ} {b : Backend τ κ} {b' : Backend σ κ}

open Session

/-! ### Single steps -/

theorem seen_consult {α : Type} {f : τ → Except Failure α × τ} {g : σ → Except Failure α × σ}
    (h : ∀ t, g (view t) = ((f t).1, view (f t).2)) :
    Run.Seen (Session.view view) (consult f : Run (Session τ κ) α) (consult g) := by
  intro s
  have houtside : g (s.view view).outside = _ := h s.outside
  rw [consult, houtside]
  rfl

theorem seen_configOf (entity : String) :
    Run.Seen (Session.view view) (configOf entity : Run (Session τ κ) _) (configOf entity) :=
  fun _ => rfl

theorem seen_resolve (hb : b.Seen view b') (entity : String) :
    Run.Seen (Session.view view) (resolve b entity) (resolve b' entity) := by
  intro s
  unfold resolve
  have hrouter : (s.view view).router = s.router := rfl
  rw [hrouter]
  rcases s.router.request 0 entity with ⟨result | config | config, router⟩
  · rfl
  · rfl
  · have hview : (s.view view).outside = view s.outside := rfl
    simp only [hview, hb.provision]
    rfl

/-! ### Work and whole calls -/

theorem seen_drain (hb : b.Seen view b') {α : Type} {container : κ}
    {absorb : α → List Value → Except Failure (Absorbed α)} (patience : Nat)
    (request : PageRequest) (soFar : α) :
    Run.Seen (Session.view view) (drain b container absorb patience request soFar)
      (drain b' container absorb patience request soFar) := by
  induction patience generalizing request soFar with
  | zero => exact Run.seen_throw _
  | succ n ih =>
    refine Run.seen_bind (seen_consult (hb.perform _)) fun page => ?_
    refine Run.seen_bind (Run.seen_lift _) fun absorbed => ?_
    cases absorbed with
    | stop result => exact Run.seen_pure result
    | goOn soFar =>
      dsimp only
      split
      · exact ih _ soFar
      · exact Run.seen_pure soFar

/-- A chain of pages that is as long as the backend has patience for. -/
theorem seen_patient (hb : b.Seen view b') {α β : Type} {container : κ}
    {absorb : α → List Value → Except Failure (Absorbed α)} (request : PageRequest) (soFar : α)
    {f : α → Run (Session τ κ) β} {g : α → Run (Session σ κ) β}
    (hf : ∀ a, Run.Seen (Session.view view) (f a) (g a)) :
    Run.Seen (Session.view view)
      ((get : Run _ (Session τ κ)) >>= fun s =>
        drain b container absorb (b.patience s.outside) request soFar >>= f)
      ((get : Run _ (Session σ κ)) >>= fun s =>
        drain b' container absorb (b'.patience s.outside) request soFar >>= g) := by
  refine Run.seen_get fun s => ?_
  have hpatience : b'.patience (s.view view).outside = b.patience s.outside :=
    hb.patience s.outside
  rw [hpatience]
  exact Run.seen_bind (seen_drain hb _ request soFar) hf

theorem seen_readItem (hb : b.Seen view b') (container : κ) (id : String) (partition : Value) :
    Run.Seen (Session.view view) (readItem b container id partition)
      (readItem b' container id partition) := by
  refine Run.seen_tryCatch ?_ fun e => ?_
  · exact Run.seen_bind (seen_consult (hb.perform _)) fun v => Run.seen_pure _
  · split
    · exact Run.seen_pure _
    · exact Run.seen_throw _

theorem seen_perform (hb : b.Seen view b') (entity : String) (container : κ) (work : Work) :
    Run.Seen (Session.view view) (work.perform b entity container)
      (work.perform b' entity container) := by
  cases work with
  | resolve => exact Run.seen_pure _
  | create | replace | delete =>
    exact Run.seen_bind (seen_consult (hb.perform _)) fun v => Run.seen_pure _
  | read id partition =>
    rw [Work.perform, Work.perform]
    split
    · refine Run.seen_bind (seen_configOf entity) fun config => ?_
      split
      · exact seen_readItem hb container id _
      · refine seen_patient hb _ none fun found => ?_
        cases found <;> exact Run.seen_pure _
    · exact seen_readItem hb container id partition
  | readMap request | count request =>
    exact seen_patient hb request _ fun found => Run.seen_pure _
  | query request =>
    refine Run.seen_bind (seen_consult (hb.perform _)) fun page => ?_
    exact Run.seen_bind (Run.seen_lift _) fun result => Run.seen_pure _

theorem Call.seen_prepare (hb : b.Seen view b') (call : Call) :
    Run.Seen (Session.view view) (call.prepare b) (call.prepare b') := by
  cases call with
  | resolve entity => exact Run.seen_pure _
  | create entity id document =>
    refine Run.seen_bind (Run.seen_lift _) fun entity => ?_
    refine Run.seen_bind (Run.seen_lift _) fun document => ?_
    cases id with
    | some id =>
      refine Run.seen_bind (Run.seen_pure id) fun id => ?_
      refine Run.seen_bind (Run.seen_lift _) fun id => ?_
      refine Run.seen_bind (seen_consult hb.now) fun now => ?_
      exact Run.seen_bind (Run.seen_lift _) fun body => Run.seen_pure _
    | none =>
      -- The new id is taken from the part that is seen.
      have hid (t : τ) : ((.ok (b'.newId (view t)).1, (b'.newId (view t)).2) : Except Failure _ × σ)
          = (.ok (b.newId t).1, view (b.newId t).2) := by rw [hb.newId]
      refine Run.seen_bind (seen_consult hid) fun id => ?_
      refine Run.seen_bind (Run.seen_lift _) fun id => ?_
      refine Run.seen_bind (seen_consult hb.now) fun now => ?_
      exact Run.seen_bind (Run.seen_lift _) fun body => Run.seen_pure _
  | read entity id partition =>
    refine Run.seen_bind (Run.seen_lift _) fun entity => ?_
    exact Run.seen_bind (Run.seen_lift _) fun id => Run.seen_pure _
  | replace entity id document =>
    refine Run.seen_bind (Run.seen_lift _) fun entity => ?_
    refine Run.seen_bind (Run.seen_lift _) fun id => ?_
    refine Run.seen_bind (Run.seen_lift _) fun document => ?_
    refine Run.seen_bind (seen_consult hb.now) fun now => ?_
    exact Run.seen_bind (Run.seen_lift _) fun body => Run.seen_pure _
  | delete entity id partition =>
    refine Run.seen_bind (Run.seen_lift _) fun entity => ?_
    refine Run.seen_bind (Run.seen_lift _) fun id => ?_
    refine Run.seen_bind (seen_configOf entity) fun config => ?_
    exact Run.seen_bind (Run.seen_lift _) fun partition => Run.seen_pure _
  | readMap entity partition ids =>
    refine Run.seen_bind (Run.seen_lift _) fun entity => ?_
    refine Run.seen_bind (Run.seen_lift _) fun ids => ?_
    split
    · exact Run.seen_pure _
    · exact Run.seen_bind (seen_configOf entity) fun config => Run.seen_pure _
  | query entity input | count entity input =>
    refine Run.seen_bind (Run.seen_lift _) fun entity => ?_
    refine Run.seen_bind (Run.seen_lift _) fun q => ?_
    refine Run.seen_bind (Run.seen_lift _) fun statement => ?_
    exact Run.seen_get fun s => Run.seen_pure _

/-- **A call runs alike** on the whole of a state and on the part that is seen. -/
theorem Call.seen_run (hb : b.Seen view b') (call : Call) :
    Run.Seen (Session.view view) (call.run b) (call.run b') := by
  refine Run.seen_bind (call.seen_prepare hb) fun prepared => ?_
  cases prepared with
  | answered a => exact Run.seen_pure a
  | ready entity work =>
    exact Run.seen_bind (seen_resolve hb entity) fun container =>
      seen_perform hb entity container work

end

end EntityStore
