import EntityStore.Store.Work
import Mathlib.Order.Defs.Unbundled

/-!
# What a computation keeps, and how it fails

A `Run` may fail, and goes on from the state that it has reached so far.  Three properties of such a
computation are used throughout: `Run.Yields P`, that every result it ends with is one of `P`,
`Run.Keeps R`, that it ends in a state to which the one it started from is related, however it ends,
and `Run.FailsOnly F`, that every failure it ends with is one of `F`.

All pass through sequencing, through catching a failure and through whole chains of pages
(`yields_drain`, `keeps_drain`, `failsOnly_drain`), so about a longer computation only its single
requests have to be looked at.
-/

namespace EntityStore

/-! ### How checks have come to their results -/

section Checks

variable {ε α β : Type} {x : Except ε α}

/-- A sequence of checks has failed: its first part has, or what follows it. -/
theorem error_of_bind {f : α → Except ε β} {e : ε} (h : (x >>= f) = .error e) :
    x = .error e ∨ ∃ a, x = .ok a ∧ f a = .error e := by
  cases x with
  | error e' =>
    cases h
    exact .inl rfl
  | ok a => exact .inr ⟨a, rfl, h⟩

/-- A sequence of checks has been passed: so have its first part and what follows it. -/
theorem ok_of_bind {f : α → Except ε β} {b : β} (h : (x >>= f) = .ok b) :
    ∃ a, x = .ok a ∧ f a = .ok b := by
  cases x with
  | error e => cases h
  | ok a => exact ⟨a, rfl, h⟩

theorem error_of_map {f : α → β} {e : ε} (h : x.map f = .error e) : x = .error e := by
  cases x with
  | error e' =>
    cases h
    rfl
  | ok a => cases h

theorem ok_of_map {f : α → β} {b : β} (h : x.map f = .ok b) : ∃ a, x = .ok a ∧ f a = b := by
  cases x with
  | error e => cases h
  | ok a =>
    cases h
    exact ⟨a, rfl, rfl⟩

theorem error_of_mapError {f : ε → Failure} {e : Failure} (h : x.mapError f = .error e) :
    ∃ e', x = .error e' ∧ e = f e' := by
  cases x with
  | error e' =>
    cases h
    exact ⟨e', rfl, rfl⟩
  | ok a => cases h

theorem ok_of_mapError {f : ε → Failure} {a : α} (h : x.mapError f = .ok a) : x = .ok a := by
  cases x with
  | error e => cases h
  | ok a' =>
    cases h
    rfl

end Checks

namespace Run

variable {S α β : Type}

/-! ### How computations run -/

/-- A sequence goes on from the state that its first part has reached, unless that fails. -/
theorem bind_eq (x : Run S α) (f : α → Run S β) (s : S) :
    (x >>= f) s = match x s with
      | (.ok a, s') => f a s'
      | (.error e, s') => (.error e, s') := by
  show (StateT.bind x (ExceptT.bindCont f)) s = _
  unfold StateT.bind
  show (match x s with | (r, s') => ExceptT.bindCont f r s') = _
  rcases x s with ⟨e | a, s'⟩ <;> rfl

/-- A check does not touch the state. -/
@[simp]
theorem lift_eq (x : Except Failure α) (s : S) : (liftM x : Run S α) s = (x, s) := rfl

/-- How a sequence has come to its result: its first part has failed, or has handed on a value. -/
theorem of_bind {x : Run S α} {f : α → Run S β} {s s' : S} {r : Except Failure β}
    (h : (x >>= f) s = (r, s')) :
    (∃ e, x s = (.error e, s') ∧ r = .error e)
      ∨ ∃ a s₁, x s = (.ok a, s₁) ∧ f a s₁ = (r, s') := by
  rw [bind_eq] at h
  rcases hx : x s with ⟨e | a, s₁⟩
  · rw [hx] at h
    cases h
    exact .inl ⟨e, rfl, rfl⟩
  · rw [hx] at h
    exact .inr ⟨a, s₁, rfl, h⟩

/-- How a sequence that begins with a check has come to its result. -/
theorem of_lift_bind {x : Except Failure α} {f : α → Run S β} {s s' : S} {r : Except Failure β}
    (h : ((liftM x : Run S α) >>= f) s = (r, s')) :
    (∃ e, x = .error e ∧ r = .error e ∧ s' = s) ∨ ∃ a, x = .ok a ∧ f a s = (r, s') := by
  rw [bind_eq, lift_eq] at h
  cases x with
  | error e =>
    cases h
    exact .inl ⟨e, rfl, rfl, rfl⟩
  | ok a => exact .inr ⟨a, rfl, h⟩

/-- A sequence that succeeds has gone on from its first part. -/
theorem ok_of_bind {x : Run S α} {f : α → Run S β} {s s' : S} {r : β}
    (h : (x >>= f) s = (.ok r, s')) :
    ∃ a s₁, x s = (.ok a, s₁) ∧ f a s₁ = (.ok r, s') := by
  rcases of_bind h with ⟨e, -, he⟩ | hnext
  · cases he
  · exact hnext

/-- A sequence that begins with a check and succeeds has passed it. -/
theorem ok_of_lift_bind {x : Except Failure α} {f : α → Run S β} {s s' : S} {r : β}
    (h : ((liftM x : Run S α) >>= f) s = (.ok r, s')) :
    ∃ a, x = .ok a ∧ f a s = (.ok r, s') := by
  rcases of_lift_bind h with ⟨e, -, he, -⟩ | hnext
  · cases he
  · exact hnext

/-- A result of which something is made at the end. -/
theorem of_bind_pure {x : Run S α} {f : α → β} {s s' : S} {r : Except Failure β}
    (h : (x >>= fun a => pure (f a)) s = (r, s')) : ∃ r', x s = (r', s') ∧ r = r'.map f := by
  rcases of_bind h with ⟨e, hx, rfl⟩ | ⟨a, s₁, hx, h⟩
  · exact ⟨.error e, hx, rfl⟩
  · cases h
    exact ⟨.ok a, hx, rfl⟩

/-- What is made of a result at the end does not touch the state. -/
theorem bind_pure_eq (x : Run S α) (f : α → β) (s : S) :
    (x >>= fun a => pure (f a)) s = ((x s).1.map f, (x s).2) := by
  rw [bind_eq]
  rcases x s with ⟨e | a, s'⟩ <;> rfl

/-- Looking at the state hands it on as it is. -/
theorem get_bind_eq (f : S → Run S β) (s : S) : ((get : Run S S) >>= f) s = f s s := rfl

/-- A check that is passed hands on its value. -/
theorem lift_bind_eq {x : Except Failure α} {a : α} (h : x = .ok a) (f : α → Run S β) (s : S) :
    ((liftM x : Run S α) >>= f) s = f a s := by
  rw [bind_eq, lift_eq, h]

/-- What follows a failure starts from the state in which it occurred. -/
theorem tryCatch_eq (x : Run S α) (handle : Failure → Run S α) (s : S) :
    tryCatch x handle s = match x s with
      | (.ok a, s') => (.ok a, s')
      | (.error e, s') => handle e s' := by
  show (ExceptT.tryCatch x handle : Run S α) s = _
  unfold ExceptT.tryCatch ExceptT.mk
  show (StateT.bind x _) s = _
  unfold StateT.bind
  show (match x s with | (r, s') => _) = _
  rcases x s with ⟨e | a, s'⟩ <;> rfl

/-! ### Yielding certain results only -/

/-- **A computation yields certain results only.** -/
def Yields (P : α → Prop) (x : Run S α) : Prop :=
  ∀ s a, (x s).1 = .ok a → P a

section Yields

variable {P : α → Prop} {Q : β → Prop} {x : Run S α}

theorem yields_pure {a : α} (ha : P a) : Yields P (pure a : Run S α) := by
  intro s a' h
  cases h
  exact ha

theorem yields_any (x : Run S α) : Yields (fun _ => True) x := fun _ _ _ => trivial

theorem yields_throw (e : Failure) : Yields P (throw e : Run S α) := by
  intro s a h
  cases h

theorem yields_bind {f : α → Run S β} (hx : Yields P x) (hf : ∀ a, P a → Yields Q (f a)) :
    Yields Q (x >>= f) := by
  intro s b h
  have hfirst := hx s
  rw [bind_eq] at h
  rcases hrun : x s with ⟨e | a, s'⟩
  · rw [hrun] at h
    cases h
  · rw [hrun] at h hfirst
    exact hf a (hfirst a rfl) s' b h

/-- What a sequence yields is what its last part does. -/
theorem yields_next {f : α → Run S β} (hf : ∀ a, Yields Q (f a)) : Yields Q (x >>= f) :=
  yields_bind (yields_any x) fun a _ => hf a

theorem yields_tryCatch {handle : Failure → Run S α} (hhandle : ∀ e, Yields P (handle e))
    (hx : Yields P x) : Yields P (tryCatch x handle) := by
  intro s a h
  have hfirst := hx s
  rw [tryCatch_eq] at h
  rcases hrun : x s with ⟨e | a', s'⟩
  · rw [hrun] at h
    exact hhandle e s' a h
  · rw [hrun] at h hfirst
    exact hfirst a h

end Yields

/-! ### Keeping a relation to the state at the start -/

/-- **A computation leads from a state to one that is related to it**, whether or not it fails. -/
def Keeps (R : S → S → Prop) (x : Run S α) : Prop :=
  ∀ s, R s (x s).2

/-- What a computation keeps, said of one of its runs. -/
theorem Keeps.of_eq {R : S → S → Prop} {x : Run S α} (h : Keeps R x) {s s' : S}
    {r : Except Failure α} (hrun : x s = (r, s')) : R s s' := by
  have hkept := h s
  rw [hrun] at hkept
  exact hkept

section Keeps

variable {R : S → S → Prop} [IsPreorder S R] {x : Run S α}

theorem keeps_pure (a : α) : Keeps R (pure a : Run S α) := fun s => Std.Refl.refl s

theorem keeps_throw (e : Failure) : Keeps R (throw e : Run S α) := fun s => Std.Refl.refl s

theorem keeps_lift (x : Except Failure α) : Keeps R (liftM x : Run S α) := fun s => Std.Refl.refl s

theorem keeps_get : Keeps R (get : Run S S) := fun s => Std.Refl.refl s

/-- What the first part of a sequence hands on may be needed to see what the next part keeps. -/
theorem keeps_bind_yields {P : α → Prop} {f : α → Run S β} (hx : Keeps R x) (hyields : Yields P x)
    (hf : ∀ a, P a → Keeps R (f a)) : Keeps R (x >>= f) := by
  intro s
  have hfirst := hx s
  have hresult := hyields s
  rw [bind_eq]
  rcases hrun : x s with ⟨e | a, s'⟩
  · rw [hrun] at hfirst
    exact hfirst
  · rw [hrun] at hfirst hresult
    exact IsTrans.trans s s' _ hfirst (hf a (hresult a rfl) s')

theorem keeps_bind {f : α → Run S β} (hx : Keeps R x) (hf : ∀ a, Keeps R (f a)) :
    Keeps R (x >>= f) :=
  keeps_bind_yields hx (yields_any x) fun a _ => hf a

theorem keeps_tryCatch {handle : Failure → Run S α} (hx : Keeps R x)
    (hhandle : ∀ e, Keeps R (handle e)) : Keeps R (tryCatch x handle) := by
  intro s
  have hfirst := hx s
  rw [tryCatch_eq]
  rcases hrun : x s with ⟨e | a, s'⟩
  · rw [hrun] at hfirst
    exact IsTrans.trans s s' _ hfirst (hhandle e s')
  · rw [hrun] at hfirst
    exact hfirst

end Keeps

/-! ### Failing in certain ways only -/

/-- **A computation fails in certain ways only.** -/
def FailsOnly (F : Failure → Prop) (x : Run S α) : Prop :=
  ∀ s e, (x s).1 = .error e → F e

section FailsOnly

variable {F : Failure → Prop} {x : Run S α}

theorem FailsOnly.imp {G : Failure → Prop} (hx : FailsOnly F x) (h : ∀ e, F e → G e) :
    FailsOnly G x := fun s e he => h e (hx s e he)

theorem failsOnly_pure (a : α) : FailsOnly F (pure a : Run S α) := by
  intro s e h
  cases h

theorem failsOnly_throw {e : Failure} (he : F e) : FailsOnly F (throw e : Run S α) := by
  intro s e' h
  cases h
  exact he

theorem failsOnly_lift {x : Except Failure α} (hx : ∀ e, x = .error e → F e) :
    FailsOnly F (liftM x : Run S α) := fun _ => hx

theorem failsOnly_get : FailsOnly F (get : Run S S) := by
  intro s e h
  cases h

/-- What the first part of a sequence hands on may be needed to see how the next part fails. -/
theorem failsOnly_bind_yields {P : α → Prop} {f : α → Run S β} (hx : FailsOnly F x)
    (hyields : Yields P x) (hf : ∀ a, P a → FailsOnly F (f a)) : FailsOnly F (x >>= f) := by
  intro s e h
  have hfirst := hx s
  have hresult := hyields s
  rw [bind_eq] at h
  rcases hrun : x s with ⟨e' | a, s'⟩
  · rw [hrun] at h hfirst
    cases h
    exact hfirst _ rfl
  · rw [hrun] at h hresult
    exact hf a (hresult a rfl) s' e h

theorem failsOnly_bind {f : α → Run S β} (hx : FailsOnly F x) (hf : ∀ a, FailsOnly F (f a)) :
    FailsOnly F (x >>= f) :=
  failsOnly_bind_yields hx (yields_any x) fun a _ => hf a

/-- A sequence that begins with a check which is passed fails as its next part does. -/
theorem failsOnly_lift_bind {x : Except Failure α} {a : α} {f : α → Run S β} (hx : x = .ok a)
    (hf : FailsOnly F (f a)) : FailsOnly F ((liftM x : Run S α) >>= f) := by
  intro s e h
  rw [lift_bind_eq hx] at h
  exact hf s e h

/-- Of the failures that are caught, those that are passed on matter. -/
theorem failsOnly_tryCatch {G : Failure → Prop} {handle : Failure → Run S α}
    (hhandle : ∀ e, G e → FailsOnly F (handle e)) (hx : FailsOnly G x) :
    FailsOnly F (tryCatch x handle) := by
  intro s e h
  have hfirst := hx s
  rw [tryCatch_eq] at h
  rcases hrun : x s with ⟨e' | a, s'⟩
  · rw [hrun] at h hfirst
    exact hhandle e' (hfirst e' rfl) s' e h
  · rw [hrun] at h
    cases h

end FailsOnly

end Run

/-! ### Chains of pages -/

/-- What has been made of pages in the end. -/
def Absorbed.result {α : Type} : Absorbed α → α
  | .stop result => result
  | .goOn soFar => soFar

/-- A search through a page that finds something finds one of its items. -/
theorem absorbFirst_finds {P : Value → Prop} {soFar : Option Value} {items : List Value}
    {a : Absorbed (Option Value)} (hitems : ∀ v ∈ items, P v) (h : absorbFirst soFar items = .ok a) :
    ∀ v, a.result = some v → P v := by
  cases items with
  | nil =>
    cases h
    rintro v ⟨⟩
  | cons w r =>
    cases h
    rintro v ⟨⟩
    exact hitems w List.mem_cons_self

section Pages

variable {σ κ α : Type} {b : Backend σ κ} {container : κ}
  {absorb : α → List Value → Except Failure (Absorbed α)}

/-- **A chain of pages yields** what is kept from page to page, all of them being answers to one
statement. -/
theorem yields_drain {P : α → Prop} {Q : Page → Prop} {statement : Statement}
    (hpage : ∀ request : PageRequest, request.statement = statement →
      Run.Yields Q (Session.consult (b.perform (.page container request)) : Run (Session σ κ) _))
    (habsorb : ∀ {soFar page a}, P soFar → Q page → absorb soFar page.items = .ok a → P a.result)
    (patience : Nat) (request : PageRequest) (hrequest : request.statement = statement)
    (soFar : α) (hstart : P soFar) :
    Run.Yields P (drain b container absorb patience request soFar) := by
  induction patience generalizing request soFar with
  | zero => exact Run.yields_throw _
  | succ n ih =>
    refine Run.yields_bind (hpage request hrequest) fun page hitems => ?_
    refine Run.yields_bind (P := fun absorbed => P absorbed.result)
      (fun _ _ h => habsorb hstart hitems h) fun absorbed habsorbed => ?_
    cases absorbed with
    | stop result => exact Run.yields_pure habsorbed
    | goOn next =>
      dsimp only
      split
      · exact ih { request with token := page.token } hrequest next habsorbed
      · exact Run.yields_pure habsorbed

/-- **A chain of pages keeps what each page keeps.** -/
theorem keeps_drain {R : Session σ κ → Session σ κ → Prop} [IsPreorder _ R]
    (hpage : ∀ request, Run.Keeps R (Session.consult (b.perform (.page container request))))
    (patience : Nat) (request : PageRequest) (soFar : α) :
    Run.Keeps R (drain b container absorb patience request soFar) := by
  induction patience generalizing request soFar with
  | zero => exact Run.keeps_throw _
  | succ n ih =>
    refine Run.keeps_bind (hpage request) fun page => ?_
    refine Run.keeps_bind (Run.keeps_lift _) fun absorbed => ?_
    cases absorbed with
    | stop result => exact Run.keeps_pure result
    | goOn soFar =>
      dsimp only
      split
      · exact ih _ soFar
      · exact Run.keeps_pure soFar

/-- **A chain of pages fails** as a page does, or what is made of one, or because it does not end. -/
theorem failsOnly_drain {F : Failure → Prop} (hendless : F .endless)
    (hpage : ∀ request,
      Run.FailsOnly F (Session.consult (b.perform (.page container request)) : Run (Session σ κ) _))
    (habsorb : ∀ soFar items e, absorb soFar items = .error e → F e)
    (patience : Nat) (request : PageRequest) (soFar : α) :
    Run.FailsOnly F (drain b container absorb patience request soFar) := by
  induction patience generalizing request soFar with
  | zero => exact Run.failsOnly_throw hendless
  | succ n ih =>
    refine Run.failsOnly_bind (hpage request) fun page => ?_
    refine Run.failsOnly_bind (Run.failsOnly_lift (habsorb soFar page.items)) fun absorbed => ?_
    cases absorbed with
    | stop result => exact Run.failsOnly_pure result
    | goOn soFar =>
      dsimp only
      split
      · exact ih _ soFar
      · exact Run.failsOnly_pure soFar

end Pages

end EntityStore
