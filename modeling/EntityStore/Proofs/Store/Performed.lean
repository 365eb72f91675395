import EntityStore.Proofs.Store.Prepared
import EntityStore.Store.Memory

/-!
# What doing the work of a call does

Work in a container changes nothing of the router but that it may look a configuration up
(`perform_alike`).  It cannot be rejected: a request may fail, and so may what is made of a page
(`failsOnly_readItem`, `failsOnly_pages`), but neither says that the call itself could not be made.
The one exception is a document that is read without its partition value, for which the
configuration is looked up; `perform_rejected` says that this look-up has failed and that nothing
has happened.

The database is taken to tell its own failures from rejections (`Backend.NeverRejects`), as the one
in memory does.
-/

namespace EntityStore

/-! ### What is kept of a session -/

namespace Session

variable {σ κ : Type}

/-- A session that routes as another one does. -/
structure Alike (s s' : Session σ κ) : Prop where
  router : s.router.Alike s'.router
  pageSize : s'.pageSize = s.pageSize

instance : IsPreorder (Session σ κ) Alike where
  refl s := ⟨Std.Refl.refl s.router, rfl⟩
  trans _ _ _ h h' := ⟨IsTrans.trans _ _ _ h.router h'.router, h'.pageSize.trans h.pageSize⟩

/-- What happens outside does not concern the router. -/
theorem consult_alike {α : Type} (f : σ → Except Failure α × σ) :
    Run.Keeps Alike (consult f : Run (Session σ κ) α) :=
  fun s => ⟨Std.Refl.refl s.router, rfl⟩

theorem configOf_alike (entity : String) :
    Run.Keeps Alike (configOf entity : Run (Session σ κ) ContainerConfig) :=
  fun s => ⟨⟨rfl, rfl, s.router.registry.lookup_agrees entity⟩, rfl⟩

end Session

section Keeps

variable {σ κ : Type} {b : Backend σ κ} {container : κ} {R : Session σ κ → Session σ κ → Prop}
  [IsPreorder _ R]

theorem keeps_readItem {id : String} {partition : Value}
    (hread : Run.Keeps R (Session.consult (b.perform (.read container id partition)))) :
    Run.Keeps R (readItem b container id partition) := by
  refine Run.keeps_tryCatch (Run.keeps_bind hread fun v => Run.keeps_pure _) fun e => ?_
  split
  · exact Run.keeps_pure _
  · exact Run.keeps_throw _

theorem keeps_findItem {id : String}
    (hpage : ∀ request, Run.Keeps R (Session.consult (b.perform (.page container request)))) :
    Run.Keeps R (findItem b container id) := by
  refine Run.keeps_bind Run.keeps_get fun s => ?_
  refine Run.keeps_bind (keeps_drain hpage _ _ _) fun found => ?_
  cases found <;> exact Run.keeps_pure _

/-- **Doing work keeps what each request keeps**, and what looking a configuration up keeps. -/
theorem keeps_perform (entity : String) (work : Work)
    (hlookup : Run.Keeps R (Session.configOf entity : Run (Session σ κ) ContainerConfig))
    (hcreate : ∀ body, work = .create body →
      Run.Keeps R (Session.consult (b.perform (.create container body))))
    (hreplace : ∀ id body, work = .replace id body →
      Run.Keeps R (Session.consult (b.perform (.replace container id body))))
    (hdelete : ∀ id partition, work = .delete id partition →
      Run.Keeps R (Session.consult (b.perform (.delete container id partition))))
    (hread : ∀ id partition,
      Run.Keeps R (Session.consult (b.perform (.read container id partition))))
    (hpage : ∀ request, Run.Keeps R (Session.consult (b.perform (.page container request)))) :
    Run.Keeps R (work.perform b entity container) := by
  cases work with
  | resolve => exact Run.keeps_pure _
  | create body => exact Run.keeps_bind (hcreate body rfl) fun v => Run.keeps_pure _
  | read id partition =>
    rw [Work.perform]
    split
    · refine Run.keeps_bind hlookup fun config => ?_
      split
      · exact keeps_readItem (hread _ _)
      · exact keeps_findItem hpage
    · exact keeps_readItem (hread _ _)
  | replace id body => exact Run.keeps_bind (hreplace id body rfl) fun v => Run.keeps_pure _
  | delete id partition =>
    exact Run.keeps_bind (hdelete id partition rfl) fun v => Run.keeps_pure _
  | readMap request | count request =>
    refine Run.keeps_bind Run.keeps_get fun s => ?_
    exact Run.keeps_bind (keeps_drain hpage _ _ _) fun found => Run.keeps_pure _
  | query request =>
    refine Run.keeps_bind (hpage request) fun page => ?_
    exact Run.keeps_bind (Run.keeps_lift _) fun result => Run.keeps_pure _

end Keeps

/-- **Work leaves handles and locks alone**, and registers an entity at most. -/
theorem perform_alike {σ κ : Type} (b : Backend σ κ) (entity : String) (container : κ) (work : Work) :
    Run.Keeps Session.Alike (work.perform b entity container) :=
  keeps_perform entity work (Session.configOf_alike entity)
    (fun _ _ => Session.consult_alike _) (fun _ _ _ => Session.consult_alike _)
    (fun _ _ _ => Session.consult_alike _) (fun _ _ => Session.consult_alike _)
    fun _ => Session.consult_alike _

/-! ### Faults -/

/-- A failure that is no rejection. -/
def Failure.Occurs (e : Failure) : Prop := e.isRejection = false

/-- Whether a failure says that a document is not there. -/
def Failure.isAbsent : Failure → Bool
  | .absent .. => true
  | _ => false

/-- **A fault**: a failure that is no rejection and does not say that a document is not there. -/
def Failure.IsFault (e : Failure) : Prop := e.isRejection = false ∧ e.isAbsent = false

theorem Failure.IsFault.occurs {e : Failure} (h : e.IsFault) : e.Occurs := h.1

theorem absorbFirst_fault (soFar : Option Value) (items : List Value) (e : Failure)
    (h : absorbFirst soFar items = .error e) : e.IsFault := by
  cases items <;> cases h

theorem itemId_fault {v : Value} {e : Failure} (h : itemId v = .error e) : e.IsFault := by
  unfold itemId at h
  split at h
  · split at h
    · cases h
    · cases h
      exact ⟨rfl, rfl⟩
  all_goals
    cases h
    exact ⟨rfl, rfl⟩

theorem absorbDocuments_fault (found : Entries String Value) (items : List Value) (e : Failure)
    (h : absorbDocuments found items = .error e) : e.IsFault := by
  induction items generalizing found with
  | nil => cases h
  | cons v r ih =>
    rw [absorbDocuments] at h
    cases hid : itemId v with
    | error e' =>
      rw [hid] at h
      cases h
      exact itemId_fault hid
    | ok id =>
      rw [hid] at h
      exact ih (found.put id v) h

theorem eq_of_getD {α : Type} {o : Option α} {e e' : Failure}
    (h : (o.map Except.ok).getD (.error e) = .error e') : e' = e := by
  cases o <;> cases h
  rfl

theorem countedNumber_fault {v : Value} {e : Failure} (h : countedNumber v = .error e) :
    e.IsFault := by
  unfold countedNumber at h
  split at h
  case h_1 | h_2 => cases h
  case h_3 | h_5 | h_9 =>
    cases h
    exact ⟨rfl, rfl⟩
  case h_4 | h_6 =>
    obtain rfl := eq_of_getD h
    exact ⟨rfl, rfl⟩
  case h_7 | h_8 =>
    obtain ⟨e', -, rfl⟩ := error_of_mapError h
    exact ⟨rfl, rfl⟩

theorem absorbCounts_fault (total : Int) (items : List Value) (e : Failure)
    (h : absorbCounts total items = .error e) : e.IsFault := by
  induction items generalizing total with
  | nil => cases h
  | cons v r ih =>
    rw [absorbCounts] at h
    cases hn : countedNumber v with
    | error e' =>
      rw [hn] at h
      cases h
      exact countedNumber_fault hn
    | ok n =>
      rw [hn] at h
      exact ih (total + n) h

theorem inPage_fault {page : Page} {e : Failure} (h : inPage page = .error e) : e.IsFault := by
  obtain ⟨faults, -, rfl⟩ := error_of_mapError h
  exact ⟨rfl, rfl⟩

/-! ### How reading fails -/

section FailsOnly

variable {σ κ : Type} {b : Backend σ κ} {container : κ} {F : Failure → Prop}

/-- That there is no document to read is caught, and nothing else. -/
theorem failsOnly_readItem {G : Failure → Prop} {id : String} {partition : Value}
    (hread : Run.FailsOnly G
      (Session.consult (b.perform (.read container id partition)) : Run (Session σ κ) _))
    (hpassed : ∀ e, G e → e.isAbsent = false → F e) :
    Run.FailsOnly F (readItem b container id partition : Run (Session σ κ) _) := by
  refine Run.failsOnly_tryCatch (fun e he => ?_)
    (Run.failsOnly_bind hread fun v => Run.failsOnly_pure _)
  split
  · exact Run.failsOnly_pure _
  · next hpresent =>
    refine Run.failsOnly_throw (hpassed e he ?_)
    cases e with
    | absent containerId id cause => exact (hpresent containerId id cause rfl).elim
    | _ => rfl

variable (hfault : ∀ e : Failure, e.IsFault → F e)
  (hpage : ∀ request,
    Run.FailsOnly F (Session.consult (b.perform (.page container request)) : Run (Session σ κ) _))

include hfault hpage

/-- Going through pages fails as a page does, or by a fault of what is made of one. -/
theorem failsOnly_pages {α : Type} {absorb : α → List Value → Except Failure (Absorbed α)}
    (habsorb : ∀ soFar items e, absorb soFar items = .error e → e.IsFault)
    (request : PageRequest) (start : α) (answer : α → Answer κ) :
    Run.FailsOnly F ((get : Run (Session σ κ) _) >>= fun s =>
      drain b container absorb (b.patience s.outside) request start >>= fun found =>
        pure (answer found)) := by
  refine Run.failsOnly_bind Run.failsOnly_get fun s => ?_
  refine Run.failsOnly_bind ?_ fun found => Run.failsOnly_pure _
  exact failsOnly_drain (hfault _ ⟨rfl, rfl⟩) hpage
    (fun soFar items e h => hfault e (habsorb soFar items e h)) _ _ _

theorem failsOnly_findItem (id : String) :
    Run.FailsOnly F (findItem b container id : Run (Session σ κ) _) := by
  refine Run.failsOnly_bind Run.failsOnly_get fun s => ?_
  refine Run.failsOnly_bind ?_ fun found => ?_
  · exact failsOnly_drain (hfault _ ⟨rfl, rfl⟩) hpage
      (fun soFar items e h => hfault e (absorbFirst_fault soFar items e h)) _ _ _
  · cases found <;> exact Run.failsOnly_pure _

theorem failsOnly_readMap (entity : String) (request : PageRequest) :
    Run.FailsOnly F ((Work.readMap request).perform b entity container) :=
  failsOnly_pages hfault hpage absorbDocuments_fault request [] .documents

theorem failsOnly_count (entity : String) (request : PageRequest) :
    Run.FailsOnly F ((Work.count request).perform b entity container) :=
  failsOnly_pages hfault hpage absorbCounts_fault request 0 .count

theorem failsOnly_query (entity : String) (request : PageRequest) :
    Run.FailsOnly F ((Work.query request).perform b entity container) := by
  refine Run.failsOnly_bind (hpage request) fun page => ?_
  refine Run.failsOnly_bind (Run.failsOnly_lift fun e h => hfault e (inPage_fault h)) fun result => ?_
  exact Run.failsOnly_pure _

end FailsOnly

/-! ### Rejections -/

/-- **The failures of the database are no rejections** of the calls that it is asked for. -/
structure Backend.NeverRejects {σ κ : Type} (b : Backend σ κ) : Prop where
  provision : ∀ containerId path o e, (b.provision containerId path o).1 = .error e →
    e.isRejection = false
  perform : ∀ q o e, (b.perform q o).1 = .error e → e.isRejection = false

section Rejections

variable {σ κ : Type} {b : Backend σ κ} (hb : b.NeverRejects)

include hb

theorem consult_occurs (q : Request κ) :
    Run.FailsOnly Failure.Occurs (Session.consult (b.perform q) : Run (Session σ κ) q.Reply) :=
  fun s => hb.perform q s.outside

theorem readItem_occurs (container : κ) (id : String) (partition : Value) :
    Run.FailsOnly Failure.Occurs (readItem b container id partition : Run (Session σ κ) _) :=
  failsOnly_readItem (consult_occurs hb _) fun _ he _ => he

theorem findItem_occurs (container : κ) (id : String) :
    Run.FailsOnly Failure.Occurs (findItem b container id : Run (Session σ κ) _) :=
  failsOnly_findItem (fun _ => Failure.IsFault.occurs) (fun _ => consult_occurs hb _) id

/-- **Work that ends in a rejection** was to read a document of an entity that is unknown, and has
done nothing. -/
theorem perform_rejected {entity : String} {container : κ} {work : Work} {s s' : Session σ κ}
    {e : Failure} (h : work.perform b entity container s = (.error e, s'))
    (he : e.isRejection = true) :
    (s.router.registry.lookup entity).1 = .error e ∧ s.Unaffected b s' := by
  -- What a database answers is never a rejection.
  have hoccurs {x : Run (Session σ κ) (Answer κ)} (hx : Run.FailsOnly Failure.Occurs x)
      {s : Session σ κ} (hrun : x s = (.error e, s')) : False := by
    have hfalse : e.isRejection = false := hx s e (congrArg Prod.fst hrun)
    rw [he] at hfalse
    contradiction
  cases work with
  | resolve => cases h
  | create body | replace id body | delete id partition =>
    exact (hoccurs (Run.failsOnly_bind (consult_occurs hb _) fun v => Run.failsOnly_pure _) h).elim
  | read id partition =>
    rw [Work.perform] at h
    split at h
    case isFalse => exact (hoccurs (readItem_occurs hb container id partition) h).elim
    -- Only looking the entity up may reject the call.
    rcases Run.of_bind h with ⟨e', hlookup, he'⟩ | ⟨config, s₁, hlookup, h⟩
    · cases he'
      exact ⟨congrArg Prod.fst hlookup, Session.configOf_error hlookup⟩
    · split at h
      · exact (hoccurs (readItem_occurs hb container id _) h).elim
      · exact (hoccurs (findItem_occurs hb container id) h).elim
  | readMap request =>
    exact (hoccurs (failsOnly_readMap (fun _ => Failure.IsFault.occurs)
      (fun _ => consult_occurs hb _) entity request) h).elim
  | query request =>
    exact (hoccurs (failsOnly_query (fun _ => Failure.IsFault.occurs)
      (fun _ => consult_occurs hb _) entity request) h).elim
  | count request =>
    exact (hoccurs (failsOnly_count (fun _ => Failure.IsFault.occurs)
      (fun _ => consult_occurs hb _) entity request) h).elim

end Rejections

end EntityStore
