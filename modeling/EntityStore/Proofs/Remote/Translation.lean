import EntityStore.Proofs.Remote.Observed
import EntityStore.Proofs.Store.Draft
import EntityStore.Proofs.Store.Turn

/-!
# Which errors of a service are translated

That a resource was not found is an error like any other when a container is provisioned, a
document created or a page asked for: it is passed on as it is.  Only a call for one document by its
key turns it into something else, and into what depends on the operation: to replace or to delete,
the document is missing, and to read, there is none (`ServiceCall.outcome`).

`reports_run` says that a call to the store makes the calls to the service that belong to it and
comes to what becomes of the one that fails, and `not_found_translated` draws the conclusions.
-/

namespace EntityStore

/-! ### What becomes of an error -/

/-- A call for a document with an id that has to be there. -/
inductive ItemCall.Needs (id : String) : ItemCall → Prop
  | replace (body : Fields) : Needs id (.replace id body)
  | delete (partition : Value) : Needs id (.delete id partition)

/-- The error that the database has answered with. -/
def ServiceError.answer? : ServiceError → Option RemoteError
  | .answered e => some e
  | .refused _ => none

/-- Whether an error says that a resource was not found. -/
def ServiceError.isNotFound (e : ServiceError) : Bool :=
  e.answer?.any fun answer => answer.kind = .resourceNotFound

namespace ServiceCall

variable {κ : Type}

/-- **What an operation comes to when a call that it has made fails.**  That a resource was not
found means no document for a call to read one by its key, and for one to replace or to delete a
document that this document is missing.  Every other error, and that one for every other call, is
passed on as it is. -/
def outcome (e : ServiceError) : ServiceCall → Except Failure (Answer κ)
  | .item _ (.read _ _) => if e.isNotFound then .ok .noDocument else .error e.toFailure
  | .item containerId (.replace id _) | .item containerId (.delete id _) =>
    if e.isNotFound then .error (.absent containerId id e.answer?) else .error e.toFailure
  | _ => .error e.toFailure

end ServiceCall

namespace ServiceError

variable {e : ServiceError} {containerId id : String}

theorem isNotFound_iff :
    e.isNotFound = true ↔ ∃ answer, e = .answered answer ∧ answer.kind = .resourceNotFound := by
  cases e with
  | answered answer => simp [isNotFound, answer?]
  | refused reason => simp [isNotFound, answer?]

/-- Asking for a document by its key turns one error into another. -/
theorem toFailureOf_eq (e : ServiceError) (containerId id : String) :
    e.toFailureOf containerId id
      = if e.isNotFound then .absent containerId id e.answer? else e.toFailure := by
  cases e with
  | answered answer => by_cases h : answer.kind = .resourceNotFound <;>
      simp [toFailureOf, isNotFound, answer?, toFailure, h]
  | refused reason => rfl

end ServiceError

namespace ServiceCall

variable {κ : Type}

/-- That a document is missing comes from a call to replace or to delete it, -/
theorem outcome_absent_iff {c : ServiceCall} {e : ServiceError} {containerId id : String}
    {cause : Option RemoteError} :
    (c.outcome e : Except Failure (Answer κ)) = .error (.absent containerId id cause)
      ↔ ∃ item error, c = .item containerId item ∧ e = .answered error ∧ item.Needs id
        ∧ error.kind = .resourceNotFound ∧ cause = some error := by
  constructor
  · intro h
    -- An error that is passed on never says that a document is missing.
    have hpassed : (.error e.toFailure : Except Failure (Answer κ))
        ≠ .error (.absent containerId id cause) := by
      intro habsent
      have hfault := e.toFailure_fault.2
      rw [Except.error.inj habsent] at hfault
      cases hfault
    cases c with
    | provision | pages => exact absurd h hpassed
    | item containerId' call =>
      cases call with
      | create => exact absurd h hpassed
      | read =>
        rw [outcome] at h
        split_ifs at h
        exact absurd h hpassed
      | replace | delete =>
        rw [outcome] at h
        split_ifs at h with hfound
        · obtain ⟨error, rfl, hkind⟩ := ServiceError.isNotFound_iff.1 hfound
          cases h
          exact ⟨_, error, rfl, rfl, by constructor, hkind, rfl⟩
        · exact absurd h hpassed
  · rintro ⟨item, error, rfl, rfl, hneeds, hkind, rfl⟩
    have hfound := ServiceError.isNotFound_iff.2 ⟨error, rfl, hkind⟩
    cases hneeds <;>
    · rw [outcome, if_pos hfound]
      rfl

/-- and that there is none from a call to read it. -/
theorem outcome_noDocument_iff {c : ServiceCall} {e : ServiceError} :
    (c.outcome e : Except Failure (Answer κ)) = .ok .noDocument
      ↔ ∃ containerId id partition error, c = .item containerId (.read id partition)
        ∧ e = .answered error ∧ error.kind = .resourceNotFound := by
  constructor
  · intro h
    cases c with
    | provision | pages => cases h
    | item containerId call =>
      cases call with
      | create => cases h
      | replace | delete =>
        rw [outcome] at h
        split_ifs at h
      | read id partition =>
        rw [outcome] at h
        split_ifs at h with hfound
        obtain ⟨error, rfl, hkind⟩ := ServiceError.isNotFound_iff.1 hfound
        exact ⟨containerId, id, partition, error, rfl, rfl, hkind⟩
  · rintro ⟨containerId, id, partition, error, rfl, rfl, hkind⟩
    rw [outcome, if_pos (ServiceError.isNotFound_iff.2 ⟨error, rfl, hkind⟩)]

/-- Only to read a document is it enough that there is none. -/
theorem outcome_eq_failure {c : ServiceCall} (h : ∀ containerId id partition,
    c ≠ .item containerId (.read id partition)) (e : ServiceError) :
    (c.outcome e : Except Failure (Answer κ)) = .error (c.failure e) := by
  cases c with
  | provision | pages => rfl
  | item containerId call =>
    cases call with
    | create => rfl
    | read id partition => exact absurd rfl (h containerId id partition)
    | replace id | delete id =>
      rw [failure, outcome, e.toFailureOf_eq]
      split_ifs <;> rfl

end ServiceCall

/-! ### Requests -/

/-- The calls for a page. -/
def ServiceCall.IsPages (containerId : String) (c : ServiceCall) : Prop :=
  ∃ request, c = .pages containerId request

section Requests

variable {σ : Type} {service : Service σ} {base : Backend σ String} {registry : Registry}
  {containerId : String}

/-- A call about an item. -/
theorem reports_item {call : ItemCall} {failure : ServiceError → Failure}
    (hfailure : ∀ e, failure e = (ServiceCall.item containerId call).failure e) :
    Run.Reports registry (· = .item containerId call) ServiceCall.raised (fun _ => True)
      (Session.consult (service.observed.callItem containerId call failure) :
        Run (Session (Observed σ) String) _) :=
  reports_ask (fun r => r.mapError failure) (fun v => ⟨v, rfl⟩) fun e =>
    congrArg Except.error (hfailure e)

/-- A page is asked for with one call, or with none when a parameter cannot be sent. -/
theorem reports_page (request : PageRequest) :
    Run.Reports registry (ServiceCall.IsPages containerId) ServiceCall.raised (fun _ => True)
      (Session.consult ((service.watched base).perform (.page containerId request)) :
        Run (Session (Observed σ) String) _) := by
  refine reports_consult fun o => ?_
  show ∃ events, (service.observed.page containerId request o).2.events = o.events ++ events
    ∧ Told _ _ _ events (service.observed.page containerId request o).1
  unfold Service.page
  cases hsent : Parameter.allToWire request.statement.parameters with
  | error e =>
    -- The request is given up before it is sent.
    have hfault := Parameter.allToWire_fault hsent
    exact ⟨[], by rw [List.append_nil], .failed .nil hfault.2⟩
  | ok parameters =>
    let sent : PageRequest :=
      { request with statement := { request.statement with parameters := parameters } }
    have htold := Told.one (c := .pages containerId sent)
      (fun r => (r.map Service.firstPage).mapError ServiceError.toFailure)
      (fun pages => ⟨Service.firstPage pages, rfl⟩) (fun _ => rfl)
      (service.pages containerId sent o.state).1
    exact ⟨_, rfl, htold.imp (fun c hc => ⟨⟨sent, hc⟩, fun _ => rfl⟩) fun _ => id⟩

/-- **Going through pages** makes calls for pages, and what is made of them is never that a document
is missing. -/
theorem reports_drain {α : Type} {absorb : α → List Value → Except Failure (Absorbed α)}
    (habsorb : ∀ soFar items e, absorb soFar items = .error e → e.IsFault) (patience : Nat)
    (request : PageRequest) (soFar : α) :
    Run.Reports registry (ServiceCall.IsPages containerId) ServiceCall.raised (fun _ => True)
      (drain (service.watched base) containerId absorb patience request soFar) := by
  induction patience generalizing request soFar with
  | zero => exact Run.reports_throw rfl
  | succ n ih =>
    refine Run.reports_bind (reports_page request) (fun c hc => ⟨hc, fun _ => rfl⟩) fun page _ => ?_
    have hfault := fun e he => (habsorb soFar page.items e he).2
    refine Run.reports_bind (Q := fun _ => True) (Run.reports_lift hfault fun _ _ => trivial)
      (fun c hc => ⟨hc, fun _ => rfl⟩) fun absorbed _ => ?_
    cases absorbed with
    | stop result => exact Run.reports_pure trivial
    | goOn soFar =>
      dsimp only
      split
      · exact ih _ soFar
      · exact Run.reports_pure trivial

/-- What reading a document by its key makes of what the request has come to. -/
def Answer.ofRead {κ : Type} : Except Failure Value → Except Failure (Answer κ)
  | .ok v => .ok (.document v)
  | .error e => if e.isAbsent then .ok .noDocument else .error e

theorem readItem_ofRead {κ : Type} (b : Backend σ κ) (container : κ) (id : String)
    (partition : Value) (s : Session σ κ) :
    readItem b container id partition s
      = (Answer.ofRead (Session.consult (b.perform (.read container id partition)) s).1,
        (Session.consult (b.perform (.read container id partition)) s).2) := by
  unfold readItem
  rw [Run.tryCatch_eq, Run.bind_pure_eq]
  rcases Session.consult (b.perform (.read container id partition)) s with ⟨e | v, s'⟩
  · cases e <;> rfl
  · rfl

/-- **Reading a document by its key**: when the call to read it says that a resource was not found,
there is no document, and only then. -/
theorem reports_readItem (id : String) (partition : Value) :
    Run.Reports registry (· = .item containerId (.read id partition)) ServiceCall.outcome
      (· ≠ .noDocument) (readItem (service.watched base) containerId id partition) := by
  intro s hs
  -- The call as it is before its failure is looked at.
  have hread : Run.Reports registry (· = .item containerId (.read id partition)) ServiceCall.raised
      (fun _ => True) (Session.consult
        ((service.watched base).perform (.read containerId id partition)) :
          Run (Session (Observed σ) String) _) :=
    reports_item fun _ => rfl
  obtain ⟨hagrees, events, hevents, htold⟩ := hread s hs
  rw [readItem_ofRead]
  refine ⟨hagrees, events, hevents, ?_⟩
  generalize (Session.consult _ s).1 = r at htold ⊢
  dsimp only at htold ⊢
  cases htold with
  | answered hnone => exact .answered hnone (by rintro ⟨⟩)
  -- A failure of another kind is passed on as it is.
  | failed hnone he =>
    rw [Answer.ofRead, he]
    exact .failed hnone he
  | @broken before c e hnone hc =>
    -- The error of the last call is looked at: only a missing resource becomes an answer.
    have houtcome : (Answer.ofRead (ServiceCall.raised e c) : Except Failure (Answer String))
        = c.outcome e := by
      subst hc
      rw [ServiceCall.raised, ServiceCall.failure, ServiceCall.outcome, e.toFailureOf_eq,
        Answer.ofRead]
      cases hfound : e.isNotFound with
      | true => rfl
      | false =>
        have hfault := e.toFailure_fault.2
        simp [hfault]
    rw [houtcome]
    exact .broken hnone hc

end Requests

/-! ### Calls to the store and to the service -/

/-- The id of the document that a call asks for, if it asks for one. -/
def Call.id? : Call → Option String
  | .read _ id _ | .replace _ id _ | .delete _ id _ => id
  | _ => none

/-- The id of the document that work asks for, if it asks for one. -/
def Work.id? : Work → Option String
  | .read id _ | .replace id _ | .delete id _ => some id
  | _ => none

/-- **The calls to a service that an operation of a kind makes**, which may be about a document with
an id: containers are provisioned for all, a document is asked for under that id only, and only
operations that read ask for pages. -/
def CallKind.Makes (kind : CallKind) (id : Option String) : ServiceCall → Prop
  | .provision _ _ => True
  | .item _ (.create _) => kind = .create
  | .item _ (.read id' _) => kind = .read ∧ id = some id'
  | .item _ (.replace id' _) => kind = .replace ∧ id = some id'
  | .item _ (.delete id' _) => kind = .delete ∧ id = some id'
  | .pages _ _ => ¬ kind.Writes

/-- The calls to a service that a call to the store makes. -/
def Call.Makes (call : Call) (c : ServiceCall) : Prop := call.kind.Makes call.id? c

/-- A document is addressed by its key when its partition is given, or is the id. -/
def Registry.Addresses (registry : Registry) (entity : String) (partition : Value) : Prop :=
  partition.isNull = false
    ∨ ∃ config, (registry.lookup entity).1 = .ok config ∧ config.partitionField = Document.idField

/-- **A call to read a document by its key.** -/
def Call.ByKey (registry : Registry) (call : Call) : Prop :=
  ∃ entity id partition, call = .read (some entity) id partition
    ∧ registry.Addresses entity partition

/-- Work that reads a document by its key. -/
def Work.ByKey (registry : Registry) (entity : String) (work : Work) : Prop :=
  ∃ id partition, work = .read id partition ∧ registry.Addresses entity partition

/-- A call that has been answered at once reads no document by its key.  One that is ready has work
of its kind to do, about the document that it asks for, and by its key if the call reads it so. -/
def Prepared.Follows {κ : Type} (registry : Registry) (call : Call) : Prepared κ → Prop
  | .answered _ => ¬ call.ByKey registry
  | .ready entity work =>
    work.kind = call.kind ∧ (∀ id, work.id? = some id → call.id? = some id)
      ∧ (call.ByKey registry → work.ByKey registry entity)

theorem CallKind.Makes.imp {kind : CallKind} {given given' : Option String} {c : ServiceCall}
    (h : kind.Makes given c) (hid : ∀ id, given = some id → given' = some id) :
    kind.Makes given' c := by
  cases c with
  | provision | pages => exact h
  | item containerId call =>
    cases call with
    | create => exact h
    | read | replace | delete => exact ⟨h.1, hid _ h.2⟩

section Calls

variable {σ : Type} {service : Service σ} {base : Backend σ String} {registry : Registry}

/-- **A call is prepared to what it is about.** -/
theorem Call.prepare_follows {κ : Type} {b : Backend σ κ} (call : Call) :
    Run.Yields (Prepared.Follows registry call) (call.prepare b) := by
  intro s prepared h
  obtain ⟨s', hrun⟩ : ∃ s', call.prepare b s = (.ok prepared, s') := ⟨_, Prod.ext h rfl⟩
  have hsuits := call.prepare_yields s prepared h
  cases call with
  -- The work reads under the id that is given, and by its key if the call did.
  | read name given partition =>
    obtain ⟨name', hname, hrun⟩ := Run.ok_of_lift_bind hrun
    obtain ⟨key, hkey, hrun⟩ := Run.ok_of_lift_bind hrun
    cases hrun
    obtain ⟨rfl, -⟩ := eq_of_require hname
    obtain ⟨rfl, -⟩ := eq_of_require hkey
    refine ⟨rfl, fun _ => id, ?_⟩
    rintro ⟨_, _, _, ⟨⟩, haddresses⟩
    exact ⟨key, partition, rfl, haddresses⟩
  | replace name given document =>
    obtain ⟨_, key, _, _, _, -, rfl, -, -, -, hready, -⟩ := Call.prepare_replace hrun
    cases hready
    exact ⟨rfl, fun _ => id, by rintro ⟨_, _, _, ⟨⟩, -⟩⟩
  | delete name given partition =>
    obtain ⟨name', -, hrun⟩ := Run.ok_of_lift_bind hrun
    obtain ⟨key, hkey, hrun⟩ := Run.ok_of_lift_bind hrun
    obtain ⟨config, s₁, -, hrun⟩ := Run.ok_of_bind hrun
    obtain ⟨partition', -, hrun⟩ := Run.ok_of_lift_bind hrun
    cases hrun
    obtain ⟨rfl, -⟩ := eq_of_require hkey
    exact ⟨rfl, fun _ => id, by rintro ⟨_, _, _, ⟨⟩, -⟩⟩
  | resolve | create | readMap | query | count =>
    cases prepared with
    | answered a => rintro ⟨_, _, _, ⟨⟩, -⟩
    | ready entity work =>
      have hkind : work.kind = _ := hsuits
      refine ⟨hkind, ?_, by rintro ⟨_, _, _, ⟨⟩, -⟩⟩
      -- Work of these kinds asks for no document by its id.
      cases work <;> first | cases hkind; done | rintro id ⟨⟩

/-- The failure of a query that is not valid is not that a document is missing. -/
theorem Failure.not_isAbsent_of_isOfQuery {e : Failure} (h : e.isOfQuery = true) :
    e.isAbsent = false := by
  cases e with
  | absent => cases h
  | _ => rfl

variable (hnow : ∀ o e, (base.now o).1 = .error e → e.isAbsent = false)

include hnow in
/-- **Preparing a call** asks nothing of the service. -/
theorem reports_prepare {P : ServiceCall → Prop}
    {report : ServiceError → ServiceCall → Except Failure (Prepared String)} (call : Call) :
    Run.Reports registry P report (Prepared.Follows registry call)
      (call.prepare (service.watched base)) := by
  refine Run.reports_silent (fun s => ?_) ?_ fun s prepared _ => call.prepare_follows s prepared
  · have happroached := Call.prepare_approached (b := service.watched base) call s
    exact ⟨happroached.outside.view_eq (fun _ => rfl) fun _ => rfl, happroached.router.registry⟩
  · have hclock : Run.FailsOnly (fun e => e.isAbsent = false)
        (Session.consult (service.watched base).now : Run (Session (Observed σ) String) _) :=
      fun s e => hnow s.outside.state e
    exact Call.prepare_failsOnly_of (fun e he => he.2) hclock
      (.inr fun _ => Failure.not_isAbsent_of_isOfQuery)

/-- The calls to provision. -/
def ServiceCall.Provisions (c : ServiceCall) : Prop :=
  ∃ containerId path, c = .provision containerId path

/-- **Resolving a container** is one call to provision at most. -/
theorem reports_resolve (entity : String) :
    Run.Reports registry ServiceCall.Provisions ServiceCall.raised (fun _ => True)
      (Session.resolve (service.watched base) entity) := by
  intro s hs
  -- Nothing is asked for a handle that is kept or an entity that is not known.
  cases hhandle : s.router.handles.get? entity with
  | some handle =>
    rw [Session.resolve_cached hhandle]
    exact ⟨hs, [], by rw [List.append_nil], .answered .nil trivial⟩
  | none =>
    rcases hlookup : s.router.registry.lookup entity with ⟨e | config, registry'⟩
    · rw [Session.resolve_unknown hhandle hlookup]
      have hplain := lookup_plain (congrArg Prod.fst hlookup)
      exact ⟨hs, [], by rw [List.append_nil], .failed .nil hplain.2⟩
    · have hagrees := s.router.registry.lookup_agrees entity
      rw [hlookup] at hagrees
      obtain ⟨hregistry, -⟩ :=
        Session.resolve_known (b := service.watched base) hhandle hlookup
      refine ⟨by rw [hregistry]; exact hs.trans hagrees, ?_⟩
      rw [Session.resolve]
      -- The lock is free, or it is held and the session would wait for itself.
      obtain ⟨locks, hrequest | hrequest⟩ := Router.request_known 0 hhandle hlookup
      · rw [hrequest]
        have htold := Told.one (c := .provision config.containerId config.partitionPath)
          (fun r => (r.map fun _ => config.containerId).mapError ServiceError.toFailure)
          (fun _ => ⟨config.containerId, rfl⟩) (fun _ => rfl)
          (service.provision config.containerId config.partitionPath s.outside.state).1
        exact ⟨_, rfl, htold.imp (fun c hc => ⟨⟨_, _, hc⟩, fun _ => rfl⟩) fun _ => id⟩
      · rw [hrequest]
        exact ⟨[], by rw [List.append_nil], .failed .nil rfl⟩

/-- The configuration of an entity is looked up as in the beginning. -/
theorem reports_configOf {P : ServiceCall → Prop}
    {report : ServiceError → ServiceCall → Except Failure ContainerConfig} (entity : String) :
    Run.Reports registry P report (fun config => (registry.lookup entity).1 = .ok config)
      (Session.configOf entity : Run (Session (Observed σ) String) _) := by
  refine Run.reports_silent (fun s => ⟨rfl, s.router.registry.lookup_agrees entity⟩)
    ((configOf_plain entity).imp fun _ h => h.2) fun s config hs h => ?_
  have hlookup : (s.router.registry.lookup entity).1 = .ok config := h
  rw [← hs entity, hlookup]

/-! ### One kind of work after the other -/

/-- Pages are asked for by operations that read, and errors of such calls are not translated. -/
theorem ServiceCall.IsPages.makes {kind : CallKind} {id : Option String} {containerId : String}
    {c : ServiceCall} (hc : c.IsPages containerId) (hkind : ¬ kind.Writes) :
    kind.Makes id c
      ∧ ∀ e, (c.outcome e : Except Failure (Answer String)) = .error (c.failure e) := by
  obtain ⟨request, rfl⟩ := hc
  exact ⟨hkind, fun _ => rfl⟩

/-- **One call for a document that is not to read it**, and what its answer is made into: the error
of the call is not translated any further. -/
theorem reports_asked {kind : CallKind} {id : Option String} {containerId : String}
    {call : ItemCall} {α : Type} {x : Run (Session (Observed σ) String) α} {f : α → Answer String}
    {Q : Answer String → Prop}
    (hx : Run.Reports registry (· = .item containerId call) ServiceCall.raised (fun _ => True) x)
    (hmakes : kind.Makes id (.item containerId call))
    (hread : ∀ id partition, call ≠ .read id partition) (hQ : ∀ v, Q (f v)) :
    Run.Reports registry (kind.Makes id) ServiceCall.outcome Q (x >>= fun v => pure (f v)) := by
  refine Run.reports_bind hx ?_ fun v _ => Run.reports_pure (hQ v)
  rintro c rfl
  refine ⟨hmakes, ServiceCall.outcome_eq_failure ?_⟩
  rintro _ id partition ⟨⟩
  exact hread id partition rfl

theorem reports_delete (containerId id : String) (partition : Value) :
    Run.Reports registry (· = .item containerId (.delete id partition)) ServiceCall.raised
      (fun _ => True) (Session.consult
        ((service.watched base).perform (.delete containerId id partition)) :
          Run (Session (Observed σ) String) _) :=
  reports_ask (fun r => (r.mapError (ServiceError.toFailureOf containerId id)).map fun _ => ())
    (fun _ => ⟨(), rfl⟩) fun _ => rfl

/-- **Reading a document** that is looked for in all partitions asks for pages; that there is none
is then told by the last of them, and by no error. -/
theorem reports_findItem {Q : Answer String → Prop} (containerId id : String)
    (given : Option String) (hQ : ∀ a, Q a) :
    Run.Reports registry (CallKind.read.Makes given) ServiceCall.outcome Q
      (findItem (service.watched base) containerId id) := by
  refine Run.reports_get fun s => ?_
  refine Run.reports_bind (reports_drain absorbFirst_fault _ _ _)
    (fun c hc => hc.makes not_false) fun found _ => ?_
  cases found <;> exact Run.reports_pure (hQ _)

theorem reports_read (entity containerId id : String) (partition : Value) :
    Run.Reports registry (CallKind.read.Makes (some id)) ServiceCall.outcome
      (fun a => (Work.read id partition).ByKey registry entity → a ≠ .noDocument)
      ((Work.read id partition).perform (service.watched base) entity containerId) := by
  have hread (partition' : Value) : Run.Reports registry (CallKind.read.Makes (some id))
      ServiceCall.outcome
      (fun a => (Work.read id partition).ByKey registry entity → a ≠ .noDocument)
      (readItem (service.watched base) containerId id partition') := by
    refine (reports_readItem id partition').imp ?_ fun a ha _ => ha
    rintro c rfl
    exact ⟨⟨rfl, rfl⟩, fun _ => rfl⟩
  rw [Work.perform]
  split
  · next hnull =>
    -- No partition is given: the configuration tells whether the id is one.
    refine Run.reports_bind (reports_configOf (P := fun _ => False) entity)
      (fun _ => False.elim) fun config hconfig => ?_
    split
    · exact hread (.str id)
    · next hfield =>
      -- The document is not addressed by its key, and looked for in all partitions.
      have hfind : ¬ (Work.read id partition).ByKey registry entity := by
        rintro ⟨_, _, ⟨⟩, hgiven | ⟨config', hconfig', hfield'⟩⟩
        · rw [hnull] at hgiven
          cases hgiven
        · rw [hconfig] at hconfig'
          cases hconfig'
          exact hfield hfield'
      exact reports_findItem containerId id (some id) fun _ hkey => absurd hkey hfind
  · exact hread partition

/-- **Work makes the calls of its kind**, and comes to what becomes of the one that fails. -/
theorem reports_perform (entity containerId : String) (work : Work) :
    Run.Reports registry (work.kind.Makes work.id?) ServiceCall.outcome
      (fun a => work.ByKey registry entity → a ≠ .noDocument)
      (work.perform (service.watched base) entity containerId) := by
  cases work with
  | resolve => exact Run.reports_pure (by rintro ⟨_, _, ⟨⟩, -⟩)
  | create body =>
    exact reports_asked (reports_item fun _ => rfl) rfl (by rintro _ _ ⟨⟩)
      (by rintro _ ⟨_, _, ⟨⟩, -⟩)
  | replace id body =>
    exact reports_asked (reports_item fun _ => rfl) ⟨rfl, rfl⟩ (by rintro _ _ ⟨⟩)
      (by rintro _ ⟨_, _, ⟨⟩, -⟩)
  | delete id partition =>
    exact reports_asked (reports_delete containerId id partition) ⟨rfl, rfl⟩ (by rintro _ _ ⟨⟩)
      (by rintro _ ⟨_, _, ⟨⟩, -⟩)
  | read id partition => exact reports_read entity containerId id partition
  | readMap request =>
    refine Run.reports_get fun s => ?_
    refine Run.reports_bind (reports_drain absorbDocuments_fault _ _ _)
      (fun c hc => hc.makes not_false) fun found _ => ?_
    exact Run.reports_pure (by rintro ⟨_, _, ⟨⟩, -⟩)
  | count request =>
    refine Run.reports_get fun s => ?_
    refine Run.reports_bind (reports_drain absorbCounts_fault _ _ _)
      (fun c hc => hc.makes not_false) fun total _ => ?_
    exact Run.reports_pure (by rintro ⟨_, _, ⟨⟩, -⟩)
  | query request =>
    refine Run.reports_bind (reports_page request) (fun c hc => hc.makes not_false) fun page _ => ?_
    -- What is made of the page asks for nothing more.
    refine Run.reports_bind (P := fun _ => False) (Q := fun _ => True)
      (Run.reports_lift (fun e he => (inPage_fault he).2) fun _ _ => trivial)
      (fun _ => False.elim) fun result _ => ?_
    exact Run.reports_pure (by rintro ⟨_, _, ⟨⟩, -⟩)

include hnow in
/-- **A call makes the calls of its kind**, and comes to what becomes of the one that fails. -/
theorem reports_run (call : Call) :
    Run.Reports registry call.Makes ServiceCall.outcome
      (fun a => call.ByKey registry → a ≠ .noDocument) (call.run (service.watched base)) := by
  refine Run.reports_bind (reports_prepare (P := fun _ => False) hnow call)
    (fun _ => False.elim) fun prepared hfollows => ?_
  cases prepared with
  | answered a =>
    have hkey : ¬ call.ByKey registry := hfollows
    exact Run.reports_pure fun h => absurd h hkey
  | ready entity work =>
    obtain ⟨hkind, hid, hkey⟩ := hfollows
    refine Run.reports_bind (reports_resolve entity) ?_ fun containerId _ => ?_
    · rintro c ⟨containerId, path, rfl⟩
      exact ⟨trivial, fun _ => rfl⟩
    · refine (reports_perform entity containerId work).imp (fun c hc => ⟨?_, fun _ => rfl⟩)
        fun a ha hcall => ha (hkey hcall)
      rw [hkind] at hc
      exact hc.imp hid

include hnow in
/-- **Exactly the answer that a document was not found is translated.**  A call to the store runs on
an observed service as on the service itself, and makes no calls to it but those of an operation of
its kind.  Once one of them has failed it makes no more, and comes to what becomes of that error
(`ServiceCall.outcome`).

So it fails because a document is missing exactly when its last call to the service was to replace
or to delete this document and has been answered by the error that the resource was not found, which
is then the cause.  And to read a document by its key comes to no document exactly when the last
call was to read one and has been answered by that error. -/
theorem not_found_translated (call : Call) (s : Session σ String) :
    let ended := call.run (service.watched base) s.observed
    let result := ended.1
    let events := ended.2.outside.events
    call.run (service.backend base) s = (result, ended.2.view Logged.state)
      ∧ (∀ event ∈ events, call.Makes event.call)
      ∧ (∀ event ∈ events.dropLast, event.error = none)
      ∧ (∀ c e, events.getLast? = some ⟨c, some e⟩ → result = c.outcome e)
      ∧ (∀ containerId id cause, result = .error (.absent containerId id cause) ↔
          ∃ item error, events.getLast? = some ⟨.item containerId item, some (.answered error)⟩
            ∧ item.Needs id ∧ error.kind = .resourceNotFound ∧ cause = some error)
      ∧ (call.ByKey s.router.registry → (result = .ok .noDocument ↔
          ∃ containerId id partition error,
            events.getLast? = some ⟨.item containerId (.read id partition), some (.answered error)⟩
              ∧ error.kind = .resourceNotFound)) := by
  intro ended result events
  have hseen : call.run (service.backend base) s = _ :=
    call.seen_run (service.seen_watched base) s.observed
  have hreports : Run.Reports s.router.registry call.Makes ServiceCall.outcome
      (fun a => call.ByKey s.router.registry → a ≠ .noDocument)
      (call.run (service.watched base)) := reports_run hnow call
  obtain ⟨-, later, hlater, htold⟩ := hreports s.observed fun _ => rfl
  have hevents : events = later := hlater
  rw [← hevents] at htold
  refine ⟨hseen, htold.made, htold.stops, fun c e => htold.last, fun containerId id cause => ?_,
    fun hkey => ?_⟩
  · -- No failure of the store's own says that a document is missing.
    have hpresent : ∀ e : Failure, e.isAbsent = false →
        (.error e : Except Failure (Answer String)) ≠ .error (.absent containerId id cause) := by
      rintro e he ⟨⟩
      cases he
    refine (htold.eq_iff_last (fun a _ => by rintro ⟨⟩) hpresent).trans ?_
    constructor
    · rintro ⟨c, e, hlast, houtcome⟩
      obtain ⟨item, error, rfl, rfl, htranslated⟩ := ServiceCall.outcome_absent_iff.1 houtcome
      exact ⟨item, error, hlast, htranslated⟩
    · rintro ⟨item, error, hlast, htranslated⟩
      exact ⟨_, _, hlast,
        ServiceCall.outcome_absent_iff.2 ⟨item, error, rfl, rfl, htranslated⟩⟩
  · -- Reading by the key answers with a document, unless a call fails.
    have hdocument : ∀ a : Answer String, (call.ByKey s.router.registry → a ≠ .noDocument) →
        (.ok a : Except Failure (Answer String)) ≠ .ok .noDocument :=
      fun a ha heq => ha hkey (Except.ok.inj heq)
    refine (htold.eq_iff_last hdocument fun e _ => by rintro ⟨⟩).trans ?_
    constructor
    · rintro ⟨c, e, hlast, houtcome⟩
      obtain ⟨containerId, id, partition, error, rfl, rfl, hkind⟩ :=
        ServiceCall.outcome_noDocument_iff.1 houtcome
      exact ⟨containerId, id, partition, error, hlast, hkind⟩
    · rintro ⟨containerId, id, partition, error, hlast, hkind⟩
      exact ⟨_, _, hlast,
        ServiceCall.outcome_noDocument_iff.2 ⟨containerId, id, partition, error, rfl, rfl, hkind⟩⟩

end Calls

/-- A service that provisions containers, and finds no document in them. -/
def Service.bare : Service Unit where
  provision _ _ _ := (.ok (), ())
  item _ _ _ := (.error (.answered ⟨.resourceNotFound, 404⟩), ())
  pages _ _ _ := (.ok [], ())

/-- A clock that stands still, and the same id over and over. -/
def Backend.still : Backend Unit String where
  now _ := (.ok ⟨⟨2025, 1, 1⟩, 0, 0, 0, 0, none⟩, ())
  newId _ := ("new", ())
  provision containerId _ _ := (.ok containerId, ())
  perform _ _ := (.error .endless, ())
  close _ := ()
  patience _ := 1

/-- A document that is not there cannot be deleted, and the answer of the service is the cause. -/
theorem not_found_translated_delete :
    let call : Call := .delete (some "order") (some "1") .null
    let s : Session Unit String :=
      { router := { registry := .ofList [] true }, pageSize := 10, outside := () }
    let error : RemoteError := ⟨.resourceNotFound, 404⟩
    (∀ o e, (Backend.still.now o).1 = .error e → e.isAbsent = false)
      ∧ (call.run (Service.bare.watched .still) s.observed).1
        = .error (.absent "order" "1" (some error)) := by
  intro call s error
  have hnow : ∀ o e, (Backend.still.now o).1 = .error e → e.isAbsent = false := by rintro o e ⟨⟩
  obtain ⟨-, -, -, -, habsent, -⟩ := @not_found_translated _ .bare _ hnow call s
  refine ⟨hnow, (habsent "order" "1" (some error)).2 ?_⟩
  exact ⟨.delete "1" (.str "1"), error, by rfl, .delete (.str "1"), rfl, rfl⟩

end EntityStore
