import EntityStore.Proofs.Store.Draft
import EntityStore.Proofs.Store.Rejection
import EntityStore.Proofs.Store.Selection

/-!
# Calls on a database that can be depended on

A database can be depended on when a request that fails has no effect, when only requests to write
have one at all, and when the documents that it answers with are objects (`Backend.Dependable`).  Its
failures are its own: none is a rejection, and that a document is not there is said of a document
only that was asked for by its key.

A call on such a database that fails has changed no document, whatever it was for, and a call that
only reads changes none however it ends (`Call.run_failed`, `Call.run_reads`).  What kind of call it
is decides how it can fail and what it can be answered with (`Call.run_failsOnly`,
`Call.run_yields`): only a call to replace or to delete fails because a document is not there.
-/

namespace EntityStore

/-! ### What a database is depended on for -/

namespace Request

variable {κ : Type}

/-- A request that is not to write anything. -/
def Reads : Request κ → Prop
  | .read .. | .page .. => True
  | .create .. | .replace .. | .delete .. => False

/-- A request about one document that should be there. -/
def Addresses : Request κ → Prop
  | .read .. | .replace .. | .delete .. => True
  | .create .. | .page .. => False

/-- **A reply in which all documents are objects.** -/
def Objects : (q : Request κ) → q.Reply → Prop
  | .create .., v | .read .., v | .replace .., v => v.isObject = true
  | .delete .., _ => True
  | .page _ request, reply =>
    MemoryContainer.counts request.statement = false → ∀ v ∈ reply.items, v.isObject = true

end Request

/-- **A backend whose clock and source of ids can be depended on**: they leave the documents in a
state alone, and a clock that fails does so by a fault of its own. -/
structure Backend.Timely {σ κ D : Type} (b : Backend σ κ) (documents : σ → D) : Prop where
  now : ∀ o, documents (b.now o).2 = documents o
  newId : ∀ o, documents (b.newId o).2 = documents o
  now_fault : ∀ o e, (b.now o).1 = .error e → e.IsFault

/-- **A backend that can be depended on**, as far as the documents in a state are concerned. -/
structure Backend.Dependable {σ κ D : Type} (b : Backend σ κ) (documents : σ → D) : Prop
    extends b.Timely documents where
  provision : ∀ containerId path o, documents (b.provision containerId path o).2 = documents o
  reads : ∀ q o, q.Reads → documents (b.perform q o).2 = documents o
  fails : ∀ q o e, (b.perform q o).1 = .error e → documents (b.perform q o).2 = documents o
  objects : ∀ q o reply, (b.perform q o).1 = .ok reply → q.Objects reply
  provision_fault : ∀ containerId path o e, (b.provision containerId path o).1 = .error e →
    e.IsFault
  perform_occurs : ∀ q o e, (b.perform q o).1 = .error e → e.Occurs
  perform_absent : ∀ q o e, (b.perform q o).1 = .error e → e.isAbsent = true → q.Addresses

/-! ### Kinds of calls -/

/-- What a call is for. -/
inductive CallKind where
  | resolve
  | create
  | read
  | replace
  | delete
  | readMap
  | query
  | count

/-- The kind of a call. -/
def Call.kind : Call → CallKind
  | .resolve .. => .resolve
  | .create .. => .create
  | .read .. => .read
  | .replace .. => .replace
  | .delete .. => .delete
  | .readMap .. => .readMap
  | .query .. => .query
  | .count .. => .count

/-- The kind of a call that this work is left of. -/
def Work.kind : Work → CallKind
  | .resolve => .resolve
  | .create .. => .create
  | .read .. => .read
  | .replace .. => .replace
  | .delete .. => .delete
  | .readMap .. => .readMap
  | .query .. => .query
  | .count .. => .count

namespace CallKind

/-- The kinds of calls that write. -/
def Writes : CallKind → Prop
  | .create | .replace | .delete => True
  | _ => False

/-- The kinds of calls that need a document to be there. -/
def Needs : CallKind → Prop
  | .replace | .delete => True
  | _ => False

/-- **What a call of a kind is answered with.** -/
inductive Answers {κ : Type} : CallKind → Answer κ → Prop
  | resolve (handle : κ) : Answers .resolve (.container handle)
  | create {v : Value} (hv : v.isObject = true) : Answers .create (.document v)
  | read {v : Value} (hv : v.isObject = true) : Answers .read (.document v)
  | nothingRead : Answers .read .noDocument
  | replace {v : Value} (hv : v.isObject = true) : Answers .replace (.document v)
  | delete : Answers .delete .deleted
  | readMap (found : Entries String Value) : Answers .readMap (.documents found)
  | query (result : QueryResult) : Answers .query (.page result)
  | count (n : Int) : Answers .count (.count n)

end CallKind

/-- What a call of a kind is prepared to. -/
def Prepared.Suits {κ : Type} (kind : CallKind) : Prepared κ → Prop
  | .answered a => kind.Answers a
  | .ready _ work => work.kind = kind

/-! ### Kinds of failures -/

/-- Whether a failure says that a query or its filter is not valid. -/
def Failure.isOfQuery : Failure → Bool
  | .filter _ | .invalid .query _ => true
  | _ => false

/-- A failure that says neither that a query is not valid nor that a document is not there. -/
def Failure.IsPlain (e : Failure) : Prop := e.isOfQuery = false ∧ e.isAbsent = false

/-- **What a call of a kind fails with**, when its query is valid: that a document is not there only
if it needs one. -/
def CallKind.FailsWith (kind : CallKind) (e : Failure) : Prop :=
  e.isOfQuery = false ∧ (e.isAbsent = true → kind.Needs)

namespace Failure

variable {e : Failure}

/-- That a query is not valid is a rejection. -/
theorem Occurs.not_isOfQuery (h : e.Occurs) : e.isOfQuery = false := by
  cases e with
  | filter => cases h
  | invalid model =>
    cases model with
    | query => cases h
    | queryResult => rfl
  | _ => rfl

theorem IsFault.plain (h : e.IsFault) : e.IsPlain := ⟨h.occurs.not_isOfQuery, h.2⟩

theorem IsPlain.failsWith (h : e.IsPlain) (kind : CallKind) : kind.FailsWith e := by
  refine ⟨h.1, fun habsent => ?_⟩
  rw [h.2] at habsent
  contradiction

end Failure

/-- A computation that fails plainly can be part of a call of any kind. -/
theorem failsOnly_of_plain {S α : Type} {x : Run S α} (hx : Run.FailsOnly Failure.IsPlain x)
    (kind : CallKind) : Run.FailsOnly kind.FailsWith x :=
  hx.imp fun _ he => he.failsWith kind

section

variable {σ κ D : Type} {b : Backend σ κ} {documents : σ → D}

/-! ### What checks fail with -/

theorem require_plain {a : Argument} {text : Option String} {e : Failure}
    (h : require a text = .error e) : e.IsPlain := by
  unfold require at h
  split at h
  · split at h
    · cases h
      exact ⟨rfl, rfl⟩
    · cases h
  · cases h
    exact ⟨rfl, rfl⟩

theorem requireDocument_plain {v : Value} {e : Failure} (h : requireDocument v = .error e) :
    e.IsPlain := by
  unfold requireDocument at h
  split at h
  · cases h
    exact ⟨rfl, rfl⟩
  · cases h
  · cases h
    exact ⟨rfl, rfl⟩

theorem distinct_plain {items : List Value} {e : Failure} (h : distinct items = .error e) :
    e.IsPlain := by
  induction items with
  | nil => cases h
  | cons v r ih =>
    rw [distinct] at h
    split at h
    · cases h
      exact ⟨rfl, rfl⟩
    · exact ih (error_of_map h)

theorem requireIds_plain {ids : Value} {e : Failure} (h : requireIds ids = .error e) :
    e.IsPlain := by
  unfold requireIds at h
  split at h
  · cases h
    exact ⟨rfl, rfl⟩
  · split at h
    · cases h
      exact ⟨rfl, rfl⟩
    · exact distinct_plain h

theorem requirePartition_plain {config : ContainerConfig} {id : String} {partition : Value}
    {e : Failure} (h : requirePartition config id partition = .error e) : e.IsPlain := by
  unfold requirePartition at h
  split_ifs at h
  cases h
  exact ⟨rfl, rfl⟩

theorem inCalendar_plain {α : Type} {o : Option α} {e : Failure} (h : inCalendar o = .error e) :
    e.IsPlain := by
  cases o <;> cases h
  exact ⟨rfl, rfl⟩

/-- A query that is asked for is missing or not valid. -/
theorem requireQuery_fails {input : QueryInput} {e : Failure} (h : requireQuery input = .error e) :
    e.IsPlain ∨ e.isOfQuery = true := by
  unfold requireQuery at h
  split at h
  · cases h
  · cases h
    exact .inl ⟨rfl, rfl⟩
  · obtain ⟨faults, -, rfl⟩ := error_of_mapError h
    exact .inr rfl

theorem requireCounted_fails {input : QueryInput} {e : Failure}
    (h : requireCounted input = .error e) : e.IsPlain ∨ e.isOfQuery = true := by
  unfold requireCounted at h
  split at h
  · cases h
  · exact requireQuery_fails h

theorem lookup_plain {r : Registry} {entity : String} {e : Failure}
    (h : (r.lookup entity).1 = .error e) : e.IsPlain := by
  obtain ⟨rfl, -⟩ := Registry.lookup_error (Prod.ext h rfl)
  exact ⟨rfl, rfl⟩

/-! ### Preparing and resolving -/

/-- **A call whose query, if it has one, can be put into a statement.** -/
def Call.Stated : Call → Prop
  | .query _ input => ∃ q statement, input = .ready q ∧ Sql.selectStatement q = .ok statement
  | .count _ input => ∃ q statement, input = .ready q ∧ Sql.countStatement q = .ok statement
  | _ => True

theorem configOf_plain (entity : String) :
    Run.FailsOnly Failure.IsPlain (Session.configOf entity : Run (Session σ κ) _) :=
  fun _ _ h => lookup_plain h

/-- A call is prepared to what suits its kind. -/
theorem Call.prepare_yields (call : Call) :
    Run.Yields (Prepared.Suits call.kind) (call.prepare b) := by
  cases call with
  | resolve entity => exact Run.yields_pure rfl
  | create entity id document =>
    refine Run.yields_next fun entity => ?_
    refine Run.yields_next fun fields => ?_
    -- The id is either given or taken anew; what follows is the same.
    cases id <;>
      exact Run.yields_next fun given => Run.yields_next fun id => Run.yields_next fun now =>
        Run.yields_next fun body => Run.yields_pure rfl
  | replace entity id document =>
    refine Run.yields_next fun entity => ?_
    refine Run.yields_next fun id => ?_
    refine Run.yields_next fun fields => ?_
    refine Run.yields_next fun now => ?_
    exact Run.yields_next fun body => Run.yields_pure rfl
  | read entity id partition =>
    refine Run.yields_next fun entity => ?_
    exact Run.yields_next fun id => Run.yields_pure rfl
  | delete entity id partition =>
    refine Run.yields_next fun entity => ?_
    refine Run.yields_next fun id => ?_
    refine Run.yields_next fun config => ?_
    exact Run.yields_next fun partition => Run.yields_pure rfl
  | readMap entity partition ids =>
    refine Run.yields_next fun entity => ?_
    refine Run.yields_next fun ids => ?_
    -- Without ids there is nothing to look up.
    split
    · exact Run.yields_pure (.readMap [])
    · exact Run.yields_next fun config => Run.yields_pure rfl
  | query entity input | count entity input =>
    refine Run.yields_next fun entity => ?_
    refine Run.yields_next fun q => ?_
    refine Run.yields_next fun statement => ?_
    exact Run.yields_next fun s => Run.yields_pure rfl

/-- What preparing fails with, besides what its checks and the clock fail with, is that a query is
not valid; and not even that when the call is known to have a statement. -/
theorem Call.prepare_failsOnly_of {F : Failure → Prop} (hplain : ∀ e, Failure.IsPlain e → F e)
    (hnow : Run.FailsOnly F (Session.consult b.now : Run (Session σ κ) _)) {call : Call}
    (hquery : call.Stated ∨ ∀ e, Failure.isOfQuery e = true → F e) :
    Run.FailsOnly F (call.prepare b) := by
  -- The checks that preparing consists of, each with the kind of failure it has.
  have hrequire (a : Argument) (text : Option String) :
      Run.FailsOnly F (liftM (require a text) : Run (Session σ κ) _) :=
    Run.failsOnly_lift fun e h => hplain e (require_plain h)
  have hdocument (v : Value) :
      Run.FailsOnly F (liftM (requireDocument v) : Run (Session σ κ) _) :=
    Run.failsOnly_lift fun e h => hplain e (requireDocument_plain h)
  have hstamp {α : Type} (o : Option α) :
      Run.FailsOnly F (liftM (inCalendar o) : Run (Session σ κ) _) :=
    Run.failsOnly_lift fun e h => hplain e (inCalendar_plain h)
  have hconfig (entity : String) :
      Run.FailsOnly F (Session.configOf entity : Run (Session σ κ) _) :=
    (configOf_plain entity).imp hplain
  cases call with
  | resolve entity => exact Run.failsOnly_pure _
  -- A given id is passed on, and a new one is taken from outside; both are required then.
  | create entity id document =>
    refine Run.failsOnly_bind (hrequire _ _) fun entity => ?_
    refine Run.failsOnly_bind (hdocument _) fun fields => ?_
    cases id with
    | some id =>
      refine Run.failsOnly_bind (Run.failsOnly_pure id) fun id => ?_
      refine Run.failsOnly_bind (hrequire _ _) fun id => ?_
      refine Run.failsOnly_bind hnow fun now => ?_
      exact Run.failsOnly_bind (hstamp _) fun body => Run.failsOnly_pure _
    | none =>
      refine Run.failsOnly_bind (by rintro s e ⟨⟩) fun id => ?_
      refine Run.failsOnly_bind (hrequire _ _) fun id => ?_
      refine Run.failsOnly_bind hnow fun now => ?_
      exact Run.failsOnly_bind (hstamp _) fun body => Run.failsOnly_pure _
  | read entity id partition =>
    refine Run.failsOnly_bind (hrequire _ _) fun entity => ?_
    exact Run.failsOnly_bind (hrequire _ _) fun id => Run.failsOnly_pure _
  | replace entity id document =>
    refine Run.failsOnly_bind (hrequire _ _) fun entity => ?_
    refine Run.failsOnly_bind (hrequire _ _) fun id => ?_
    refine Run.failsOnly_bind (hdocument _) fun fields => ?_
    refine Run.failsOnly_bind hnow fun now => ?_
    exact Run.failsOnly_bind (hstamp _) fun body => Run.failsOnly_pure _
  | delete entity id partition =>
    refine Run.failsOnly_bind (hrequire _ _) fun entity => ?_
    refine Run.failsOnly_bind (hrequire _ _) fun id => ?_
    refine Run.failsOnly_bind (hconfig entity) fun config => ?_
    refine Run.failsOnly_bind (Run.failsOnly_lift fun e h => ?_) fun partition =>
      Run.failsOnly_pure _
    exact hplain e (requirePartition_plain h)
  | readMap entity partition ids =>
    refine Run.failsOnly_bind (hrequire _ _) fun entity => ?_
    refine Run.failsOnly_bind (Run.failsOnly_lift fun e h => ?_) fun ids => ?_
    · exact hplain e (requireIds_plain h)
    · split
      · exact Run.failsOnly_pure _
      · exact Run.failsOnly_bind (hconfig entity) fun config => Run.failsOnly_pure _
  | query entity input | count entity input =>
    refine Run.failsOnly_bind (hrequire _ _) fun entity => ?_
    rcases hquery with ⟨q, statement, rfl, hstatement⟩ | hquery
    · -- The query and its statement are there already.
      have hwords : inWords (.ok statement) = .ok statement := rfl
      rw [← hstatement] at hwords
      refine Run.failsOnly_lift_bind (a := q) rfl ?_
      refine Run.failsOnly_lift_bind hwords ?_
      exact Run.failsOnly_bind Run.failsOnly_get fun s => Run.failsOnly_pure _
    · refine Run.failsOnly_bind (Run.failsOnly_lift fun e h => ?_) fun q => ?_
      · have hfails : e.IsPlain ∨ e.isOfQuery = true := by
          first | exact requireQuery_fails h | exact requireCounted_fails h
        exact hfails.elim (hplain e) (hquery e)
      refine Run.failsOnly_bind (Run.failsOnly_lift fun e h => ?_) fun statement => ?_
      · obtain ⟨fault, -, rfl⟩ := error_of_mapError h
        exact hquery _ rfl
      exact Run.failsOnly_bind Run.failsOnly_get fun s => Run.failsOnly_pure _

theorem Call.prepare_failsOnly (hb : b.Dependable documents) {call : Call} (hcall : call.Stated) :
    Run.FailsOnly Failure.IsPlain (call.prepare b) := by
  -- The clock is all that is consulted for a result that may be missing; the rest are checks.
  have hnow : Run.FailsOnly Failure.IsPlain (Session.consult b.now : Run (Session σ κ) _) :=
    fun s e h => (hb.now_fault s.outside e h).plain
  exact prepare_failsOnly_of (fun _ => id) hnow (.inl hcall)

/-- A container is resolved, or its entity is unknown, or provisioning it fails. -/
theorem resolve_failsOnly (hb : b.Dependable documents) (entity : String) :
    Run.FailsOnly Failure.IsPlain (Session.resolve b entity : Run (Session σ κ) κ) := by
  intro s e h
  cases hhandle : s.router.handles.get? entity with
  | some handle =>
    rw [Session.resolve_cached hhandle] at h
    cases h
  | none =>
    rcases hlookup : s.router.registry.lookup entity with ⟨e' | config, registry⟩
    · rw [Session.resolve_unknown hhandle hlookup] at h
      cases h
      exact lookup_plain (congrArg Prod.fst hlookup)
    · obtain ⟨-, hendless | hanswer⟩ := Session.resolve_known (b := b) hhandle hlookup
      · rw [h] at hendless
        cases hendless
        exact ⟨rfl, rfl⟩
      · rw [h] at hanswer
        exact (hb.provision_fault _ _ _ e hanswer.symm).plain

/-! ### Working -/

/-- A request fails as the database does. -/
theorem consult_failsOnly (hb : b.Dependable documents) (q : Request κ) :
    Run.FailsOnly (fun e => e.isOfQuery = false ∧ (e.isAbsent = true → q.Addresses))
      (Session.consult (b.perform q) : Run (Session σ κ) q.Reply) :=
  fun s e h => ⟨(hb.perform_occurs q s.outside e h).not_isOfQuery, hb.perform_absent q s.outside e h⟩

/-- A page is not asked for by a key. -/
theorem page_failsOnly (hb : b.Dependable documents) (container : κ) (request : PageRequest) :
    Run.FailsOnly Failure.IsPlain
      (Session.consult (b.perform (.page container request)) : Run (Session σ κ) Page) := by
  intro s e h
  obtain ⟨hquery, haddresses⟩ := consult_failsOnly hb (.page container request) s e h
  exact ⟨hquery, Bool.eq_false_iff.2 haddresses⟩

theorem readItem_failsOnly (hb : b.Dependable documents) (container : κ) (id : String)
    (partition : Value) :
    Run.FailsOnly Failure.IsPlain (readItem b container id partition : Run (Session σ κ) _) :=
  failsOnly_readItem (consult_failsOnly hb _) fun _ he habsent => ⟨he.1, habsent⟩

/-- **Work fails as a call of its kind does.** -/
theorem perform_failsOnly (hb : b.Dependable documents) (entity : String) (container : κ)
    (work : Work) : Run.FailsOnly work.kind.FailsWith (work.perform b entity container) := by
  cases work with
  | resolve => exact Run.failsOnly_pure _
  | create body =>
    exact Run.failsOnly_bind (consult_failsOnly hb (.create container body)) fun v =>
      Run.failsOnly_pure _
  | replace id body =>
    exact Run.failsOnly_bind (consult_failsOnly hb (.replace container id body)) fun v =>
      Run.failsOnly_pure _
  | delete id partition =>
    exact Run.failsOnly_bind (consult_failsOnly hb (.delete container id partition)) fun v =>
      Run.failsOnly_pure _
  | read id partition =>
    refine failsOnly_of_plain ?_ _
    rw [Work.perform]
    -- Without a partition the way of reading depends on the configuration.
    split
    · refine Run.failsOnly_bind (configOf_plain entity) fun config => ?_
      split
      · exact readItem_failsOnly hb container id (.str id)
      · exact failsOnly_findItem (fun _ => Failure.IsFault.plain) (page_failsOnly hb container) id
    · exact readItem_failsOnly hb container id partition
  | readMap request =>
    exact failsOnly_of_plain (failsOnly_readMap (fun _ => Failure.IsFault.plain)
      (page_failsOnly hb container) entity request) _
  | query request =>
    exact failsOnly_of_plain (failsOnly_query (fun _ => Failure.IsFault.plain)
      (page_failsOnly hb container) entity request) _
  | count request =>
    exact failsOnly_of_plain (failsOnly_count (fun _ => Failure.IsFault.plain)
      (page_failsOnly hb container) entity request) _

/-- What the database replies holds objects. -/
theorem consult_yields (hb : b.Dependable documents) (q : Request κ) :
    Run.Yields q.Objects (Session.consult (b.perform q) : Run (Session σ κ) q.Reply) :=
  fun s reply h => hb.objects q s.outside reply h

theorem readItem_yields (hb : b.Dependable documents) (container : κ) (id : String)
    (partition : Value) :
    Run.Yields CallKind.read.Answers
      (readItem b container id partition : Run (Session σ κ) (Answer κ)) := by
  refine Run.yields_tryCatch (fun e => ?_) ?_
  · split
    · exact Run.yields_pure .nothingRead
    · exact Run.yields_throw _
  · exact Run.yields_bind (consult_yields hb (.read container id partition)) fun v hv =>
      Run.yields_pure (.read hv)

/-- What is found is an item of a page of documents. -/
theorem findItem_yields (hb : b.Dependable documents) (container : κ) (id : String) :
    Run.Yields CallKind.read.Answers
      (findItem b container id : Run (Session σ κ) (Answer κ)) := by
  refine Run.yields_next fun s => ?_
  let found (o : Option Value) : Prop := ∀ v, o = some v → v.isObject = true
  have hstart : found none := by
    rintro v ⟨⟩
  refine Run.yields_bind (P := found) ?_ fun o ho => ?_
  · refine yields_drain (Q := fun page => ∀ v ∈ page.items, v.isObject = true)
      (fun request hrequest => ?_) (fun _ hitems h => absorbFirst_finds hitems h) _
      (lookupRequest id) rfl none hstart
    have hcounts := MemoryContainer.counts_lookup id
    rw [← hrequest] at hcounts
    intro s page h
    exact consult_yields hb (.page container request) s page h hcounts
  · cases o with
    | none => exact Run.yields_pure .nothingRead
    | some v =>
      refine Run.yields_pure ?_
      split
      · exact .nothingRead
      · exact .read (ho v rfl)

/-- **Work is answered as a call of its kind is.** -/
theorem perform_yields (hb : b.Dependable documents) (entity : String) (container : κ)
    (work : Work) : Run.Yields work.kind.Answers (work.perform b entity container) := by
  cases work with
  | resolve => exact Run.yields_pure (.resolve container)
  | create body =>
    exact Run.yields_bind (consult_yields hb (.create container body)) fun v hv =>
      Run.yields_pure (.create hv)
  | replace id body =>
    exact Run.yields_bind (consult_yields hb (.replace container id body)) fun v hv =>
      Run.yields_pure (.replace hv)
  | delete id partition => exact Run.yields_next fun _ => Run.yields_pure .delete
  | read id partition =>
    rw [Work.perform]
    -- Without a partition the way of reading depends on the configuration.
    split
    · refine Run.yields_next fun config => ?_
      split
      · exact readItem_yields hb container id (.str id)
      · exact findItem_yields hb container id
    · exact readItem_yields hb container id partition
  | readMap request =>
    exact Run.yields_next fun s => Run.yields_next fun found => Run.yields_pure (.readMap found)
  | count request =>
    exact Run.yields_next fun s => Run.yields_next fun total => Run.yields_pure (.count total)
  | query request =>
    exact Run.yields_next fun page => Run.yields_next fun result =>
      Run.yields_pure (.query result)

/-! ### What is left as it is -/

/-- No document has changed. -/
def Session.Untouched (documents : σ → D) (s s' : Session σ κ) : Prop :=
  documents s'.outside = documents s.outside

instance (documents : σ → D) : IsPreorder (Session σ κ) (Session.Untouched documents) where
  refl _ := rfl
  trans _ _ _ h h' := Eq.trans h' h

theorem Call.prepare_untouched (hb : b.Dependable documents) (call : Call) :
    Run.Keeps (Session.Untouched documents) (call.prepare b) :=
  fun s => (prepare_approached call s).outside.view_eq hb.now hb.newId

theorem resolve_untouched (hb : b.Dependable documents) (entity : String) :
    Run.Keeps (Session.Untouched documents) (Session.resolve b entity : Run (Session σ κ) κ) := by
  intro s
  unfold Session.resolve
  rcases s.router.request 0 entity with ⟨result | config | config, router⟩
  · exact rfl
  · exact rfl
  · exact hb.provision config.containerId config.partitionPath s.outside

/-- **Work that only reads changes nothing**, however it ends. -/
theorem perform_untouched (hb : b.Dependable documents) (entity : String) (container : κ)
    {work : Work} (hwork : ¬ work.kind.Writes) :
    Run.Keeps (Session.Untouched documents) (work.perform b entity container) := by
  refine keeps_perform entity work (fun s => rfl) ?_ ?_ ?_ (fun id partition s => ?_)
    fun request s => ?_
  -- The requests to write belong to work that writes.
  · rintro body rfl
    exact absurd trivial hwork
  · rintro id body rfl
    exact absurd trivial hwork
  · rintro id partition rfl
    exact absurd trivial hwork
  · exact hb.reads (.read container id partition) s.outside trivial
  · exact hb.reads (.page container request) s.outside trivial

/-- **Work that fails has changed nothing.** -/
theorem perform_failed (hb : b.Dependable documents) {entity : String} {container : κ}
    {work : Work} {s s' : Session σ κ} {e : Failure}
    (h : work.perform b entity container s = (.error e, s')) : s.Untouched documents s' := by
  -- Work that writes makes one request, which has failed.
  have hrequest {q : Request κ} {f : q.Reply → Answer κ}
      (h : (Session.consult (b.perform q) >>= fun reply => pure (f reply)) s = (.error e, s')) :
      s.Untouched documents s' := by
    rcases Run.of_bind h with ⟨e', hconsult, -⟩ | ⟨reply, s₁, -, h⟩
    · obtain ⟨hfailed, rfl⟩ := Session.of_consult hconsult
      exact hb.fails q s.outside e' hfailed
    · cases h
  have hreads (hwork : ¬ work.kind.Writes) : s.Untouched documents s' :=
    (perform_untouched hb entity container hwork).of_eq h
  cases work with
  | create | replace | delete => exact hrequest h
  | resolve | read | readMap | query | count => exact hreads id

/-! ### Whole calls -/

/-- **A call fails in the ways of its kind.** -/
theorem Call.run_failsOnly (hb : b.Dependable documents) {call : Call} (hcall : call.Stated) :
    Run.FailsOnly call.kind.FailsWith (call.run b) := by
  have hprepare := failsOnly_of_plain (Call.prepare_failsOnly hb hcall) call.kind
  refine Run.failsOnly_bind_yields hprepare call.prepare_yields ?_
  intro prepared hsuits
  cases prepared with
  | answered a => exact Run.failsOnly_pure a
  | ready entity work =>
    have hkind : work.kind = call.kind := hsuits
    have hresolve := failsOnly_of_plain (resolve_failsOnly hb entity) call.kind
    refine Run.failsOnly_bind hresolve fun container => ?_
    rw [← hkind]
    exact perform_failsOnly hb entity container work

/-- **A call is answered in the ways of its kind.** -/
theorem Call.run_yields (hb : b.Dependable documents) (call : Call) :
    Run.Yields call.kind.Answers (call.run b) := by
  refine Run.yields_bind call.prepare_yields fun prepared hsuits => ?_
  cases prepared with
  | answered a => exact Run.yields_pure hsuits
  | ready entity work =>
    have hkind : work.kind = call.kind := hsuits
    refine Run.yields_next fun container => ?_
    rw [← hkind]
    exact perform_yields hb entity container work

/-- **A call that only reads changes nothing**, however it ends. -/
theorem Call.run_reads (hb : b.Dependable documents) {call : Call} (hcall : ¬ call.kind.Writes) :
    Run.Keeps (Session.Untouched documents) (call.run b) := by
  refine Run.keeps_bind_yields (call.prepare_untouched hb) call.prepare_yields ?_
  intro prepared hsuits
  cases prepared with
  | answered a => exact Run.keeps_pure a
  | ready entity work =>
    have hkind : work.kind = call.kind := hsuits
    rw [← hkind] at hcall
    refine Run.keeps_bind (resolve_untouched hb entity) fun container => ?_
    exact perform_untouched hb entity container hcall

/-- **A call that fails has changed nothing.** -/
theorem Call.run_failed (hb : b.Dependable documents) {call : Call} {s s' : Session σ κ}
    {e : Failure} (h : call.run b s = (.error e, s')) : s.Untouched documents s' := by
  have hprepare := call.prepare_untouched hb s
  rcases Run.of_bind h with ⟨e', hfailed, -⟩ | ⟨prepared, s₁, hprepared, h⟩
  · rw [hfailed] at hprepare
    exact hprepare
  rw [hprepared] at hprepare
  cases prepared with
  | answered a => cases h
  | ready entity work =>
    have hresolve := resolve_untouched hb entity s₁
    rcases Run.of_bind h with ⟨e', hfailed, -⟩ | ⟨container, s₂, hresolved, h⟩
    · rw [hfailed] at hresolve
      exact IsTrans.trans s s₁ s' hprepare hresolve
    · rw [hresolved] at hresolve
      have hperform := perform_failed hb h
      exact IsTrans.trans s s₂ s' (IsTrans.trans s s₁ s₂ hprepare hresolve) hperform

end

end EntityStore
