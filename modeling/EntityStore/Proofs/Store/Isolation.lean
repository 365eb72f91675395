import EntityStore.Proofs.Store.Drawn
import EntityStore.Proofs.Store.LastWrite
import EntityStore.Proofs.Store.Twins

/-!
# Entities in different containers do not meet

Nothing keeps two entities from having the same container, and then the calls of one find, change
and count what the calls of the other have written (`shared_container`).  An entity that is registered
on first use can even come into the container of another by its name alone, and as that container is
not partitioned on the id, its documents are not found again (`own_container_taken`).  Entities in
different containers do not meet (`calls_isolated`): what a call of one is answered with has been written
last for entities in its own container, a call of another leaves the documents of the container
alone, and how calls on a container are answered depends on no other calls.

The clock and the source of ids are there for all calls.  So the last is said of runs in which the
calls on the container are shown the same; the stamped times and the new ids are no more than that.
-/

namespace EntityStore

/-! ### Calls one after the other -/

/-- A call that has been made: what it was shown by the source of ids and by the clock, and what it
has come to. -/
structure Made where
  call : Call
  shown : Option String × Option (Except Failure DateTime)
  result : Except Failure (Answer String)

/-- A call and what it was shown. -/
def Made.asked (m : Made) : Call × Option String × Option (Except Failure DateTime) :=
  (m.call, m.shown)

/-- The calls that are about a container. -/
def concerning (registry : Registry) (container : String) (made : List Made) : List Made :=
  made.filter fun m => m.call.containerId? registry = some container

namespace Session

variable {σ : Type}

/-- **Makes calls one after the other**: the calls that have been made, and the session after
them. -/
def make (b : Backend σ String) : List Call → Session σ String → List Made × Session σ String
  | [], s => ([], s)
  | call :: calls, s =>
    let (result, s') := call.run b s
    let (made, s'') := make b calls s'
    (⟨call, call.shown b s.outside, result⟩ :: made, s'')

/-- The documents that calls write one after the other, the first of which has this number. -/
def writes (b : Backend σ String) : Nat → List Call → Session σ String → List (Write String)
  | _, [], _ => []
  | i, call :: calls, s =>
    let (result, s') := call.run b s
    Crew.writeOf i (.starting call) (.finished result) s'.router ++ writes b (i + 1) calls s'

end Session

section

variable {σ : Type} {b : Backend σ String} {memory : σ → Memory} {registry : Registry}
  {container : String} {s s' : Session σ String}

open Session

/-! ### Calls on other containers -/

theorem concerning_make_nil : concerning registry container (s.make b []).1 = [] := rfl

theorem concerning_make_own {call : Call} (hown : call.containerId? registry = some container)
    (calls : List Call) :
    concerning registry container (s.make b (call :: calls)).1
      = ⟨call, call.shown b s.outside, (call.run b s).1⟩
        :: concerning registry container ((call.run b s).2.make b calls).1 :=
  List.filter_cons_of_pos (decide_eq_true hown)

theorem concerning_make_other {call : Call} (hother : call.containerId? registry ≠ some container)
    (calls : List Call) :
    concerning registry container (s.make b (call :: calls)).1
      = concerning registry container ((call.run b s).2.make b calls).1 :=
  List.filter_cons_of_neg (by simpa using hother)

/-- **Up to the next call on a container** a session stays the same for the container. -/
theorem make_next (hb : b.InMemory memory) (h : s.InOrder memory)
    (hregistry : registry.Agrees s.router.registry) (container : String) (calls : List Call) :
    (concerning registry container (s.make b calls).1 = []
        ∧ s.SameFor memory container (s.make b calls).2 ∧ (s.make b calls).2.InOrder memory)
      ∨ ∃ call rest t, call.containerId? registry = some container
        ∧ s.SameFor memory container t ∧ t.InOrder memory ∧ rest.length < calls.length
        ∧ concerning registry container (s.make b calls).1
          = ⟨call, call.shown b t.outside, (call.run b t).1⟩
            :: concerning registry container ((call.run b t).2.make b rest).1
        ∧ (s.make b calls).2 = ((call.run b t).2.make b rest).2 := by
  induction calls generalizing s with
  | nil => exact .inl ⟨rfl, Std.Refl.refl s, h⟩
  | cons call calls ih =>
    have hcourse := call.course hb h
    by_cases hown : call.containerId? registry = some container
    · -- The first call is on the container.
      exact .inr ⟨call, calls, s, hown, Std.Refl.refl s, h, Nat.lt_succ_self _,
        concerning_make_own hown calls, rfl⟩
    · -- It is on another one, and leaves the container alone.
      have hother : call.containerId? s.router.registry ≠ some container := by
        rw [Call.containerId?_congr hregistry]
        exact hown
      have hsame : s.SameFor memory container (call.run b s).2 := hcourse.sameFor hb hother
      rw [concerning_make_other hown]
      rcases ih (hcourse.inOrder hb h) (hregistry.trans hcourse.agrees) with
        ⟨hnone, hend, hinOrder⟩ | ⟨next, rest, t, hnext, ht, hinOrder, hshorter, hmade, hend⟩
      · exact .inl ⟨hnone, IsTrans.trans _ _ _ hsame hend, hinOrder⟩
      · exact .inr ⟨next, rest, t, hnext, IsTrans.trans _ _ _ hsame ht, hinOrder,
          hshorter.trans (Nat.lt_succ_self _), hmade, hend⟩

/-- **Runs in which the same is asked of a container**, and the same is shown, are answered alike
and leave twins behind. -/
theorem make_twins (hb : b.InMemory memory) (hpatient : b.Patient memory)
    (h : s.Twins memory container s') (hregistry : registry.Agrees s.router.registry)
    (calls calls' : List Call)
    (hasked : (concerning registry container (s.make b calls).1).map Made.asked
      = (concerning registry container (s'.make b calls').1).map Made.asked) :
    (concerning registry container (s.make b calls).1).map Made.result
        = (concerning registry container (s'.make b calls').1).map Made.result
      ∧ (s.make b calls).2.Twins memory container (s'.make b calls').2 := by
  -- Calls on other containers are passed over, so what is left need not be the next tail.
  induction hlength : calls.length using Nat.strong_induction_on generalizing s s' calls calls' with
  | _ n ih =>
  have hregistry' := hregistry.trans h.same.registry
  rcases make_next hb h.left hregistry container calls with
    ⟨hmade, hend, hinOrder⟩ | ⟨call, rest, t, hown, ht, hinOrder, hshorter, hmade, hend⟩ <;>
  rcases make_next hb h.right hregistry' container calls' with
    ⟨hmade', hend', hinOrder'⟩ | ⟨call', rest', t', -, ht', hinOrder', -, hmade', hend'⟩ <;>
  rw [hmade, hmade'] at hasked ⊢
  · -- On neither side is a call on the container left.
    exact ⟨rfl, h.step hinOrder hinOrder' hend hend'⟩
  -- A run with a call on the container and one without have not been asked the same.
  · cases hasked
  · cases hasked
  · -- Both sides come to the same call, and are twins when it is made and afterwards.
    obtain ⟨hfirst, hrest⟩ := List.cons_eq_cons.1 hasked
    obtain rfl : call = call' := congrArg Prod.fst hfirst
    have hshown : call.shown b t'.outside = call.shown b t.outside :=
      (congrArg Prod.snd hfirst).symm
    have hknown : registry.Agrees t.router.registry := hregistry.trans ht.registry
    obtain ⟨hsame, hafter⟩ := Call.run_twins hb hpatient (h.step hinOrder hinOrder' ht ht')
      ((Call.containerId?_congr hknown call).trans hown) hshown
    obtain ⟨hresults, htwins⟩ := ih rest.length (hlength ▸ hshorter) hafter
      (hknown.trans (call.course hb hinOrder).agrees) rest rest' hrest rfl
    rw [hend, hend', List.map_cons, List.map_cons, hresults]
    refine ⟨?_, htwins⟩
    show (call.run b t).1 :: _ = (call.run b t').1 :: _
    rw [hsame]

/-! ### Calls that have written -/

/-- Resolving takes no entries away and adds none. -/
theorem Session.Resolved.within {entity : String} {config : ContainerConfig}
    (h : s.Resolved memory entity config s') :
    (memory s.outside).Within (memory s'.outside) := by
  refine .of_container fun id => ?_
  have hkept {m m' : Memory} (hsame : m'.containers.get? id = m.containers.get? id) :
      m'.container id = m.container id := by
    rw [Memory.container, Memory.container, hsame]
  -- Containers other than the one resolved have not changed.
  by_cases hid : id = config.containerId
  case neg => exact .inl (hkept (h.others id hid))
  subst hid
  have hown := h.own
  split at hown
  case isFalse => exact .inl (hkept hown)
  case isTrue =>
    -- It has been there before, or it is new and empty.
    cases hold : (memory s.outside).containers.get? config.containerId with
    | some c =>
      rw [hold, Option.getD_some, ← hold] at hown
      exact .inl (hkept hown)
    | none =>
      right
      rw [hold, Option.getD_none] at hown
      rw [Memory.container, hown, Option.getD_some]

/-- **What is known after calls that have been made one after the other**: each write has gone to
the container that its call is about, and every entry is what the last one under its key has
left. -/
structure Session.Logged (memory : σ → Memory) (registry : Registry) (calls : List Call)
    (writes : List (Write String)) (s : Session σ String) : Prop where
  order : s.InOrder memory
  agrees : registry.Agrees s.router.registry
  kept : Crew.Kept memory writes ⟨s, []⟩
  through : ∀ w ∈ writes, ∃ call entity config, calls[w.task]? = some call
    ∧ call.writesFor? = some entity ∧ (registry.lookup entity).1 = .ok config
    ∧ config.containerId = w.container

/-- **A call writes to the container that it is about**, or it writes nothing. -/
theorem Session.Logged.call (hb : b.InMemory memory) {calls : List Call}
    {writes : List (Write String)} (h : s.Logged memory registry calls writes) {i : Nat}
    {call : Call} (hcall : calls[i]? = some call) {result : Except Failure (Answer String)}
    (hcourse : call.Course b memory s result s') :
    s'.Logged memory registry calls
      (writes ++ Crew.writeOf i (.starting call) (.finished result) s'.router) := by
  have horder := hcourse.inOrder hb h.order
  have hagrees := h.agrees.trans hcourse.agrees
  -- Only a create or a replace that is answered adds to the log.
  have hunwritten (hkept : Crew.Kept memory writes ⟨s', []⟩)
      (hnone : Crew.writeOf i (.starting call) (.finished result) s'.router = []) :
      s'.Logged memory registry calls
        (writes ++ Crew.writeOf i (.starting call) (.finished result) s'.router) := by
    rw [hnone, List.append_nil]
    exact ⟨horder, hagrees, hkept, h.through⟩
  cases hcourse with
  -- The call ends before its container is resolved.
  | ended hresult happroached =>
    have hsame := congrArg (·.containers) (happroached.outside.memory_eq hb)
    refine hunwritten (h.kept.within (.of_containers hsame)) (Crew.writeOf_of_not_answered ?_)
    rcases hresult with ⟨e, rfl⟩ | rfl <;> rfl
  | @works entity work config s₁ s₂ _ _ hprepare hknown hs₂ hresolved hperform =>
    have happroached := (Call.prepare_approached call).of_eq hprepare
    -- Provisioning may add a container without documents.
    have hkept : Crew.Kept memory writes ⟨s₂, []⟩ := by
      refine h.kept.within ?_
      dsimp only
      rw [← happroached.outside.memory_eq hb]
      exact hresolved.within
    have hwrites : call.writesFor? = work.body?.map fun _ => entity :=
      Crew.Reached.writesFor (.starting hprepare)
    cases hbody : work.body? with
    | none =>
      rw [hbody] at hwrites
      exact hunwritten (hkept.within (perform_within hb hbody hperform))
        (Crew.writeOf_of_not_writes hwrites)
    | some body =>
      rw [hbody] at hwrites
      rcases perform_writes hb hbody (Call.prepare_replace_id hprepare body) hperform with
        ⟨e, rfl, hsame⟩ | ⟨rfl, hwrote⟩
      · exact hunwritten (hkept.within (.of_containers (congrArg (·.containers) hsame)))
          (Crew.writeOf_of_not_answered rfl)
      · -- The handle that is kept tells through which container the write has gone.
        have halike := (perform_alike b entity config.containerId work).of_eq hperform
        have hhandle : s'.router.handles.get? entity = some config.containerId := by
          rw [halike.router.handles, hresolved.handles, if_pos rfl]
        have hfor : (Stage.starting call : Stage String).writesFor? = some entity := hwrites
        rw [Crew.writeOf_of_answered hfor rfl hhandle]
        refine ⟨horder, hagrees, hkept.wrote hwrote, ?_⟩
        intro w hw
        rcases List.mem_append.1 hw with hw | hw
        · exact h.through w hw
        · rw [List.mem_singleton.1 hw]
          exact ⟨call, entity, config, hcall, hwrites, (h.agrees entity).symm.trans hknown, rfl⟩

/-- **A whole run keeps the log.** -/
theorem Session.Logged.make (hb : b.InMemory memory) {all calls : List Call}
    {writes : List (Write String)} (h : s.Logged memory registry all writes) {i : Nat}
    (hcalls : all.drop i = calls) :
    (s.make b calls).2.Logged memory registry all (writes ++ s.writes b i calls) := by
  induction calls generalizing s writes i with
  | nil =>
    rw [Session.writes, List.append_nil]
    exact h
  | cons call calls ih =>
    have hcall : all[i]? = some call := by rw [← List.head?_drop, hcalls, List.head?_cons]
    have hrest : all.drop (i + 1) = calls := by rw [← List.tail_drop, hcalls, List.tail_cons]
    have hwrites : s.writes b i (call :: calls)
        = Crew.writeOf i (.starting call) (.finished (call.run b s).1) (call.run b s).2.router
          ++ (call.run b s).2.writes b (i + 1) calls := rfl
    rw [hwrites, ← List.append_assoc]
    exact ih (h.call hb hcall (call.course hb h.order)) hrest

end

/-! ### Isolation -/

/-- **Entities in different containers do not meet**, over a database in memory that was empty,
however many calls have been made one after the other and whatever entities they were about.

An entry of a container is what a call on this container has written last.  A call on another
container leaves the documents of the container as they are.  What a call on the container is
answered with is drawn from it.  And calls on the container are answered as they are in any other
run from a session that is the same for the container, with whatever calls on other containers in
between, as long as the clock and the source of ids show the same to the calls on the
container. -/
theorem calls_isolated {σ : Type} (b : Backend σ String) (memory : σ → Memory)
    (hb : b.InMemory memory) (hpatient : b.Patient memory) (s : Session σ String)
    (h : s.InOrder memory) (hempty : (memory s.outside).containers = []) (container : String) :
    let registry := s.router.registry
    let documents (s : Session σ String) := ((memory s.outside).container container).documents
    (∀ calls, ∀ p ∈ documents (s.make b calls).2, ∃ w call entity config,
        LastWritten (s.writes b 0 calls) container
          ((memory (s.make b calls).2.outside).container container) p w
        ∧ calls[w.task]? = some call ∧ call.writesFor? = some entity
        ∧ (registry.lookup entity).1 = .ok config ∧ config.containerId = container)
      ∧ (∀ (calls : List Call) (call : Call), call.containerId? registry ≠ some container →
        documents (call.run b (s.make b calls).2).2 = documents (s.make b calls).2)
      ∧ (∀ (calls : List Call) (call : Call), call.containerId? registry = some container →
        ∀ (a : Answer String) (s' : Session σ String),
          call.run b (s.make b calls).2 = (.ok a, s') →
          a.DrawnFrom ((memory s'.outside).container container))
      ∧ ∀ s' : Session σ String, s'.InOrder memory → s.SameFor memory container s' →
        ∀ calls calls',
          (concerning registry container (s.make b calls).1).map Made.asked
            = (concerning registry container (s'.make b calls').1).map Made.asked →
          (concerning registry container (s.make b calls).1).map Made.result
              = (concerning registry container (s'.make b calls').1).map Made.result
            ∧ documents (s'.make b calls').2 = documents (s.make b calls).2 := by
  intro registry documents
  have hlogged (calls : List Call) : (s.make b calls).2.Logged memory registry calls
      (s.writes b 0 calls) :=
    Session.Logged.make hb ⟨h, fun _ => rfl, Crew.kept_starting hempty, fun w hw =>
      absurd hw List.not_mem_nil⟩ List.drop_zero
  refine ⟨?_, ?_, ?_, ?_⟩
  · -- The call that has written a stored document last names an entity of the container.
    intro calls p hp
    obtain ⟨w, hlast⟩ := (hlogged calls).kept.last container p hp
    obtain ⟨earlier, later, hwrites, -⟩ := hlast.last
    obtain ⟨call, entity, config, hcall, hentity, hknown, hcontainer⟩ := (hlogged calls).through w
      (by rw [hwrites]; exact List.mem_append_right _ List.mem_cons_self)
    exact ⟨w, call, entity, config, hlast, hcall, hentity, hknown, hcontainer.trans hlast.container⟩
  · -- A call on another container leaves the documents alone.
    intro calls call hother
    have hcourse := call.course hb (hlogged calls).order
    rw [← Call.containerId?_congr (hlogged calls).agrees] at hother
    exact congrArg (·.documents) (hcourse.sameFor hb hother).container_eq
  · -- A call on the container is answered with its documents.
    intro calls call hown a s' hrun
    have hcourse := call.course hb (hlogged calls).order
    rw [hrun] at hcourse
    rw [← Call.containerId?_congr (hlogged calls).agrees] at hown
    exact hcourse.drawn hb hown
  · -- Calls on other containers make no difference to what the others are answered.
    intro s' hs' hsame calls calls' hasked
    obtain ⟨hresults, htwins⟩ := make_twins hb hpatient ⟨h, hs', hsame⟩ (fun _ => rfl) calls calls'
      hasked
    exact ⟨hresults, congrArg (·.documents) htwins.same.container_eq⟩

namespace TwoContainers

/-- A session over an empty database, when the clock shows so many seconds. -/
def start (seconds : Nat) : Session LocalState String :=
  ⟨{ registry := .ofList [⟨"customer", "customers", "id"⟩, ⟨"order", "orders", "tenantId"⟩] true },
    10, { clock := ⟨⟨2024, 1, 1⟩, 0, 0, seconds, 0, none⟩, ids := ⟨[], 0⟩ }⟩

def customer : Call := .create (some "customer") (some "1") (.object [])

def drop : Call := .delete (some "customer") (some "1") .null

def order : Call := .create (some "order") (some "1") (.object [("tenantId", .str "a")])

def find : Call := .read (some "order") (some "1") (.str "a")

/-- A customer has the id of the order, and is deleted again. -/
def mixed : List Call := [customer, order, drop, find]

def alone : List Call := [order, find]

theorem order_shown {o o' : LocalState} (h : o'.clock = o.clock) :
    order.shown LocalState.backend o' = order.shown LocalState.backend o := by
  show (none, some (LocalState.now o').1) = (none, some (LocalState.now o).1)
  rw [LocalState.now, LocalState.now, h]
  split <;> rfl

end TwoContainers

open TwoContainers in
/-- The order is found whether or not there has been a customer.  The clock goes on by a second when
the customer is written, so without the customer it starts a second later. -/
theorem calls_isolated_orders :
    let b := LocalState.backend
    let made := concerning (start 0).router.registry "orders"
    let documents (s : Session LocalState String) :=
      ((LocalState.memory s.outside).container "orders").documents
    (start 0).InOrder LocalState.memory
      ∧ (start 0).SameFor LocalState.memory "orders" (start 1)
      ∧ (documents ((start 0).make b mixed).2).length = 1
      ∧ (made ((start 0).make b mixed).1).map Made.result
        = (made ((start 1).make b alone).1).map Made.result
      ∧ documents ((start 1).make b alone).2 = documents ((start 0).make b mixed).2 := by
  intro b made documents
  have hinOrder (seconds : Nat) : (start seconds).InOrder LocalState.memory :=
    .of_opened ⟨Int.le_refl 0, rfl, fun n hn => by cases hn⟩ rfl rfl
  have hsame : (start 0).SameFor LocalState.memory "orders" (start 1) :=
    ⟨fun _ => rfl, rfl, fun _ _ => rfl, rfl, rfl⟩
  have hshown : order.shown b (customer.run b (start 0)).2.outside
      = order.shown b (start 1).outside :=
    order_shown (by decide +kernel)
  -- What is asked of the container is told call by call, without running the others.
  have hasked : (made ((start 0).make b mixed).1).map Made.asked
      = (made ((start 1).make b alone).1).map Made.asked := by
    let registry := (start 0).router.registry
    have hcustomer : customer.containerId? registry ≠ some "orders" := by decide
    have hdrop : drop.containerId? registry ≠ some "orders" := by decide
    have horder : order.containerId? registry = some "orders" := by decide
    have hfind : find.containerId? registry = some "orders" := by decide
    have hfindShown (o : LocalState) : find.shown b o = (none, none) := rfl
    dsimp only [made, mixed, alone]
    rw [concerning_make_other hcustomer, concerning_make_own horder, concerning_make_other hdrop,
      concerning_make_own hfind, concerning_make_own horder, concerning_make_own hfind]
    simp only [concerning_make_nil, List.map_cons, Made.asked, hshown, hfindShown]
  obtain ⟨-, -, -, halike⟩ := calls_isolated b LocalState.memory LocalState.backend_inMemory
    LocalState.backend_patient (start 0) (hinOrder 0) rfl "orders"
  obtain ⟨hresults, hdocuments⟩ := halike (start 1) (hinOrder 1) hsame mixed alone hasked
  exact ⟨hinOrder 0, hsame, by decide +kernel, hresults, hdocuments⟩

namespace SharedContainer

/-- Two entities in one container. -/
def data : Value :=
  let entry (entity : String) : Value :=
    .object [("entityName", .str entity), ("containerId", .str "shared")]
  .object [("containers", .list [entry "order", entry "invoice"])]

def configs : List ContainerConfig := [⟨"order", "shared", "id"⟩, ⟨"invoice", "shared", "id"⟩]

def start : Session LocalState String :=
  ⟨{ registry := .ofList configs false }, 10,
    { clock := ⟨⟨2024, 1, 1⟩, 0, 0, 0, 0, none⟩, ids := ⟨[], 0⟩ }⟩

/-- An invoice has been written. -/
def written : Session LocalState String :=
  ((Call.create (some "invoice") (some "1") (.object [])).run LocalState.backend start).2

def invoice : Fields :=
  [("id", .str "1"), ("createdAt", .str "2024-01-01T00:00:00+00:00"),
    ("updatedAt", .str "2024-01-01T00:00:00+00:00"), ("entityName", .str "invoice")]

def read : Call := .read (some "order") (some "1") .null

def count : Call := .count (some "order") (.ready {})

def delete : Call := .delete (some "order") (some "1") .null

end SharedContainer

open SharedContainer in
/-- **Entities with one container do meet.**  An invoice is found, counted and deleted as an order,
where there was no order before. -/
theorem shared_container :
    ContainerConfig.parseAll data = .ok configs
      ∧ (read.run LocalState.backend start).1 = .ok .noDocument
      ∧ (read.run LocalState.backend written).1 = .ok (.document (.object invoice))
      ∧ (count.run LocalState.backend start).1 = .ok (.count 0)
      ∧ (count.run LocalState.backend written).1 = .ok (.count 1)
      ∧ (delete.run LocalState.backend start).1 = .error (.absent "shared" "1" none)
      ∧ (delete.run LocalState.backend written).1 = .ok .deleted := by
  refine ⟨rfl, rfl, ?_, rfl, rfl, rfl, ?_⟩ <;> with_unfolding_all rfl

namespace TakenContainer

/-- Orders are kept in a container of their own, and other entities are registered on first use. -/
def start : Session LocalState String :=
  ⟨{ registry := .ofList [⟨"order", "orders", "tenantId"⟩] true }, 10,
    { clock := ⟨⟨2024, 1, 1⟩, 0, 0, 0, 0, none⟩, ids := ⟨[], 0⟩ }⟩

/-- An order has been written. -/
def ordered : Session LocalState String :=
  ((Call.create (some "order") (some "1") (.object [("tenantId", .str "a")])).run
    LocalState.backend start).2

/-- A document of an entity that is not configured, and has the name of the orders' container. -/
def create : Call := .create (some "orders") (some "1") (.object [])

def read : Call := .read (some "orders") (some "1") .null

def delete : Call := .delete (some "orders") (some "1") .null

/-- The session after the document has been created. -/
def created (s : Session LocalState String) : Session LocalState String :=
  (create.run LocalState.backend s).2

/-- Whether a call has come to a document. -/
def isDocument : Except Failure (Answer String) → Bool
  | .ok (.document _) => true
  | _ => false

end TakenContainer

open TakenContainer in
/-- **An entity can lose its own container to another.**  The document is created in any case.  It is
found again and can be deleted, but only when no order has been written before. -/
theorem own_container_taken :
    start.router.registry.contains "orders" = false
      ∧ isDocument (create.run LocalState.backend start).1 = true
      ∧ isDocument (read.run LocalState.backend (created start)).1 = true
      ∧ (delete.run LocalState.backend (created start)).1 = .ok .deleted
      ∧ isDocument (create.run LocalState.backend ordered).1 = true
      ∧ (read.run LocalState.backend (created ordered)).1 = .ok .noDocument
      ∧ (delete.run LocalState.backend (created ordered)).1
        = .error (.absent "orders" "1" none) := by
  refine ⟨by decide, by decide +kernel, by decide +kernel, ?_, by decide +kernel, ?_, ?_⟩
  all_goals with_unfolding_all rfl

end EntityStore
