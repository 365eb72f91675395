import EntityStore.Proofs.Remote.Service
import EntityStore.Proofs.Store.Prepared
import EntityStore.Proofs.Store.View

/-!
# Observed services

An observed service keeps a list of the calls to it, each with its error if it fails
(`Service.observed`).  The store runs on it as on the service itself (`Service.seen_watched`), and
the list tells which call an error comes from.

`Told` is how such a list goes with what a computation comes to: either no call has failed, or the
last one has, and then the computation comes to what is reported of it.  `Run.Reports` says that a
computation goes like that.  It passes through sequences, so about a longer computation only its
single requests have to be looked at.
-/

namespace EntityStore

/-! ### Observed services -/

/-- A call to a service. -/
inductive ServiceCall where
  | provision (containerId path : String)
  | item (containerId : String) (call : ItemCall)
  | pages (containerId : String) (request : PageRequest)

/-- A call that has been made, and its error if it has failed. -/
structure ServiceEvent where
  call : ServiceCall
  error : Option ServiceError

/-- A call with this answer. -/
def ServiceEvent.of {α : Type} (call : ServiceCall) : Except ServiceError α → ServiceEvent
  | .ok _ => ⟨call, none⟩
  | .error e => ⟨call, some e⟩

/-- A state, and the calls that have been made so far. -/
abbrev Observed (σ : Type) := Logged ServiceEvent σ

section

variable {σ α : Type}

/-- Makes a call and writes it down with its answer. -/
def Observed.ask (call : ServiceCall) (f : σ → Except ServiceError α × σ) (o : Observed σ) :
    Except ServiceError α × Observed σ :=
  let (answer, o) := o.lift f
  (answer, o.log [.of call answer])

/-- **A service that keeps a list of the calls to it.** -/
def Service.observed (service : Service σ) : Service (Observed σ) where
  provision containerId path :=
    Observed.ask (.provision containerId path) (service.provision containerId path)
  item containerId call := Observed.ask (.item containerId call) (service.item containerId call)
  pages containerId request :=
    Observed.ask (.pages containerId request) (service.pages containerId request)

/-- The store on a service that is observed. -/
abbrev Service.watched (service : Service σ) (base : Backend σ String) :
    Backend (Observed σ) String :=
  service.observed.backend (base.logged [])

/-- A session whose service is observed from now on. -/
def Session.observed {κ : Type} (s : Session σ κ) : Session (Observed σ) κ where
  router := s.router
  pageSize := s.pageSize
  outside := ⟨s.outside, []⟩

/-- Observing a service changes nothing else. -/
theorem Service.seen_watched (service : Service σ) (base : Backend σ String) :
    Backend.Seen Logged.state (service.watched base) (service.backend base) where
  now _ := rfl
  newId _ := rfl
  provision _ _ _ := rfl
  perform q o := by
    cases q with
    | create | read | replace | delete => rfl
    | page container request =>
      show service.page container request o.state
        = ((service.observed.page container request o).1,
          (service.observed.page container request o).2.state)
      unfold Service.page
      cases Parameter.allToWire request.statement.parameters <;> rfl
  patience _ := rfl

end

/-- The error of a call as the store sees it. -/
def ServiceCall.failure (e : ServiceError) : ServiceCall → Failure
  | .item containerId (.read id _) | .item containerId (.replace id _)
  | .item containerId (.delete id _) => e.toFailureOf containerId id
  | _ => e.toFailure

/-! ### What has been observed -/

/-- Calls of certain kinds that have all succeeded. -/
def Succeeded (P : ServiceCall → Prop) (events : List ServiceEvent) : Prop :=
  ∀ event ∈ events, P event.call ∧ event.error = none

/-- **How the calls that have been made go with what a computation comes to.**  They are of certain
kinds, and either none has failed, and then the computation is answered in a certain way or fails
otherwise than because a document is missing; or the last one has failed, and the computation comes
to what is reported of it. -/
inductive Told {α : Type} (P : ServiceCall → Prop)
    (report : ServiceError → ServiceCall → Except Failure α) (Q : α → Prop) :
    List ServiceEvent → Except Failure α → Prop
  | answered {events : List ServiceEvent} {a : α}
    (hevents : Succeeded P events) (ha : Q a) :
    Told P report Q events (.ok a)
  | failed {events : List ServiceEvent} {e : Failure}
    (hevents : Succeeded P events) (he : e.isAbsent = false) :
    Told P report Q events (.error e)
  | broken {events : List ServiceEvent} {c : ServiceCall} {e : ServiceError}
    (hevents : Succeeded P events) (hc : P c) :
    Told P report Q (events ++ [⟨c, some e⟩]) (report e c)

/-- A failing call that is not translated any further. -/
def ServiceCall.raised {α : Type} (e : ServiceError) (c : ServiceCall) : Except Failure α :=
  .error (c.failure e)

namespace Succeeded

variable {P P' : ServiceCall → Prop} {events events' : List ServiceEvent}

theorem nil : Succeeded P [] := by
  rintro event ⟨⟩

theorem imp (h : Succeeded P events) (hP : ∀ c, P c → P' c) : Succeeded P' events :=
  fun event hevent => (h event hevent).imp_left (hP _)

theorem append (h : Succeeded P events) (h' : Succeeded P events') :
    Succeeded P (events ++ events') := by
  intro event hevent
  rcases List.mem_append.1 hevent with hevent | hevent
  · exact h event hevent
  · exact h' event hevent

end Succeeded

namespace Told

variable {α β : Type} {P P' : ServiceCall → Prop}
  {report report' : ServiceError → ServiceCall → Except Failure α} {Q Q' : α → Prop}
  {events events' : List ServiceEvent} {r : Except Failure α}

/-- More may be told of kinds of calls, and less of answers. -/
theorem imp (h : Told P report Q events r) (hP : ∀ c, P c → P' c ∧ ∀ e, report e c = report' e c)
    (hQ : ∀ a, Q a → Q' a) : Told P' report' Q' events r := by
  have hkinds := fun c hc => (hP c hc).1
  cases h with
  | answered hevents ha => exact .answered (hevents.imp hkinds) (hQ _ ha)
  | failed hevents he => exact .failed (hevents.imp hkinds) he
  | broken hevents hc =>
    rw [(hP _ hc).2]
    exact .broken (hevents.imp hkinds) (hkinds _ hc)

/-- Calls that have succeeded come before others. -/
theorem prepend (hevents : Succeeded P events) (h : Told P report Q events' r) :
    Told P report Q (events ++ events') r := by
  cases h with
  | answered hlater ha => exact .answered (hevents.append hlater) ha
  | failed hlater he => exact .failed (hevents.append hlater) he
  | broken hlater hc =>
    rw [← List.append_assoc]
    exact .broken (hevents.append hlater) hc

/-- The calls that have been made are of these kinds. -/
theorem made (h : Told P report Q events r) : ∀ event ∈ events, P event.call := by
  cases h with
  | answered hevents | failed hevents => exact fun event hevent => (hevents event hevent).1
  | broken hevents hc =>
    intro event hevent
    rcases List.mem_append.1 hevent with hevent | hevent
    · exact (hevents event hevent).1
    · rw [List.mem_singleton.1 hevent]
      exact hc

/-- **No call is made when another has failed.** -/
theorem stops (h : Told P report Q events r) : ∀ event ∈ events.dropLast, event.error = none := by
  cases h with
  | answered hevents | failed hevents =>
    exact fun event hevent => (hevents event (List.dropLast_subset _ hevent)).2
  | broken hevents =>
    rw [List.dropLast_concat]
    exact fun event hevent => (hevents event hevent).2

/-- **What is reported comes from the last call**, if that has failed. -/
theorem last {c : ServiceCall} {e : ServiceError} (h : Told P report Q events r)
    (hlast : events.getLast? = some ⟨c, some e⟩) : r = report e c := by
  cases h with
  | answered hevents | failed hevents =>
    have herror := (hevents _ (List.mem_of_getLast? hlast)).2
    cases herror
  | broken =>
    rw [List.getLast?_concat] at hlast
    cases hlast
    rfl

/-- **A result that comes from a failing call only** comes from the last one. -/
theorem eq_iff_last {r' : Except Failure α} (h : Told P report Q events r)
    (hanswer : ∀ a, Q a → .ok a ≠ r') (hfailure : ∀ e, e.isAbsent = false → .error e ≠ r') :
    r = r' ↔ ∃ c e, events.getLast? = some ⟨c, some e⟩ ∧ report e c = r' := by
  constructor
  · rintro rfl
    cases h with
    | answered _ ha => exact absurd rfl (hanswer _ ha)
    | failed _ he => exact absurd rfl (hfailure _ he)
    | broken => exact ⟨_, _, List.getLast?_concat, rfl⟩
  · rintro ⟨c, e, hlast, hreport⟩
    rw [h.last hlast, hreport]

/-- One call, and what is made of its answer. -/
theorem one {c : ServiceCall} (made : Except ServiceError β → Except Failure α)
    (hok : ∀ b, ∃ a, made (.ok b) = .ok a) (herror : ∀ e, made (.error e) = .error (c.failure e))
    (answer : Except ServiceError β) :
    Told (· = c) ServiceCall.raised (fun _ => True) [.of c answer] (made answer) := by
  cases answer with
  | error e =>
    rw [herror e]
    exact .broken .nil rfl
  | ok b =>
    obtain ⟨a, ha⟩ := hok b
    rw [ha]
    refine .answered ?_ trivial
    rintro event hevent
    rw [List.mem_singleton.1 hevent]
    exact ⟨rfl, rfl⟩

end Told

/-! ### Computations that report -/

section Reports

variable {σ κ α β : Type} {registry : Registry} {P P' : ServiceCall → Prop}
  {report : ServiceError → ServiceCall → Except Failure α} {Q : α → Prop}

/-- **A computation reports the calls that it makes**, and answers look-ups in the end as a registry
does if it answered them so in the beginning. -/
def Run.Reports (registry : Registry) (P : ServiceCall → Prop)
    (report : ServiceError → ServiceCall → Except Failure α) (Q : α → Prop)
    (x : Run (Session (Observed σ) κ) α) : Prop :=
  ∀ s, registry.Agrees s.router.registry → registry.Agrees (x s).2.router.registry
    ∧ ∃ events, (x s).2.outside.events = s.outside.events ++ events
      ∧ Told P report Q events (x s).1

namespace Run

variable {x : Run (Session (Observed σ) κ) α}

theorem Reports.imp {report' : ServiceError → ServiceCall → Except Failure α} {Q' : α → Prop}
    (h : Reports registry P report Q x) (hP : ∀ c, P c → P' c ∧ ∀ e, report e c = report' e c)
    (hQ : ∀ a, Q a → Q' a) : Reports registry P' report' Q' x := by
  intro s hs
  obtain ⟨hagrees, events, hevents, htold⟩ := h s hs
  exact ⟨hagrees, events, hevents, htold.imp hP hQ⟩

/-- A computation that makes no call. -/
theorem reports_silent
    (hsilent : ∀ s, (x s).2.outside.events = s.outside.events
      ∧ s.router.registry.Agrees (x s).2.router.registry)
    (hfails : FailsOnly (fun e => e.isAbsent = false) x)
    (hyields : ∀ s a, registry.Agrees s.router.registry → (x s).1 = .ok a → Q a) :
    Reports registry P report Q x := by
  intro s hs
  obtain ⟨hevents, hagrees⟩ := hsilent s
  have hfailed := hfails s
  have hanswer := fun a => hyields s a hs
  refine ⟨hs.trans hagrees, [], by rw [hevents, List.append_nil], ?_⟩
  generalize (x s).1 = r at hfailed hanswer
  cases r with
  | ok a => exact .answered .nil (hanswer a rfl)
  | error e => exact .failed .nil (hfailed e rfl)

theorem reports_pure {a : α} (ha : Q a) :
    Reports registry P report Q (pure a : Run (Session (Observed σ) κ) α) := by
  refine reports_silent (fun s => ⟨rfl, fun _ => rfl⟩) (failsOnly_pure a) ?_
  rintro s a' - ⟨⟩
  exact ha

theorem reports_throw {e : Failure} (he : e.isAbsent = false) :
    Reports registry P report Q (throw e : Run (Session (Observed σ) κ) α) := by
  refine reports_silent (fun s => ⟨rfl, fun _ => rfl⟩) (failsOnly_throw he) ?_
  rintro s a' - ⟨⟩

theorem reports_lift {x : Except Failure α} (hx : ∀ e, x = .error e → e.isAbsent = false)
    (hQ : ∀ a, x = .ok a → Q a) :
    Reports registry P report Q (liftM x : Run (Session (Observed σ) κ) α) :=
  reports_silent (fun _ => ⟨rfl, fun _ => rfl⟩) (failsOnly_lift hx) fun _ a _ => hQ a

/-- **Of a sequence the first part makes calls whose errors are not translated any further**, and
the second reports the rest. -/
theorem reports_bind {report : ServiceError → ServiceCall → Except Failure β} {R : β → Prop}
    {f : α → Run (Session (Observed σ) κ) β} (hx : Reports registry P ServiceCall.raised Q x)
    (hP : ∀ c, P c → P' c ∧ ∀ e, report e c = .error (c.failure e))
    (hf : ∀ a, Q a → Reports registry P' report R (f a)) :
    Reports registry P' report R (x >>= f) := by
  intro s hs
  obtain ⟨hagrees, events, hevents, htold⟩ := hx s hs
  have hkinds := fun c hc => (hP c hc).1
  rw [bind_eq]
  rcases hrun : x s with ⟨r, s₁⟩
  rw [hrun] at hagrees hevents htold
  dsimp only at hagrees hevents htold
  cases htold with
  | answered hnone ha =>
    -- Only behind an answer is there a second part, whose calls come after those of the first.
    obtain ⟨hagrees', later, hlater, htold⟩ := hf _ ha s₁ hagrees
    refine ⟨hagrees', events ++ later, ?_, htold.prepend (hnone.imp hkinds)⟩
    rw [hlater, hevents, List.append_assoc]
  | failed hnone he => exact ⟨hagrees, events, hevents, .failed (hnone.imp hkinds) he⟩
  | @broken before c e hnone hc =>
    -- The sequence comes to the error as it is, which is what `report` makes of it by `hP`.
    refine ⟨hagrees, _, hevents, ?_⟩
    have htold : Told P' report R (before ++ [⟨c, some e⟩]) (report e c) :=
      .broken (hnone.imp hkinds) (hkinds c hc)
    rw [(hP c hc).2] at htold
    exact htold

/-- Looking at the state makes no call. -/
theorem reports_get {f : Session (Observed σ) κ → Run (Session (Observed σ) κ) α}
    (h : ∀ s, Reports registry P report Q (f s)) :
    Reports registry P report Q ((get : Run (Session (Observed σ) κ) _) >>= f) := fun s => h s s

end Run

/-! ### Requests -/

/-- What is done outside makes calls, and leaves the router alone. -/
theorem reports_consult {f : Observed σ → Except Failure α × Observed σ}
    (hf : ∀ o, ∃ events, (f o).2.events = o.events ++ events
      ∧ Told P ServiceCall.raised Q events (f o).1) :
    Run.Reports registry P ServiceCall.raised Q
      (Session.consult f : Run (Session (Observed σ) κ) α) := fun s hs => ⟨hs, hf s.outside⟩

/-- One call to the service, and what is made of its answer. -/
theorem reports_ask {c : ServiceCall} {f : σ → Except ServiceError β × σ}
    (made : Except ServiceError β → Except Failure α) (hok : ∀ b, ∃ a, made (.ok b) = .ok a)
    (herror : ∀ e, made (.error e) = .error (c.failure e)) :
    Run.Reports registry (· = c) ServiceCall.raised (fun _ => True)
      (Session.consult fun o => (made (Observed.ask c f o).1, (Observed.ask c f o).2) :
        Run (Session (Observed σ) κ) α) :=
  reports_consult fun o => ⟨[.of c (f o.state).1], rfl, .one made hok herror _⟩

end Reports

end EntityStore
