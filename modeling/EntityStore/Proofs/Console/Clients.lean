import EntityStore.Proofs.Console.Called
import EntityStore.Proofs.Store.Performed
import EntityStore.Proofs.Store.View

/-!
# The clients of a command

A command makes one client at most, and closes it.  It makes none when it asks nothing of the store,
when the settings or the container file are faulty, or when the endpoint or the key is missing.
Otherwise the client is made and asked for the database; when it is refused the client is closed at
once, and else it is closed when the call has come to an answer or to a failure
(`Host.call_serves`).

What is done between opening and closing is requests only: neither preparing a call nor resolving a
container nor the work of a call makes or closes a client (`run_requests`).  All this is told from
the trace of a host, which runs as the host itself does (`Host.run_traced`).
-/

namespace EntityStore

variable {σ κ : Type}

/-! ### Traced states run as their states do -/

namespace Account

variable (account : Account σ)

theorem traced_connect (endpoint key : String) (t : Traced σ) :
    account.traced.connect endpoint key t
      = ⟨account.connect endpoint key t.state, t.events ++ [.connect endpoint key]⟩ := rfl

theorem traced_openDatabase (name : String) (t : Traced σ) :
    account.traced.openDatabase name t = ((account.openDatabase name t.state).1,
      ⟨(account.openDatabase name t.state).2, t.events ++ [.openDatabase name]⟩) := rfl

/-- Closing a client is traced. -/
theorem trace_close (t : Traced σ) : (account.traced.close t).events = t.events ++ [.close] := rfl

/-- Opening a database is traced as two events. -/
theorem trace_opened {endpoint key name : String} {t t' : Traced σ} {r : Except Failure Unit}
    (h : account.traced.openDatabase name (account.traced.connect endpoint key t) = (r, t')) :
    t'.events = t.events ++ [.connect endpoint key, .openDatabase name] := by
  have htrace : (t.events ++ [.connect endpoint key]) ++ [.openDatabase name] = t'.events :=
    congrArg (fun opened => opened.2.events) h
  rw [← htrace, List.append_assoc]
  rfl

theorem openWith_traced (settings : Settings) (t : Traced σ) :
    account.openWith settings t.state
      = ((account.traced.openWith settings t).1, (account.traced.openWith settings t).2.state) := by
  unfold openWith
  cases settings.credentials with
  | error e => rfl
  | ok credentials =>
    obtain ⟨endpoint, key⟩ := credentials
    simp only [traced_connect, traced_openDatabase]
    rcases account.openDatabase settings.database (account.connect endpoint key t.state)
      with ⟨e | _, s⟩ <;> rfl

end Account

namespace Console.Host

variable (host : Host σ κ)

theorem call_traced (globals : Globals) (call : Call) (t : Traced σ) :
    host.call globals call t.state
      = ((host.traced.call globals call t).1, (host.traced.call globals call t).2.state) := by
  have hconfigure : host.traced.configure globals = host.configure globals := rfl
  unfold Host.call
  rw [hconfigure]
  cases host.configure globals with
  | error e => rfl
  | ok configured =>
    obtain ⟨settings, configs⟩ := configured
    dsimp only
    rw [host.account.openWith_traced settings t]
    have haccount : host.traced.account = host.account.traced := rfl
    rw [haccount]
    rcases host.account.traced.openWith settings t with ⟨e | _, t'⟩
    · rfl
    · have hrun := call.seen_run (host.backend.seen_logged [.request]) (session settings configs t')
      have hsession : session settings configs t'.state
        = Session.view (κ := κ) Logged.state (session settings configs t') := rfl
      dsimp only
      rw [hsession, hrun]
      rfl

theorem perform_traced (globals : Globals) (command : Command) (t : Traced σ) :
    host.perform globals command t.state
      = ((host.traced.perform globals command t).1,
        (host.traced.perform globals command t).2.state) := by
  have hfiles : host.traced.files = host.files := rfl
  unfold perform
  rw [hfiles]
  cases command.call host.files globals.json with
  | error outcome => rfl
  | ok call =>
    dsimp only
    rw [host.call_traced globals call t]
    rcases host.traced.call globals call t with ⟨e | answer, t'⟩ <;> rfl

/-- **A traced host runs as the host itself does**: a command line comes to the same outcome, and
leaves the same state. -/
theorem run_traced (arguments : List String) (t : Traced σ) :
    host.run arguments t.state
      = ((host.traced.run arguments t).1, (host.traced.run arguments t).2.state) := by
  unfold run
  cases Invocation.parse? arguments with
  | none => rfl
  | some invocation =>
    cases invocation with
    | version | unlogged => rfl
    | command globals command => exact host.perform_traced globals command t

end Console.Host

/-! ### What is traced of a call -/

/-- One state has the trace of another and some requests behind it. -/
def Session.Requests (s s' : Session (Traced σ) κ) : Prop :=
  ∃ n, s'.outside.events = s.outside.events ++ List.replicate n .request

instance : IsPreorder (Session (Traced σ) κ) Session.Requests where
  refl _ := ⟨0, by rw [List.replicate_zero, List.append_nil]⟩
  trans := by
    rintro s s' s'' ⟨n, hn⟩ ⟨m, hm⟩
    refine ⟨n + m, ?_⟩
    rw [hm, hn, List.append_assoc, List.replicate_append_replicate]

/-- A request to a traced backend is traced. -/
theorem consult_requests (b : Backend σ κ) (q : Request κ) :
    Run.Keeps Session.Requests (Session.consult (b.traced.perform q) : Run (Session _ κ) _) :=
  fun _ => ⟨1, rfl⟩

/-- Preparing a call leaves no trace. -/
theorem prepare_requests (b : Backend σ κ) (call : Call) :
    Run.Keeps Session.Requests (call.prepare b.traced) := by
  intro s
  have happroached := Call.prepare_approached (b := b.traced) call s
  have hnow (t : Traced σ) : Logged.events (b.traced.now t).2 = t.events := rfl
  have htrace := happroached.outside.view_eq hnow fun _ => rfl
  exact ⟨0, by rw [htrace, List.replicate_zero, List.append_nil]⟩

/-- Resolving a container is one request at most. -/
theorem resolve_requests (b : Backend σ κ) (entity : String) :
    Run.Keeps Session.Requests (Session.resolve b.traced entity) := by
  intro s
  unfold Session.resolve
  rcases s.router.request 0 entity with ⟨result | config | config, router⟩
  · exact ⟨0, by simp⟩
  · exact ⟨0, by simp⟩
  · exact ⟨1, rfl⟩

/-- **A call makes requests and nothing else** of the client that it is given. -/
theorem run_requests (b : Backend σ κ) (call : Call) :
    Run.Keeps Session.Requests (call.run b.traced) := by
  refine Run.keeps_bind (prepare_requests b call) fun prepared => ?_
  cases prepared with
  | answered a => exact Run.keeps_pure a
  | ready entity work =>
    refine Run.keeps_bind (resolve_requests b entity) fun container => ?_
    exact keeps_perform entity work (fun s => ⟨0, by simp [Session.configOf]⟩)
      (fun _ _ => consult_requests b _) (fun _ _ _ => consult_requests b _)
      (fun _ _ _ => consult_requests b _) (fun _ _ => consult_requests b _)
      fun _ => consult_requests b _

/-! ### What is traced of a command -/

/-- An event is the making of a client. -/
def ClientEvent.isConnect : ClientEvent → Bool
  | .connect .. => true
  | _ => false

/-- **All that is done with one client**: it is made and asked for a database, there are some
requests, and it is closed. -/
def ClientEvent.course (endpoint key database : String) (requests : Nat) : List ClientEvent :=
  .connect endpoint key :: .openDatabase database :: (List.replicate requests .request ++ [.close])

namespace ClientEvent

variable (endpoint key database : String) (requests : Nat)

/-- One client is made, -/
theorem countP_isConnect_course :
    (course endpoint key database requests).countP isConnect = 1 := by
  have hrequests : (List.replicate requests request).countP isConnect = 0 := by
    rw [List.countP_replicate]
    rfl
  rw [course, List.countP_cons_of_pos rfl, List.countP_cons_of_neg Bool.noConfusion,
    List.countP_append, hrequests]
  rfl

/-- it is closed once, -/
theorem count_close_course : (course endpoint key database requests).count close = 1 := by
  have hrequests : (List.replicate requests request).count close = 0 := by
    rw [List.count_replicate]
    rfl
  rw [course, List.count_cons_of_ne (by simp), List.count_cons_of_ne (by simp),
    List.count_append, hrequests]
  rfl

/-- and then nothing more is done with it. -/
theorem eq_nil_of_course {before after : List ClientEvent}
    (h : course endpoint key database requests = before ++ close :: after) : after = [] := by
  have hcount := count_close_course endpoint key database requests
  rw [h, List.count_append, List.count_cons_self] at hcount
  have hnone : close ∉ after := by
    rw [← List.count_eq_zero]
    omega
  cases after with
  | nil => rfl
  | cons event events =>
    have hlast : (course endpoint key database requests).getLast? = some close := by
      rw [course, ← List.cons_append, ← List.cons_append, List.getLast?_concat]
    rw [h, List.getLast?_append, List.getLast?_cons_cons, List.getLast?_cons, Option.some_or,
      ← List.getLast?_cons] at hlast
    exact absurd (List.mem_of_getLast? hlast) hnone

end ClientEvent

namespace Console.Host

variable (host : Host σ κ)

/-- The endpoint and the key of the client that a command makes; with faulty settings, a faulty
container file, or one of the two missing, it makes none. -/
def credentials? (globals : Globals) : Option (String × String) :=
  match host.configure globals with
  | .ok (settings, _) => settings.credentials.toOption
  | .error _ => none

/-- What a host with these credentials does with clients in a call: it takes one through its course,
or none when it has no credentials. -/
def Serves (credentials : Option (String × String)) (events : List ClientEvent) : Prop :=
  match credentials with
  | none => events = []
  | some (endpoint, key) => ∃ database requests,
    events = ClientEvent.course endpoint key database requests

/-- **What a host does with clients ends with their closing.** -/
theorem Serves.closed {credentials : Option (String × String)} {events : List ClientEvent}
    (h : Serves credentials events) :
    events.countP ClientEvent.isConnect ≤ 1
      ∧ events.count .close = events.countP ClientEvent.isConnect
      ∧ ∀ before after, events = before ++ .close :: after → after = [] := by
  cases credentials with
  | none =>
    obtain rfl : events = [] := h
    refine ⟨Nat.zero_le 1, rfl, ?_⟩
    intro before after hclose
    simp at hclose
  | some credentials =>
    obtain ⟨database, requests, rfl⟩ := h
    rw [ClientEvent.countP_isConnect_course, ClientEvent.count_close_course]
    refine ⟨Nat.le_refl 1, rfl, ?_⟩
    intro before after hclose
    exact ClientEvent.eq_nil_of_course _ _ _ _ hclose

/-- **A call makes a client when there are credentials for it, and takes it through its course.** -/
theorem call_serves (globals : Globals) (call : Call) (t : Traced σ) :
    ∃ events, (host.traced.call globals call t).2.events = t.events ++ events
      ∧ Serves (host.credentials? globals) events := by
  have hcalled := host.traced.called globals call t
  have hconfigure : host.traced.configure globals = host.configure globals := rfl
  have haccount : host.traced.account = host.account.traced := rfl
  unfold credentials?
  generalize host.traced.call globals call t = ended at hcalled ⊢
  rw [← hconfigure]
  cases hcalled with
  -- Without a configuration or credentials no client is made.
  | misconfigured hconfigured =>
    rw [hconfigured]
    exact ⟨[], by rw [List.append_nil], rfl⟩
  | withoutCredentials hconfigured hcredentials =>
    rw [hconfigured]
    dsimp only
    rw [hcredentials]
    exact ⟨[], by rw [List.append_nil], rfl⟩
  | @refused settings _ endpoint key _ s' hconfigured hcredentials hopened =>
    rw [hconfigured]
    dsimp only
    rw [hcredentials]
    -- A client without a database is closed before any request.
    refine ⟨ClientEvent.course endpoint key settings.database 0, ?_, _, _, rfl⟩
    have htrace := host.account.trace_opened hopened
    have hclosed := host.account.trace_close s'
    rw [haccount, hclosed, htrace, List.append_assoc]
    rfl
  | @opened settings configs endpoint key s' _ session hconfigured hcredentials hopened hrun =>
    rw [hconfigured]
    dsimp only
    rw [hcredentials]
    have htrace := host.account.trace_opened hopened
    -- Between opening and closing there are requests only.
    obtain ⟨requests, hrequests⟩ := run_requests host.backend call (Host.session settings configs s')
    have hbackend : host.backend.traced = host.traced.backend := rfl
    rw [hbackend, hrun] at hrequests
    refine ⟨ClientEvent.course endpoint key settings.database requests, ?_, _, _, rfl⟩
    have hclosed := host.account.trace_close session.outside
    have hstart : (Host.session (κ := κ) settings configs s').outside.events = s'.events := rfl
    rw [haccount, hclosed, hrequests, hstart, htrace, List.append_assoc, List.append_assoc]
    rfl

/-- The credentials of a command line: those of its command, if that makes a call. -/
def client? (arguments : List String) : Option (String × String) :=
  match Invocation.parse? arguments with
  | some (.command globals command) =>
    (command.call host.files globals.json).toOption.bind fun _ => host.credentials? globals
  | _ => none

/-- A command line makes a client when there are credentials for it. -/
theorem run_serves (arguments : List String) (t : Traced σ) :
    ∃ events, (host.traced.run arguments t).2.events = t.events ++ events
      ∧ Serves (host.client? arguments) events := by
  unfold run client?
  cases Invocation.parse? arguments with
  | none => exact ⟨[], by rw [List.append_nil], rfl⟩
  | some invocation =>
    cases invocation with
    | version | unlogged => exact ⟨[], by rw [List.append_nil], rfl⟩
    | command globals command =>
      have hfiles : host.traced.files = host.files := rfl
      dsimp only
      unfold perform
      rw [hfiles]
      cases command.call host.files globals.json with
      | error outcome => exact ⟨[], by rw [List.append_nil], rfl⟩
      | ok call =>
        obtain ⟨events, htrace, hserves⟩ := host.call_serves globals call t
        refine ⟨events, ?_, hserves⟩
        rw [← htrace]
        dsimp only
        rcases host.traced.call globals call t with ⟨e | answer, t'⟩ <;> rfl

/-- **Every client is closed, once.**  Whatever fails while a command line is run, it makes a client
exactly when it has credentials for one, and then makes one client, opens a database, makes requests
and closes the client; so there are as many closings as clients, one at most, and nothing is done
after a closing.  With faulty settings or a faulty container file no client is made.  The trace of
all this is that of a run that comes to the same outcome and the same state. -/
theorem clients_closed (arguments : List String) (s : σ) :
    let ended : Outcome × Traced σ := host.traced.run arguments ⟨s, []⟩
    let trace := ended.2.events
    host.run arguments s = (ended.1, ended.2.state)
      ∧ Serves (host.client? arguments) trace
      ∧ trace.countP ClientEvent.isConnect ≤ 1
      ∧ trace.count .close = trace.countP ClientEvent.isConnect
      ∧ (∀ before after, trace = before ++ .close :: after → after = [])
      ∧ ∀ globals command e, Invocation.parse? arguments = some (.command globals command) →
        host.configure globals = .error e → trace = [] := by
  intro ended trace
  obtain ⟨events, htrace, hserves⟩ := host.run_serves arguments ⟨s, []⟩
  obtain rfl : trace = events := htrace
  obtain ⟨hone, hclosings, hlast⟩ := hserves.closed
  refine ⟨host.run_traced arguments ⟨s, []⟩, hserves, hone, hclosings, hlast, ?_⟩
  intro globals command e hparse hconfigured
  have hnone : host.client? arguments = none := by
    rw [client?, hparse]
    dsimp only
    rw [credentials?, hconfigured]
    cases (command.call host.files globals.json).toOption <;> rfl
  rw [hnone] at hserves
  exact hserves

end Console.Host

end EntityStore
