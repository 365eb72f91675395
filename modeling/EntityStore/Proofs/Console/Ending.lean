import EntityStore.Proofs.Console.Called
import EntityStore.Proofs.Console.Printed
import EntityStore.Proofs.Remote.Service

/-!
# How commands end

A command ends with the exit code that tells what has stopped it (`Host.Stop`): a configuration, its
own arguments or a rejection of its call, a document that is not there, or any other failure.  When
nothing has, it ends with success.  Whatever has stopped it, nothing has been printed but an error, and
no document has changed.

For two faults nobody has provided (`Host.Breaks`).  A log level can be refused, and the result of a
command can hold a whole number of too many digits.  Then the command breaks off without an error; and
as results are printed when the call has been made, a document may have been stored.
-/

namespace EntityStore

/-! ### What a host is depended on for -/

/-- **An account that can be depended on**: making a client, opening a database and closing the
client leave documents alone, and when a database is refused that is an error of the service. -/
structure Account.Dependable {σ D : Type} (account : Account σ) (documents : σ → D) : Prop where
  connect : ∀ endpoint key s, documents (account.connect endpoint key s) = documents s
  openDatabase : ∀ name s, documents (account.openDatabase name s).2 = documents s
  close : ∀ s, documents (account.close s) = documents s
  refused : ∀ name s e, (account.openDatabase name s).1 = .error e →
    ∃ error : ServiceError, e = error.toFailure

/-- A client whose database is asked for. -/
theorem Account.Dependable.opened {σ D : Type} {account : Account σ} {documents : σ → D}
    (h : account.Dependable documents) {endpoint key name : String} {s s' : σ}
    {r : Except Failure Unit}
    (hopened : account.openDatabase name (account.connect endpoint key s) = (r, s')) :
    documents s' = documents s := by
  have hsame := h.openDatabase name (account.connect endpoint key s)
  rw [hopened, h.connect] at hsame
  exact hsame

namespace Console

/-- **A host that can be depended on.** -/
structure Host.Dependable {σ κ D : Type} (host : Host σ κ) (documents : σ → D) : Prop where
  account : host.account.Dependable documents
  backend : host.backend.Dependable documents

/-! ### Exit codes -/

/-- A failure is one of configuration, a rejection, the absence of a document, or another fault. -/
theorem failure_cases (e : Failure) :
    (∃ c, e = .config c) ∨ e.isRejection = true ∨ e.isAbsent = true
      ∨ e.IsFault ∧ ∀ c, e ≠ .config c := by
  cases e with
  | config c => exact .inl ⟨c, rfl⟩
  | missing | documentNotObject | partitionRequired | unknownEntity | filter =>
    exact .inr (.inl rfl)
  | invalid model =>
    cases model with
    | query => exact .inr (.inl rfl)
    | queryResult => exact .inr (.inr (.inr ⟨⟨rfl, rfl⟩, by rintro c ⟨⟩⟩))
  | absent => exact .inr (.inr (.inl rfl))
  | _ => exact .inr (.inr (.inr ⟨⟨rfl, rfl⟩, by rintro c ⟨⟩⟩))

namespace ExitCode

variable {e : Failure}

theorem ofFailure_rejection (h : e.isRejection = true) (hquery : e.isOfQuery = false) :
    ofFailure e = .usage := by
  cases e with
  | missing | documentNotObject | partitionRequired | unknownEntity => rfl
  | filter => cases hquery
  | invalid model =>
    cases model with
    | query => cases hquery
    | queryResult => cases h
  | _ => cases h

theorem ofFailure_absent (h : e.isAbsent = true) : ofFailure e = .notFound := by
  cases e with
  | absent => rfl
  | _ => cases h

theorem ofFailure_fault (h : e.IsFault) (hconfig : ∀ c, e ≠ .config c) :
    ofFailure e = .failure := by
  obtain ⟨hoccurs, habsent⟩ := h
  cases e with
  | config c => exact absurd rfl (hconfig c)
  | missing | documentNotObject | partitionRequired | unknownEntity => cases hoccurs
  | absent => cases habsent
  | _ => rfl

/-- Different exit codes have different numbers. -/
theorem eq_of_toNat {code code' : ExitCode} (h : code.toNat = code'.toNat) : code = code' := by
  cases code <;> cases code' <;> first | rfl | cases h

end ExitCode

namespace Outcome

/-- **An outcome that prints nothing but one error.** -/
structure Fails (outcome : Outcome) (code : ExitCode) : Prop where
  exitCode : outcome.exitCode = code.toNat
  output : outcome.output = ""
  errors : ∃ line, line ≠ "" ∧ outcome.errors = unlines [line]

theorem fails_failed (code : ExitCode) (message : String) : (failed code message).Fails code where
  exitCode := rfl
  output := rfl
  errors := by
    refine ⟨"Error: " ++ message, ?_, ?_⟩
    · intro hempty
      have hlength := congrArg String.length hempty
      rw [String.length_append] at hlength
      simp at hlength
    · simp [failed, errors, errorText, unlines, String.join]

theorem ofPrintout_whole {p : Printout} (h : p.isWhole = true) (notice : String) :
    ofPrintout p notice = .finished .success p.text notice := by
  rw [ofPrintout, h, if_pos rfl]

theorem ofPrintout_broken {p : Printout} (h : p.isWhole = false) (notice : String) :
    ofPrintout p notice = .brokenOff (.failure (.numeral .unwritable)) p.text := by
  rw [ofPrintout, h, if_neg Bool.false_ne_true]

end Outcome

/-! ### What becomes of a call -/

/-- Settings and configurations fail by faults of their own. -/
theorem load_fault {path : String} {content : FileContent} {e : Failure}
    (h : ContainerConfig.load path content = .error e) : e.IsFault := by
  unfold ContainerConfig.load at h
  split at h
  · cases h
    exact ⟨rfl, rfl⟩
  · split at h
    · cases h
      exact ⟨rfl, rfl⟩
    · rcases error_of_bind h with h | ⟨data, -, h⟩
      · obtain ⟨fault, -, rfl⟩ := error_of_mapError h
        cases fault <;> exact ⟨rfl, rfl⟩
      · obtain ⟨config, -, rfl⟩ := error_of_mapError h
        exact ⟨rfl, rfl⟩

namespace Host

theorem configure_fault {σ κ : Type} {host : Host σ κ} {globals : Globals} {e : Failure}
    (h : host.configure globals = .error e) : e.IsFault := by
  rcases error_of_bind h with h | ⟨settings, -, h⟩
  · obtain ⟨config, -, rfl⟩ := error_of_mapError h
    exact ⟨rfl, rfl⟩
  · split at h
    · cases h
    · rcases error_of_bind h with h | ⟨configs, -, h⟩
      · exact load_fault h
      · cases h

section

variable {σ κ D : Type} {host : Host σ κ} {documents : σ → D}

/-- **A call that fails** fails as a call of its kind, and no document has changed. -/
theorem call_fails (hhost : host.Dependable documents) {globals : Globals} {call : Call}
    (hcall : call.Stated) {s s' : σ} {e : Failure}
    (h : host.call globals call s = (.error e, s')) :
    call.kind.FailsWith e ∧ documents s' = documents s := by
  -- However far the call gets, closing the client comes last, and that changes no document.
  have hcalled := host.called globals call s
  rw [h] at hcalled
  cases hcalled with
  | misconfigured hconfigured =>
    exact ⟨(configure_fault hconfigured).plain.failsWith _, rfl⟩
  | withoutCredentials => exact ⟨Failure.IsPlain.failsWith ⟨rfl, rfl⟩ _, rfl⟩
  | refused _ _ hopened =>
    have hsame := hhost.account.opened hopened
    obtain ⟨error, rfl⟩ := hhost.account.refused _ _ _ (congrArg Prod.fst hopened)
    refine ⟨error.toFailure_fault.plain.failsWith _, ?_⟩
    rw [hhost.account.close, hsame]
  | @opened settings configs _ _ s₁ _ session _ _ hopened hrun =>
    have hsame := hhost.account.opened hopened
    have hfailed : documents session.outside = documents s₁ := Call.run_failed hhost.backend hrun
    refine ⟨Call.run_failsOnly hhost.backend hcall _ e (congrArg Prod.fst hrun), ?_⟩
    rw [hhost.account.close, hfailed, hsame]

/-- **A call that is answered** is answered as a call of its kind, and no document has changed if the
call only reads. -/
theorem call_answers (hhost : host.Dependable documents) {globals : Globals} {call : Call}
    {s s' : σ} {a : Answer κ} (h : host.call globals call s = (.ok a, s')) :
    call.kind.Answers a ∧ (¬ call.kind.Writes → documents s' = documents s) := by
  have hcalled := host.called globals call s
  rw [h] at hcalled
  cases hcalled with
  | @opened settings configs _ _ s₁ _ session _ _ hopened hrun =>
    have hsame := hhost.account.opened hopened
    refine ⟨Call.run_yields hhost.backend call _ a (congrArg Prod.fst hrun), fun hcall => ?_⟩
    have hreads := Call.run_reads hhost.backend hcall (Host.session settings configs s₁)
    rw [hrun] at hreads
    have hread : documents session.outside = documents s₁ := hreads
    rw [hhost.account.close, hread, hsame]

end

end Host

/-! ### What stops a command -/

namespace Host

section

variable {σ κ : Type} (host : Host σ κ) (globals : Globals) (command : Command) (s : σ)

/-- The failure that the call of a command ends with. -/
def StoppedBy (e : Failure) : Prop :=
  ∃ call, command.call host.files globals.json = .ok call
    ∧ (host.call globals call s).1 = .error e

/-- The answer that the call of a command comes to. -/
def AnsweredBy (a : Answer κ) : Prop :=
  ∃ call, command.call host.files globals.json = .ok call ∧ (host.call globals call s).1 = .ok a

/-- **What stops a command**, and the exit code that stands for it. -/
inductive Stop : ExitCode → Prop
  /-- A configuration is at fault. -/
  | misconfigured {e : ConfigError} (h : host.StoppedBy globals command s (.config e)) :
    Stop .configuration
  /-- The filter, the conditions or the options are not valid. -/
  | unusable (h : command.Unusable) : Stop .usage
  /-- The call has been rejected. -/
  | rejected {e : Failure} (h : host.StoppedBy globals command s e) (he : e.isRejection = true) :
    Stop .usage
  /-- The document to get is not there. -/
  | nothingToGet (hkind : command.kind? = some .read)
    (h : host.AnsweredBy globals command s .noDocument) : Stop .notFound
  /-- The document to replace or to delete is not there. -/
  | nothingToChange {e : Failure}
    (hkind : command.kind? = some .replace ∨ command.kind? = some .delete)
    (h : host.StoppedBy globals command s e) (he : e.isAbsent = true) : Stop .notFound
  /-- Something else has failed. -/
  | failed {e : Failure} (h : host.StoppedBy globals command s e) (he : e.IsFault)
    (hconfig : ∀ c, e ≠ .config c) : Stop .failure

/-- **What a command cannot print**: a value in its result with a whole number of too many digits. -/
inductive Unprintable : Prop
  | statement {statement : Statement} {p : Parameter} (h : command.Compiles statement)
    (hp : p ∈ statement.parameters) (hlong : p.value.isWritable = false) : Unprintable
  | answer {a : Answer κ} {v : Value} (h : host.AnsweredBy globals command s a)
    (hv : command.Prints globals.json a v) (hlong : v.isWritable = false) : Unprintable

end

section

variable {σ κ D : Type} {host : Host σ κ} {documents : σ → D} {globals : Globals}
  {command : Command} {s : σ}

theorem perform_stoppedBy {e : Failure} (h : host.StoppedBy globals command s e) :
    (host.perform globals command s).1 = .ofFailure e := by
  obtain ⟨call, hcall, hanswer⟩ := h
  rw [perform, hcall]
  dsimp only
  rcases hrun : host.call globals call s with ⟨r, s'⟩
  rw [hrun] at hanswer
  obtain rfl : r = .error e := hanswer
  rfl

theorem perform_answeredBy {a : Answer κ} (h : host.AnsweredBy globals command s a) :
    (host.perform globals command s).1 = command.report globals.json a := by
  obtain ⟨call, hcall, hanswer⟩ := h
  rw [perform, hcall]
  dsimp only
  rcases hrun : host.call globals call s with ⟨r, s'⟩
  rw [hrun] at hanswer
  obtain rfl : r = .ok a := hanswer
  rfl

/-- **What stops a command is what it ends with.** -/
theorem Stop.fails (hhost : host.Dependable documents) (hloaded : command.Loaded host.files)
    {code : ExitCode} (h : host.Stop globals command s code) :
    (host.perform globals command s).1.Fails code := by
  cases h with
  | misconfigured h =>
    rw [perform_stoppedBy h]
    exact Outcome.fails_failed _ _
  | unusable h =>
    obtain ⟨message, hmessage⟩ := Command.call_unusable h host.files globals.json
    rw [perform, hmessage]
    exact Outcome.fails_failed _ _
  | @rejected e h he =>
    -- A rejection that is about a query would be another failure, but there is none.
    have hquery : e.isOfQuery = false := by
      obtain ⟨call, hcall, hanswer⟩ := h
      obtain ⟨-, hstated⟩ := Command.of_call hloaded hcall
      exact (call_fails hhost hstated (Prod.ext hanswer rfl)).1.1
    rw [perform_stoppedBy h, Outcome.ofFailure, ExitCode.ofFailure_rejection he hquery]
    exact Outcome.fails_failed _ _
  | nothingToGet hkind h =>
    rw [perform_answeredBy h]
    cases command with
    | get entity id partition => exact Outcome.fails_failed _ _
    | _ => cases hkind
  | nothingToChange _ h he =>
    rw [perform_stoppedBy h, Outcome.ofFailure, ExitCode.ofFailure_absent he]
    exact Outcome.fails_failed _ _
  | failed h he hconfig =>
    rw [perform_stoppedBy h, Outcome.ofFailure, ExitCode.ofFailure_fault he hconfig]
    exact Outcome.fails_failed _ _

/-- **How a command ends whose result cannot be printed**: it has printed no error, and of its result
nothing unless that is printed in parts. -/
structure BreaksOff (host : Host σ κ) (documents : σ → D) (globals : Globals) (command : Command)
    (s : σ) : Prop where
  exitCode : (host.perform globals command s).1.exitCode = ExitCode.failure.toNat
  errors : (host.perform globals command s).1.errors = ""
  output : globals.json = true ∨ ¬ command.InParts → (host.perform globals command s).1.output = ""
  documents : command.kind? ≠ some .create → command.kind? ≠ some .replace →
    documents (host.perform globals command s).2 = documents s

/-- A printout that stops breaks a command off. -/
theorem breaksOff_of_printout {p : Printout} {notice : String} {s' : σ}
    (hended : host.perform globals command s = (.ofPrintout p notice, s'))
    (hbroken : p.isWhole = false) (honce : globals.json = true ∨ ¬ command.InParts → p.AtOnce)
    (hsame : command.kind? ≠ some .create → command.kind? ≠ some .replace →
      documents s' = documents s) : host.BreaksOff documents globals command s := by
  rw [Outcome.ofPrintout_broken hbroken] at hended
  constructor
  · rw [hended]
    rfl
  · rw [hended]
    rfl
  · rw [hended]
    exact fun h => honce h hbroken
  · rw [hended]
    exact hsame

/-- **A result that holds a whole number of too many digits** breaks a command off. -/
theorem Unprintable.breaksOff (hhost : host.Dependable documents)
    (hloaded : command.Loaded host.files) (h : host.Unprintable globals command s) :
    host.BreaksOff documents globals command s := by
  cases h with
  -- A statement is printed without asking for anything.
  | @statement statement p hstatement hp hlong =>
    have hended : host.perform globals command s
        = (.ofPrintout (if globals.json then statementJson statement else statementText statement)
          "", s) := by
      rw [perform, hstatement.call]
    have hbroken := (statement_printout globals.json statement).not_whole ⟨p, hp, rfl⟩ hlong
    refine breaksOff_of_printout hended hbroken (fun honce => ?_) fun _ _ => rfl
    cases command with
    | compile =>
      have hjson : globals.json = true := honce.resolve_right fun h => h trivial
      rw [if_pos hjson]
      exact atOnce_jsonText _
    | _ => exact hstatement.elim
  -- What the call has done is done, and then its answer cannot be printed.
  | @answer a v hanswered hv hlong =>
    have hended := perform_answeredBy hanswered
    obtain ⟨call, hcall, hanswer⟩ := hanswered
    obtain ⟨hkind, -⟩ := Command.of_call hloaded hcall
    obtain ⟨hanswers, hreads⟩ := call_answers hhost (Prod.ext hanswer rfl)
    rcases Command.report_printout hkind hanswers globals.json
      with ⟨-, rfl⟩ | ⟨p, notice, hreport, hof, honce⟩
    · cases command <;> exact hv.elim
    · have hstate : (host.perform globals command s).2 = (host.call globals call s).2 := by
        rw [perform, hcall]
        dsimp only
        rcases host.call globals call s with ⟨e | a, s'⟩ <;> rfl
      refine breaksOff_of_printout (Prod.ext (hended.trans hreport) hstate)
        (hof.not_whole hv hlong) honce fun hcreate hreplace => hreads fun hwrites => ?_
      rw [hkind] at hcreate hreplace
      generalize call.kind = kind at hanswers hwrites hcreate hreplace
      -- What has been deleted is not printed, so only documents that have been stored are left.
      cases hanswers with
      | create => exact hcreate rfl
      | replace => exact hreplace rfl
      | delete => cases command <;> exact hv.elim
      | _ => exact hwrites.elim

/-- **A call that has failed stops the command**, and no document has changed. -/
theorem stop_of_failed (hhost : host.Dependable documents) {call : Call}
    (hcall : command.call host.files globals.json = .ok call)
    (hkind : command.kind? = some call.kind) (hstated : call.Stated) {e : Failure} {s' : σ}
    (hrun : host.call globals call s = (.error e, s')) :
    (∃ code, host.Stop globals command s code) ∧ documents s' = documents s := by
  have hstopped : host.StoppedBy globals command s e := ⟨call, hcall, by rw [hrun]⟩
  obtain ⟨hfails, hsame⟩ := call_fails hhost hstated hrun
  refine ⟨?_, hsame⟩
  rcases failure_cases e with ⟨c, rfl⟩ | he | he | ⟨he, hconfig⟩
  · exact ⟨_, .misconfigured hstopped⟩
  · exact ⟨_, .rejected hstopped he⟩
  · -- Only replacing and deleting fail because a document is missing.
    refine ⟨_, .nothingToChange ?_ hstopped he⟩
    have hneeds := hfails.2 he
    rw [hkind]
    cases hcallKind : call.kind with
    | replace => exact .inl rfl
    | delete => exact .inr rfl
    | _ =>
      rw [hcallKind] at hneeds
      exact hneeds.elim
  · exact ⟨_, .failed hstopped he hconfig⟩

/-- **A call that has been answered** leaves its answer to be printed, unless there was no document
to get. -/
theorem answered_cases (hhost : host.Dependable documents) {call : Call}
    (hcall : command.call host.files globals.json = .ok call)
    (hkind : command.kind? = some call.kind) {a : Answer κ} {s' : σ}
    (hrun : host.call globals call s = (.ok a, s')) :
    (host.perform globals command s).1.exitCode = ExitCode.success.toNat
      ∨ ((∃ code, host.Stop globals command s code) ∧ documents s' = documents s)
      ∨ host.Unprintable globals command s := by
  have hanswered : host.AnsweredBy globals command s a := ⟨call, hcall, by rw [hrun]⟩
  obtain ⟨hanswers, hreads⟩ := call_answers hhost hrun
  rcases Command.report_printout hkind hanswers globals.json
    with ⟨hread, rfl⟩ | ⟨p, notice, hreport, hof, -⟩
  · rw [hread] at hkind hreads
    exact .inr (.inl ⟨⟨_, .nothingToGet hkind hanswered⟩, hreads id⟩)
  · rcases hwhole : p.isWhole with _ | _
    · obtain ⟨v, hv, hlong⟩ := hof.broken hwhole
      exact .inr (.inr (.answer hanswered hv hlong))
    · left
      rw [perform_answeredBy hanswered, hreport, Outcome.ofPrintout_whole hwhole]
      rfl

/-- **A command ends with success, or something stops it** and no document has changed, or its result
cannot be printed. -/
theorem perform_cases (hhost : host.Dependable documents)
    (hloaded : command.Loaded host.files) (globals : Globals) (s : σ) :
    (host.perform globals command s).1.exitCode = ExitCode.success.toNat
      ∨ ((∃ code, host.Stop globals command s code)
        ∧ documents (host.perform globals command s).2 = documents s)
      ∨ host.Unprintable globals command s := by
  by_cases husable : command.Unusable
  · obtain ⟨message, hmessage⟩ := Command.call_unusable husable host.files globals.json
    have hsame : (host.perform globals command s).2 = s := by
      rw [perform, hmessage]
    exact .inr (.inl ⟨⟨_, .unusable husable⟩, by rw [hsame]⟩)
  rcases Command.call_usable husable hloaded globals.json
    with ⟨statement, hstatement⟩ | ⟨call, hcall, hkind, hstated⟩
  · -- A statement is shown, for which nothing is asked.
    have hof := statement_printout globals.json statement
    rcases hwhole : (if globals.json then statementJson statement else statementText statement).isWhole
      with _ | _
    · obtain ⟨v, ⟨p, hp, rfl⟩, hlong⟩ := hof.broken hwhole
      exact .inr (.inr (.statement hstatement hp hlong))
    · left
      rw [perform, hstatement.call]
      dsimp only
      rw [Outcome.ofPrintout_whole hwhole]
      rfl
  -- A call is made, and the command leaves the state that the call has left.
  rcases hrun : host.call globals call s with ⟨e | a, s'⟩ <;>
  have hend : (host.perform globals command s).2 = s' := by
    rw [perform, hcall]
    dsimp only
    rw [hrun]
  · rw [hend]
    exact .inr (.inl (stop_of_failed hhost hcall hkind hstated hrun))
  · rw [hend]
    exact answered_cases hhost hcall hkind hrun

/-! ### Exit codes -/

/-- **A number other than that of success tells what has stopped the command**, unless it is that of
a failure and the result cannot be printed. -/
theorem exitCode_iff (hhost : host.Dependable documents) (hloaded : command.Loaded host.files)
    {code : ExitCode} (hcode : code ≠ .success) :
    (host.perform globals command s).1.exitCode = code.toNat ↔
      host.Stop globals command s code ∨ code = .failure ∧ host.Unprintable globals command s := by
  constructor
  · intro hnumber
    rcases perform_cases hhost hloaded globals s with hsuccess | ⟨⟨code', hstop⟩, -⟩ | hlong
    · rw [hnumber] at hsuccess
      exact absurd (ExitCode.eq_of_toNat hsuccess) hcode
    · -- Different codes have different numbers.
      have hsame := (hstop.fails hhost hloaded).exitCode
      rw [hnumber] at hsame
      obtain rfl := ExitCode.eq_of_toNat hsame
      exact .inl hstop
    · have hsame := (hlong.breaksOff hhost hloaded).exitCode
      rw [hnumber] at hsame
      exact .inr ⟨ExitCode.eq_of_toNat hsame, hlong⟩
  · rintro (hstop | ⟨rfl, hlong⟩)
    · exact (hstop.fails hhost hloaded).exitCode
    · exact (hlong.breaksOff hhost hloaded).exitCode

/-- The numbers of usage, configuration and missing documents stand for nothing else. -/
theorem exitCode_iff_stop (hhost : host.Dependable documents) (hloaded : command.Loaded host.files)
    (code : ExitCode) (hcode : code ≠ .success) (hother : code ≠ .failure) :
    (host.perform globals command s).1.exitCode = code.toNat
      ↔ host.Stop globals command s code := by
  rw [exitCode_iff hhost hloaded hcode, or_iff_left fun h => hother h.1]

/-- **A command succeeds when nothing stops it** and its result can be printed. -/
theorem exitCode_success_iff (hhost : host.Dependable documents)
    (hloaded : command.Loaded host.files) :
    (host.perform globals command s).1.exitCode = ExitCode.success.toNat ↔
      (∀ code, ¬ host.Stop globals command s code) ∧ ¬ host.Unprintable globals command s := by
  constructor
  · intro hsuccess
    refine ⟨fun code hstop => ?_, fun hlong => ?_⟩
    · have hnumber := (hstop.fails hhost hloaded).exitCode
      rw [hsuccess] at hnumber
      obtain rfl := ExitCode.eq_of_toNat hnumber
      cases hstop
    · have hnumber := (hlong.breaksOff hhost hloaded).exitCode
      rw [hsuccess] at hnumber
      cases hnumber
  · rintro ⟨hnone, hprintable⟩
    rcases perform_cases hhost hloaded globals s with hsuccess | ⟨⟨code, hstop⟩, -⟩ | hlong
    · exact hsuccess
    · exact absurd hstop (hnone code)
    · exact absurd hlong hprintable

end

/-! ### Command lines -/

section

variable {σ κ : Type} (host : Host σ κ) (s : σ)

/-- What stops a command line. -/
def Stops (code : ExitCode) : Invocation → Prop
  | .command globals command => host.Stop globals command s code
  | _ => False

/-- **What breaks a command line off**: a log level that is refused, and a result that cannot be
printed. -/
def Breaks : Invocation → Prop
  | .version => False
  | .unlogged _ => True
  | .command globals command => host.Unprintable globals command s

end

end Host

/-- A command line whose document, if it takes one, has been read. -/
def Invocation.Loaded (files : FileSystem) : Invocation → Prop
  | .command _ asked => asked.Loaded files
  | _ => True

/-- A command line whose result is printed in parts. -/
def Invocation.InParts : Invocation → Prop
  | .command globals asked => globals.json = false ∧ asked.InParts
  | _ => False

/-- A command line that stores a document. -/
def Invocation.Stores : Invocation → Prop
  | .command _ (.create ..) | .command _ (.replace ..) => True
  | _ => False

namespace Host

/-- **A command that fails changes and prints nothing, unless it breaks off.**  On a service that can
be depended on, every command line that is understood, and whose document has been read, ends with the
exit code that stands for what has stopped it, or with success when nothing has.  When it has been
stopped, it has printed nothing but an error, and all documents are as before.

A command line can also break off, because its log level is refused or because its result holds a
whole number of too many digits.  Then it exits with 1, but no error is printed; of a result that is
printed in parts, which is a document or a statement as text, the first lines may have been printed;
and only a document that was to be stored may have been. -/
theorem command_ends {σ D : Type} {host : Host σ String} {service : Service σ}
    {base : Backend σ String} {documents : σ → D} (hbackend : host.backend = service.backend base)
    (haccount : host.account.Dependable documents) (hservice : service.Dependable documents)
    (hbase : base.Timely documents) {arguments : List String} {asked : Invocation}
    (hparse : Invocation.parse? arguments = some asked) (hloaded : asked.Loaded host.files) (s : σ) :
    let ended : Outcome × σ := host.run arguments s
    (ended.1.exitCode = 4 ↔ host.Stops s .configuration asked)
      ∧ (ended.1.exitCode = 2 ↔ host.Stops s .usage asked)
      ∧ (ended.1.exitCode = 3 ↔ host.Stops s .notFound asked)
      ∧ (ended.1.exitCode = 1 ↔ host.Stops s .failure asked ∨ host.Breaks s asked)
      ∧ (ended.1.exitCode = 0 ↔ (∀ code, ¬ host.Stops s code asked) ∧ ¬ host.Breaks s asked)
      ∧ (ended.1.exitCode ≠ 0 → ¬ host.Breaks s asked → ended.1.output = ""
        ∧ (∃ line, line ≠ "" ∧ ended.1.errors = unlines [line])
        ∧ documents ended.2 = documents s)
      ∧ (host.Breaks s asked → ended.1.errors = "" ∧ (¬ asked.InParts → ended.1.output = "")
        ∧ (¬ asked.Stores → documents ended.2 = documents s)) := by
  intro ended
  have hhost : host.Dependable documents := by
    refine ⟨haccount, ?_⟩
    rw [hbackend]
    exact hservice.backend hbase
  have hended : ended = host.run arguments s := rfl
  rw [run, hparse] at hended
  cases asked with
  | version =>
    rw [hended]
    simp [Stops, Breaks, Outcome.printed, Outcome.exitCode, ExitCode.toNat]
  | unlogged e =>
    rw [hended]
    simp [Stops, Breaks, Outcome.exitCode, Outcome.errors, Outcome.output, ExitCode.toNat]
  | command globals command =>
    replace hended : ended = host.perform globals command s := hended
    rw [hended]
    have hfailure : (host.perform globals command s).1.exitCode = ExitCode.failure.toNat
        ↔ host.Stop globals command s .failure ∨ host.Unprintable globals command s := by
      rw [exitCode_iff hhost hloaded (by decide), eq_self, true_and]
    refine ⟨exitCode_iff_stop hhost hloaded .configuration (by decide) (by decide),
      exitCode_iff_stop hhost hloaded .usage (by decide) (by decide),
      exitCode_iff_stop hhost hloaded .notFound (by decide) (by decide), hfailure,
      exitCode_success_iff hhost hloaded, fun hfailed hprintable => ?_, fun hlong => ?_⟩
    · -- The command has neither succeeded nor broken off, so something has stopped it.
      rcases perform_cases hhost hloaded globals s with hsuccess | ⟨⟨code, hstop⟩, hsame⟩ | hlong
      · exact absurd hsuccess hfailed
      · have hfails := hstop.fails hhost hloaded
        exact ⟨hfails.output, hfails.errors, hsame⟩
      · exact absurd hlong hprintable
    · obtain ⟨-, herrors, houtput, hsame⟩ := hlong.breaksOff hhost hloaded
      refine ⟨herrors, fun hparts => houtput ?_, fun hstores => hsame ?_ ?_⟩
      · cases hjson : globals.json with
        | true => exact .inl rfl
        | false => exact .inr fun h => hparts ⟨hjson, h⟩
      · cases command with
        | create => exact absurd trivial hstores
        | _ => rintro ⟨⟩
      · cases command with
        | replace => exact absurd trivial hstores
        | _ => rintro ⟨⟩

/-! ### A host with one container -/

namespace OneContainer

/-- What a call about a document comes to in a container: the answer and the container then, or
nothing when there is no such document. -/
def asked (c : MemoryContainer) : ItemCall → Except Failure (Option (Value × MemoryContainer))
  | .create body => (c.create body).map fun c' => some (.object body, c')
  | .read id partition =>
    (c.read? id partition).map fun found => found.map fun document => (.object document, c)
  | .replace id body =>
    (c.replace? id body).map fun changed => changed.map fun c' => (.object body, c')
  | .delete id partition =>
    (c.delete? id partition).map fun changed => changed.map fun c' => (.null, c')

/-- A service whose database has a single container. -/
def service : Service MemoryContainer where
  provision _ _ c := (.ok (), c)
  item _ call c :=
    match asked c call with
    | .ok (some (v, c')) => (.ok v, c')
    | .ok none => (.error (.answered ⟨.resourceNotFound, 404⟩), c)
    | .error (.exists_ _) => (.error (.answered ⟨.resourceExists, 409⟩), c)
    | .error e => (.error (.refused e.message), c)
  pages _ request c :=
    match c.page none request with
    | .ok page => (.ok [page], c)
    | .error e => (.error (.refused e.message), c)

/-- A clock that stands still, and the same id over and over. -/
def base : Backend MemoryContainer String where
  now c := (.ok ⟨⟨2025, 1, 1⟩, 0, 0, 0, 0, none⟩, c)
  newId c := ("new", c)
  provision containerId _ c := (.ok containerId, c)
  perform _ c := (.error .endless, c)
  close c := c
  patience _ := 1

/-- The host of that service. -/
def host : Host MemoryContainer String where
  environment := [("DOCSTORE_ENDPOINT", "https://localhost:8081"), ("DOCSTORE_KEY", "secret")]
  files _ := .error .missing
  account := { connect := fun _ _ c => c, openDatabase := fun _ c => (.ok (), c), close := id }
  backend := service.backend base

/-- What is answered is a document, unless one was to be deleted. -/
theorem object_of_asked {c c' : MemoryContainer} {call : ItemCall} {v : Value}
    (h : asked c call = .ok (some (v, c'))) :
    v.isObject = true ∨ ∃ id partition, call = .delete id partition := by
  cases call with
  | create body =>
    obtain ⟨c₁, -, h⟩ := ok_of_map h
    cases h
    exact .inl rfl
  | read id partition | replace id body =>
    obtain ⟨found, -, h⟩ := ok_of_map h
    cases found <;> cases h
    exact .inl rfl
  | delete id partition => exact .inr ⟨id, partition, rfl⟩

theorem service_dependable : service.Dependable MemoryContainer.documents where
  provision _ _ _ := rfl
  read containerId id partition c := by
    cases hread : c.read? id partition with
    | error e => cases e <;> simp [service, asked, hread, Except.map]
    | ok found => cases found <;> simp [service, asked, hread, Except.map]
  pages containerId request c := by
    cases hpage : c.page none request <;> simp [service, hpage]
  item_fails containerId call c e h := by
    unfold service at h ⊢
    dsimp only at h ⊢
    split at h
    · cases h
    · rfl
    · rfl
    · rfl
  item_object containerId call c v h := by
    unfold service at h
    dsimp only at h
    split at h
    · next hasked =>
      cases h
      exact object_of_asked hasked
    all_goals cases h
  pages_objects containerId request c pages h hcounts := by
    unfold service at h
    dsimp only at h
    split at h <;> cases h
    next page hpage =>
    simp only [List.mem_singleton, forall_eq]
    intro v hv
    obtain ⟨d, -, rfl⟩ := MemoryContainer.mem_page hcounts hpage hv
    rfl

end OneContainer

/-- A document that is not there cannot be deleted, and the other one stays. -/
theorem command_ends_delete :
    let command : Command := .delete "order" "1" none
    let c : MemoryContainer :=
      { partitionPath := ["id"], documents := [(⟨.str "2", "2"⟩, [("id", .str "2")])] }
    let ended : Outcome × MemoryContainer :=
      OneContainer.host.run ["--auto-register", "delete", "order", "1"] c
    ended.1.exitCode = 3
      ∧ OneContainer.host.Stop { autoRegister := true } command c .notFound
      ∧ ended.1.output = "" ∧ ended.2.documents = c.documents := by
  intro command c ended
  have hbackend : OneContainer.host.backend = OneContainer.service.backend OneContainer.base := rfl
  have haccount : OneContainer.host.account.Dependable MemoryContainer.documents :=
    ⟨fun _ _ _ => rfl, fun _ _ => rfl, fun _ => rfl, by rintro name s e ⟨⟩⟩
  have hbase : OneContainer.base.Timely MemoryContainer.documents :=
    ⟨fun _ => rfl, fun _ => rfl, by rintro c e ⟨⟩⟩
  have hparse : Invocation.parse? ["--auto-register", "delete", "order", "1"]
      = some (.command { autoRegister := true } command) := by decide
  have hloaded : (Invocation.command { autoRegister := true } command).Loaded
      OneContainer.host.files := trivial
  obtain ⟨-, -, hnotFound, hfailure, -, hunchanged, -⟩ := command_ends hbackend haccount
    OneContainer.service_dependable hbase hparse hloaded c
  have hexit : ended.1.exitCode = 3 := by decide +kernel
  have hprovided : ¬ OneContainer.host.Breaks c (.command { autoRegister := true } command) := by
    intro hbreaks
    have hone : ended.1.exitCode = 1 := hfailure.2 (.inr hbreaks)
    rw [hexit] at hone
    cases hone
  obtain ⟨hsilent, -, hsame⟩ := hunchanged (by rw [hexit]; decide) hprovided
  exact ⟨hexit, hnotFound.1 hexit, hsilent, hsame⟩

/-- **A count that cannot be written ends without an error.**  The service answers with a page that
holds one number, which has more digits than are written. -/
theorem unprintable_count :
    let host : Host MemoryContainer String :=
      { OneContainer.host with
        backend := Service.backend
          { OneContainer.service with pages := fun _ _ c => (.ok [⟨[.int (10 ^ 4300)], none⟩], c) }
          OneContainer.base }
    let c : MemoryContainer := { partitionPath := ["id"] }
    let ended : Outcome × MemoryContainer := host.run ["--auto-register", "count", "order"] c
    ended.1.exitCode = 1 ∧ ended.1.output = "" ∧ ended.1.errors = "" := by
  decide +kernel

/-- **A log level that is none ends a command without an error**, before its arguments are read. -/
theorem refused_log_level :
    let ended : Outcome × MemoryContainer :=
      OneContainer.host.run ["--log-level", "basic_format", "count"] { partitionPath := ["id"] }
    ended.1.exitCode = 1 ∧ ended.1.output = "" ∧ ended.1.errors = "" := by
  decide +kernel

end Host

end Console

end EntityStore
