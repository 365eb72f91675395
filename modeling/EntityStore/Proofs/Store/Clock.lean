import EntityStore.Proofs.Store.LastWrite
import EntityStore.Proofs.Time.Calendar

/-!
# Documents carry the times in the order in which these were read

A clock is steady when it never goes back, whatever is done outside (`Backend.Steady`).  Calls read
it before they wait for their container, so the readings of a run are in order (`Crew.Timed`), but
the writes need not be: a call can be overtaken by another between its reading and its write.

`updated_as_read` says what holds of the writes of any run.  A later write carries an earlier time
only when its call has read the clock before the call of the earlier write did.  `updated_overtaken`
is a run in which that happens, with one document and one container: its time of change goes back.
-/

namespace EntityStore

/-! ### Steady clocks -/

/-- **A clock that never goes back**: what it shows lies between where it stands before the reading
and after it, and nothing that is done outside turns it back. -/
structure Backend.Steady {σ κ : Type} (b : Backend σ κ) (clock : σ → Int) : Prop where
  before : ∀ o t, (b.now o).1 = .ok t → clock o ≤ t.instant
  after : ∀ o t, (b.now o).1 = .ok t → t.instant ≤ clock (b.now o).2
  now : ∀ o, clock o ≤ clock (b.now o).2
  newId : ∀ o, clock o ≤ clock (b.newId o).2
  provision : ∀ containerId path o, clock o ≤ clock (b.provision containerId path o).2
  perform : ∀ q o, clock o ≤ clock (b.perform q o).2

/-- The clock of the local backend goes on by one second with each reading. -/
theorem LocalState.backend_steady : LocalState.backend.Steady fun o => o.clock.instant where
  before o t h := by
    change (LocalState.now o).1 = _ at h
    rw [LocalState.now] at h
    split at h
    · cases h
      exact Int.le_refl _
    · cases h
  after o t h := by
    change (LocalState.now o).1 = _ at h
    show t.instant ≤ (LocalState.now o).2.clock.instant
    rw [LocalState.now] at h ⊢
    split at h
    · -- The clock is put forward by a second when it is read.
      next t' hnext =>
      cases h
      have hlater := DateTime.instant_nextSecond hnext
      show o.clock.instant ≤ t'.instant
      omega
    · cases h
  now o := by
    show o.clock.instant ≤ (LocalState.now o).2.clock.instant
    rw [LocalState.now]
    split
    · next t hnext =>
      have hlater := DateTime.instant_nextSecond hnext
      show o.clock.instant ≤ t.instant
      omega
    · exact Int.le_refl _
  newId o := Int.le_refl _
  provision containerId path o := Int.le_refl _
  perform q o := Int.le_refl _

/-- A session whose clock stands no earlier than that of another one. -/
def Session.NoEarlier {σ κ : Type} (clock : σ → Int) (s s' : Session σ κ) : Prop :=
  clock s.outside ≤ clock s'.outside

instance {σ κ : Type} (clock : σ → Int) : IsPreorder (Session σ κ) (Session.NoEarlier clock) where
  refl _ := Int.le_refl _
  trans _ _ _ := Int.le_trans

section

variable {σ κ : Type} {b : Backend σ κ} {clock : σ → Int} (hclock : b.Steady clock)

include hclock

theorem Backend.Idle.clock_le {o o' : σ} (h : b.Idle o o') : clock o ≤ clock o' := by
  induction h with
  | refl => exact Int.le_refl _
  | now _ ih => exact Int.le_trans ih (hclock.now _)
  | newId _ ih => exact Int.le_trans ih (hclock.newId _)

/-- Doing work does not turn the clock back. -/
theorem perform_noEarlier (entity : String) (container : κ) (work : Work) :
    Run.Keeps (Session.NoEarlier clock) (work.perform b entity container) := by
  have hrequest (q : Request κ) :
      Run.Keeps (Session.NoEarlier clock)
        (Session.consult (b.perform q) : Run (Session σ κ) q.Reply) :=
    fun s => hclock.perform q s.outside
  exact keeps_perform entity work (fun s => Int.le_refl _) (fun body _ => hrequest _)
    (fun id body _ => hrequest _) (fun id partition _ => hrequest _) (fun id partition => hrequest _)
    (fun request => hrequest _)

/-- **What a call reads** lies between where the clock stood before and after it was prepared. -/
theorem Call.reading_between {call : Call} {r : Except Failure (Prepared κ)} {s s' : Session σ κ}
    (hprepare : call.prepare b s = (r, s')) {now : DateTime}
    (hreading : call.reading? b s = some now) :
    clock s.outside ≤ now.instant ∧ now.instant ≤ clock s'.outside := by
  obtain ⟨p, s₁, hready⟩ := prepared_of_reading hreading
  rw [hprepare] at hready
  cases hready
  rcases prepare_drafts hprepare with ⟨-, hnone, -⟩ | ⟨_, _, now', o, -, -, -, hsome, -, ho, hnow, hs⟩
  · rw [hreading] at hnone
    cases hnone
  · rw [hreading] at hsome
    cases hsome
    have hbefore : clock s.outside ≤ clock o := by
      rcases ho with rfl | rfl
      · exact Int.le_refl _
      · exact hclock.newId _
    rw [hs]
    exact ⟨Int.le_trans hbefore (hclock.before o now hnow), hclock.after o now hnow⟩

end

namespace Crew

section

variable {σ κ : Type} {b : Backend σ κ} {clock : σ → Int} {s s' s₁ : Session σ κ}
  {stage stage' : Stage κ}

theorem Reached.noEarlier (hclock : b.Steady clock) {entity : String} {work : Work}
    (h : Reached b s stage entity work s₁) : clock s.outside ≤ clock s₁.outside :=
  h.approached.outside.clock_le hclock

/-- A turn of a task that has not started begins with preparing its call. -/
theorem Turn.prepared (hclock : b.Steady clock) (h : Turn b s stage stage' s') :
    ∃ s₁, clock s.outside ≤ clock s₁.outside ∧ clock s₁.outside ≤ clock s'.outside
      ∧ ∀ call, stage = .starting call → ∃ r, call.prepare b s = (r, s₁) := by
  -- Time does not go back while a call is prepared.
  have hprepared {call : Call} {r : Except Failure (Prepared κ)} {s₁ : Session σ κ}
      (hprepare : call.prepare b s = (r, s₁)) : clock s.outside ≤ clock s₁.outside := by
    have happroached := (Call.prepare_approached call).of_eq hprepare
    exact happroached.outside.clock_le hclock
  have hreach {entity : String} {work : Work} {s₁ : Session σ κ}
      (hreached : Reached b s stage entity work s₁) (call : Call) (hcall : stage = .starting call) :
      ∃ r, call.prepare b s = (r, s₁) := by
    subst hcall
    cases hreached with
    | starting hprepare => exact ⟨_, hprepare⟩
  cases h with
  | failed hprepare | answered hprepare | unknown hprepare =>
    refine ⟨s', hprepared hprepare, Int.le_refl _, ?_⟩
    rintro call ⟨⟩
    exact ⟨_, hprepare⟩
  | waits s₁ router hprepare =>
    refine ⟨s₁, hprepared hprepare, Int.le_refl _, ?_⟩
    rintro call ⟨⟩
    exact ⟨_, hprepare⟩
  | calls s₁ router hreached =>
    exact ⟨s₁, hreached.noEarlier hclock, hclock.provision _ _ _, hreach hreached⟩
  | refused =>
    refine ⟨s, Int.le_refl _, Int.le_refl _, ?_⟩
    rintro call ⟨⟩
  | @works _ entity work container s₁ router hreached _ _ _ _ _ hperform =>
    have hwork := (perform_noEarlier hclock entity container work).of_eq hperform
    exact ⟨s₁, hreached.noEarlier hclock, hwork, hreach hreached⟩

/-- **A turn does not turn the clock back**, and what is read in it lies between where the clock
stood before and after. -/
theorem Turn.reading_between (hclock : b.Steady clock) (task : Nat) (h : Turn b s stage stage' s') :
    clock s.outside ≤ clock s'.outside ∧ ∀ r ∈ readingOf b task s stage,
      clock s.outside ≤ r.time.instant ∧ r.time.instant ≤ clock s'.outside := by
  obtain ⟨s₁, hfirst, hrest, hstarting⟩ := h.prepared hclock
  refine ⟨Int.le_trans hfirst hrest, ?_⟩
  intro r hr
  obtain ⟨-, call, rfl⟩ := task_of_readingOf hr
  obtain ⟨now, hnow, rfl⟩ := List.mem_map.1 hr
  obtain ⟨p, hprepare⟩ := hstarting call rfl
  have hreading : call.reading? b s = some now := Option.mem_toList.1 hnow
  obtain ⟨hbefore, hafter⟩ := Call.reading_between hclock hprepare hreading
  exact ⟨hbefore, Int.le_trans hafter hrest⟩

end

/-! ### Readings in order -/

/-- **The clock has been read in order**, and stands no earlier than any reading so far. -/
structure Timed {σ κ : Type} (clock : σ → Int) (readings : List Reading) (c : Crew σ κ) :
    Prop where
  ordered : readings.Pairwise fun r r' => r.time.instant ≤ r'.time.instant
  past : ∀ r ∈ readings, r.time.instant ≤ clock c.session.outside

section

variable {σ κ : Type} {b : Backend σ κ} {clock : σ → Int} {readings : List Reading} {task : Nat}
  {c c' : Crew σ κ} {stage stage' : Stage κ}

theorem readingOf_pairwise {s : Session σ κ} (R : Reading → Reading → Prop) :
    (readingOf b task s stage).Pairwise R := by
  cases stage with
  | starting call =>
    cases hreading : call.reading? b s with
    | none =>
      rw [readingOf, hreading]
      exact .nil
    | some now =>
      rw [readingOf, hreading]
      exact List.pairwise_singleton ..
  | queued | provisioning | finished => exact .nil

theorem Timed.turn (hclock : b.Steady clock) (h : Timed clock readings c)
    (ht : Turned b task c c' stage stage') :
    Timed clock (readings ++ readingOf b task c.session stage) c' := by
  obtain ⟨hsteady, hbetween⟩ := Turn.reading_between hclock task ht.turn
  constructor
  case ordered =>
    refine List.pairwise_append.2 ⟨h.ordered, readingOf_pairwise _, ?_⟩
    intro r hr r' hr'
    exact Int.le_trans (h.past r hr) (hbetween r' hr').1
  case past =>
    intro r hr
    rcases List.mem_append.1 hr with hr | hr
    · exact Int.le_trans (h.past r hr) hsteady
    · exact (hbetween r hr).2

theorem Timed.advance (hclock : b.Steady clock) (h : Timed clock readings c) (task : Nat) :
    Timed clock (readings ++ c.read b task) (c.advance b task).1 := by
  rcases advance_turn b c task with ⟨hidle, hstarting⟩ | ⟨stage, stage', ht⟩
  · rw [read_of_not_starting hstarting, hidle, List.append_nil]
    exact h
  · rw [ht.read_eq]
    exact h.turn hclock ht

/-- **A whole run reads the clock in order.** -/
theorem Timed.run (hclock : b.Steady clock) (h : Timed clock readings c) (schedule : List Nat) :
    Timed clock (readings ++ c.readings b schedule) (c.run b schedule) := by
  induction schedule generalizing c readings with
  | nil =>
    rw [Crew.readings, List.append_nil]
    exact h
  | cons task schedule ih =>
    rw [Crew.readings, ← List.append_assoc]
    exact ih (h.advance hclock task)

end

/-! ### Writes -/

/-- Of two members of a list one comes before the other, unless they are the same. -/
theorem sublist_or_sublist {α : Type} {l : List α} {x y : α} (hx : x ∈ l) (hy : y ∈ l) :
    x = y ∨ [x, y].Sublist l ∨ [y, x].Sublist l := by
  induction l with
  | nil => exact absurd hx List.not_mem_nil
  | cons z l ih =>
    rcases List.mem_cons.1 hx with hxz | hxl
    · rcases List.mem_cons.1 hy with hyz | hyl
      · exact .inl (hxz.trans hyz.symm)
      · rw [hxz]
        exact .inr (.inl ((List.singleton_sublist.2 hyl).cons_cons z))
    · rcases List.mem_cons.1 hy with hyz | hyl
      · rw [hyz]
        exact .inr (.inr ((List.singleton_sublist.2 hxl).cons_cons z))
      · rcases ih hxl hyl with heq | hfirst | hsecond
        · exact .inl heq
        · exact .inr (.inl (hfirst.cons z))
        · exact .inr (.inr (hsecond.cons z))

end Crew

/-- **A stored document holds the time** that its call has read. -/
theorem Call.Stores.updated {now : DateTime} {call : Call} {body : Fields}
    (h : call.Stores now body) :
    ∃ time, now.timestamp? = some time
      ∧ body.get? Document.updatedField = some (.str time) := by
  cases h with
  | create hgiven htime hstored => exact ⟨_, htime, hstored.updated⟩
  | replace htime hstored => exact ⟨_, htime, hstored.updated⟩

namespace Crew

variable {σ : Type}

/-- **Documents carry the times in the order in which these were read.**  Calls run side by side, in
any schedule, over a database in memory and with a clock that never goes back.  The clock is then
read in order, and every write carries the time that its call has read.  So of two writes, whichever
documents they are of, the later carries no earlier time, unless its call had read the clock before
the call of the earlier one. -/
theorem updated_as_read (b : Backend σ String) (memory : σ → Memory) (hb : b.InMemory memory)
    (clock : σ → Int) (hclock : b.Steady clock) (s : Session σ String) (calls : List Call)
    (schedule : List Nat) :
    let start : Crew σ String := ⟨s, calls.map .starting⟩
    let readings := start.readings b schedule
    readings.Pairwise (fun r r' => r.time.instant ≤ r'.time.instant)
      ∧ ∀ w w', [w, w'].Sublist (start.writes b schedule) →
        ∃ r ∈ readings, ∃ r' ∈ readings, r.task = w.task ∧ r'.task = w'.task
          ∧ (∃ time, r.time.timestamp? = some time
            ∧ w.body.get? Document.updatedField = some (.str time))
          ∧ (∃ time, r'.time.timestamp? = some time
            ∧ w'.body.get? Document.updatedField = some (.str time))
          ∧ (r.time.instant ≤ r'.time.instant ∨ [r', r].Sublist readings) := by
  intro start readings
  have hrecorded := (recorded_starting s calls).run hb schedule
  -- No task has read the clock in the beginning.
  have hnew : Timed clock [] start := ⟨.nil, fun _ hr => absurd hr List.not_mem_nil⟩
  have htimed := hnew.run hclock schedule
  rw [List.nil_append, List.nil_append] at hrecorded
  rw [List.nil_append] at htimed
  refine ⟨htimed.ordered, ?_⟩
  intro w w' hwrites
  have hmem : w ∈ start.writes b schedule := hwrites.subset List.mem_cons_self
  have hmem' : w' ∈ start.writes b schedule :=
    hwrites.subset (List.mem_cons_of_mem _ List.mem_cons_self)
  obtain ⟨call, now, -, hread, hstores⟩ := hrecorded.stores w hmem
  obtain ⟨call', now', -, hread', hstores'⟩ := hrecorded.stores w' hmem'
  refine ⟨_, hread, _, hread', rfl, rfl, hstores.updated, hstores'.updated, ?_⟩
  -- The two readings are one, or one of them is the earlier.
  rcases sublist_or_sublist hread hread' with heq | hfirst | hsecond
  · have htime : now = now' := congrArg Reading.time heq
    exact .inl (htime ▸ Int.le_refl _)
  · have hordered := List.Pairwise.sublist hfirst htimed.ordered
    have hle := List.pairwise_pair.1 hordered
    exact .inl hle
  · exact .inr hsecond

/-- A document is created, and two calls replace it at the same time. -/
def overtakingCalls : List Call :=
  let replacement (n : Int) : Call :=
    .replace (some "order") (some "1") (.object [("version", .int n)])
  [.create (some "order") (some "1") (.object []), replacement 1, replacement 2]

/-- The calls start with nothing provisioned. -/
def overtaking : Crew LocalState String :=
  ⟨⟨{ registry := .ofList [⟨"order", "orders", "id"⟩] false }, 10,
      { clock := ⟨⟨2024, 1, 1⟩, 0, 0, 0, 0, none⟩, ids := ⟨[], 0⟩ }⟩,
    overtakingCalls.map .starting⟩

/-- The last of three writes carries an earlier time than the one before, and its call has read the
clock before the other one did. -/
theorem updated_as_read_overtaken :
    let schedule := [0, 1, 0, 2, 1]
    let readings := overtaking.readings LocalState.backend schedule
    let writes := overtaking.writes LocalState.backend schedule
    LocalState.backend.InMemory LocalState.memory
      ∧ LocalState.backend.Steady (fun o => o.clock.instant)
      ∧ readings.map (·.task) = [0, 1, 2] ∧ writes.map (·.task) = [0, 2, 1]
      ∧ ∀ w w', [w, w'].Sublist writes → ∃ r ∈ readings, ∃ r' ∈ readings,
        r.task = w.task ∧ r'.task = w'.task
          ∧ (r.time.instant ≤ r'.time.instant ∨ [r', r].Sublist readings) := by
  intro schedule readings writes
  refine ⟨LocalState.backend_inMemory, LocalState.backend_steady, by decide +kernel,
    by decide +kernel, ?_⟩
  intro w w' hwrites
  obtain ⟨-, hall⟩ := updated_as_read LocalState.backend LocalState.memory
    LocalState.backend_inMemory _ LocalState.backend_steady overtaking.session overtakingCalls
    schedule
  obtain ⟨r, hr, r', hr', htask, htask', -, -, horder⟩ := hall w w' hwrites
  exact ⟨r, hr, r', hr', htask, htask', horder⟩

/-- **The time of change of a document can go back**, though the clock does not.  The first replacing
call has read the clock and waits for the container; the second one, which finds the container
known, reads the clock later and writes first.  The version that is left carries an earlier time
than the one before. -/
theorem updated_overtaken :
    let schedule := [0, 1, 0, 2, 1]
    let containers :=
      (overtaking.run LocalState.backend schedule).session.outside.memory.containers
    LocalState.backend.Steady (fun o => o.clock.instant)
      ∧ (overtaking.readings LocalState.backend schedule).map (fun r => (r.task, r.time.second))
        = [(0, 0), (1, 1), (2, 2)]
      ∧ (overtaking.writes LocalState.backend schedule).map
          (fun w => (w.task, w.container, (MemoryContainer.idOf w.body).text,
            (w.body.get? Document.updatedField).map Value.text))
        = [(0, "orders", "1", some "2024-01-01T00:00:00+00:00"),
          (2, "orders", "1", some "2024-01-01T00:00:02+00:00"),
          (1, "orders", "1", some "2024-01-01T00:00:01+00:00")]
      ∧ (containers.get? "orders").map (fun c => c.documents.map fun p =>
          (p.1.id, (p.2.get? "version").map Value.text,
            (p.2.get? Document.updatedField).map Value.text))
        = some [("1", some "1", some "2024-01-01T00:00:01+00:00")] := by
  intro schedule containers
  exact ⟨LocalState.backend_steady, by decide +kernel, by decide +kernel, by decide +kernel⟩

end Crew

end EntityStore
