import EntityStore.Proofs.Store.Written

/-!
# Every stored document is the last one written under its key

Calls run side by side over a database in memory, in any schedule and over any registry.  Whatever
has happened, an entry of a container is what the last write under its key has left
(`LastWritten`): it stands under its own partition value and id, and the write is that of a call
which has had its document stamped with what the clock showed to it (`Call.Stores`).

Three invariants are carried through the turns.  `Crew.Drafted` is about the tasks: a document that
waits to be written has been drafted for the call of its task with the one reading of the clock that
the task has taken.  `Crew.Recorded` says the same of the writes so far, and `Crew.Kept` is about the
database.  `stored_as_written` starts them from an empty one.
-/

namespace EntityStore

/-! ### Last writes -/

/-- **A write is the last one under the key of an entry** of a container, and has left the entry. -/
structure LastWritten (writes : List (Write String)) (containerId : String) (c : MemoryContainer)
    (p : DocumentKey × Fields) (w : Write String) : Prop where
  last : ∃ earlier later, writes = earlier ++ w :: later
    ∧ ∀ w' ∈ later, w'.container = containerId → (p.1 == c.keyOf w'.body) = false
  container : w.container = containerId
  body : w.body = p.2
  key : p.1 = c.keyOf p.2 ∨ (p.1 == c.keyOf p.2) = true

namespace LastWritten

variable {writes : List (Write String)} {containerId : String} {c c' : MemoryContainer}
  {p : DocumentKey × Fields} {w : Write String}

/-- Only the partition path of the container matters. -/
theorem of_path (h : LastWritten writes containerId c p w)
    (hpath : c'.partitionPath = c.partitionPath) : LastWritten writes containerId c' p w := by
  have hkey : c'.keyOf = c.keyOf := by
    funext body
    rw [MemoryContainer.keyOf, MemoryContainer.partitionOf, hpath]
    rfl
  constructor
  case last =>
    rw [hkey]
    exact h.last
  case container => exact h.container
  case body => exact h.body
  case key =>
    rw [hkey]
    exact h.key

/-- A write under another key, or to another container, does not matter. -/
theorem append (h : LastWritten writes containerId c p w) {w' : Write String}
    (hw : w'.container = containerId → (p.1 == c.keyOf w'.body) = false) :
    LastWritten (writes ++ [w']) containerId c p w where
  last := by
    obtain ⟨earlier, later, rfl, hlater⟩ := h.last
    refine ⟨earlier, later ++ [w'], by rw [List.append_assoc, List.cons_append], ?_⟩
    intro w'' hmem
    rcases List.mem_append.1 hmem with hmem | hmem
    · exact hlater w'' hmem
    · rw [List.mem_singleton.1 hmem]
      exact hw
  container := h.container
  body := h.body
  key := h.key

theorem of_new (hcontainer : w.container = containerId) (hbody : w.body = p.2)
    (hkey : p.1 = c.keyOf p.2 ∨ (p.1 == c.keyOf p.2) = true) :
    LastWritten (writes ++ [w]) containerId c p w where
  last := ⟨writes, [], rfl, fun _ h => absurd h List.not_mem_nil⟩
  container := hcontainer
  body := hbody
  key := hkey

end LastWritten

/-! ### Tasks and their drafts -/

/-- A task that has a document to write has drafted it for its call, with the time that it has
read. -/
def Stage.Drafted {κ : Type} (readings : List Reading) (task : Nat) (call : Call) :
    Stage κ → Prop
  | .starting call' => call' = call
  | .queued entity _ work | .provisioning entity _ work =>
    ∀ body, work.body? = some body →
      ∃ now, ⟨task, now⟩ ∈ readings ∧ call.Drafts now entity work
  | .finished _ => True

theorem Stage.Drafted.append {κ : Type} {readings : List Reading} {task : Nat} {call : Call}
    {stage : Stage κ} (h : stage.Drafted readings task call) (more : List Reading) :
    stage.Drafted (readings ++ more) task call := by
  cases stage with
  | starting call' => exact h
  | queued | provisioning =>
    intro body hbody
    obtain ⟨now, hmem, hdrafts⟩ := h body hbody
    exact ⟨now, List.mem_append_left _ hmem, hdrafts⟩
  | finished => trivial

namespace Crew

section

variable {σ κ : Type} {b : Backend σ κ} {s s' s₁ : Session σ κ} {stage stage' : Stage κ}
  {task : Nat} {readings : List Reading} {call : Call}

theorem task_of_readingOf {r : Reading} (h : r ∈ readingOf b task s stage) :
    r.task = task ∧ ∃ call, stage = .starting call := by
  cases stage with
  | starting call =>
    obtain ⟨now, -, rfl⟩ := List.mem_map.1 h
    exact ⟨rfl, call, rfl⟩
  | queued | provisioning | finished => exact absurd h List.not_mem_nil

/-- The readings of one turn are of one task, and so there is one at most. -/
theorem readingOf_nodup : ((readingOf b task s stage).map (·.task)).Nodup := by
  cases stage with
  | starting call =>
    cases hreading : call.reading? b s with
    | none =>
      rw [readingOf, hreading]
      exact .nil
    | some now =>
      rw [readingOf, hreading]
      exact List.pairwise_singleton ..
  | queued | provisioning | finished => exact .nil

/-- **Whoever asks for a container to write to** has drafted the document. -/
theorem Reached.drafts {entity : String} {work : Work} {body : Fields}
    (h : Reached b s stage entity work s₁) (hdrafted : stage.Drafted readings task call)
    (hbody : work.body? = some body) :
    ∃ now, ⟨task, now⟩ ∈ readings ++ readingOf b task s stage ∧ call.Drafts now entity work := by
  cases h with
  | starting hprepare =>
    obtain rfl := hdrafted
    rcases Call.prepare_drafts hprepare with
      ⟨-, -, hnone⟩ | ⟨_, _, now, o, -, -, ⟨⟩, hreading, hdrafts, -⟩
    · rw [hnone entity work rfl] at hbody
      cases hbody
    · refine ⟨now, List.mem_append_right _ ?_, hdrafts⟩
      rw [readingOf, hreading]
      exact List.mem_cons_self
  | queued | provisioning =>
    obtain ⟨now, hmem, hdrafts⟩ := hdrafted body hbody
    exact ⟨now, List.mem_append_left _ hmem, hdrafts⟩

theorem Turn.drafted (h : Turn b s stage stage' s') (hdrafted : stage.Drafted readings task call) :
    stage'.Drafted (readings ++ readingOf b task s stage) task call := by
  cases h with
  | failed | answered | unknown | refused | works => trivial
  | waits s₁ router hprepare =>
    intro body hbody
    exact Reached.drafts (.starting hprepare) hdrafted hbody
  | calls s₁ router hreached =>
    intro body hbody
    exact hreached.drafts hdrafted hbody

end

/-- **Every task follows its call**, and has read the clock once at most, in its first turn. -/
structure Drafted {σ κ : Type} (calls : List Call) (readings : List Reading) (c : Crew σ κ) :
    Prop where
  stage : ∀ {i : Nat} {stage : Stage κ}, c.stages[i]? = some stage →
    ∃ call, calls[i]? = some call ∧ stage.Drafted readings i call
  unread : ∀ {i : Nat} {call : Call}, c.stages[i]? = some (.starting call) →
    ∀ r ∈ readings, r.task ≠ i
  once : (readings.map (·.task)).Nodup

theorem drafted_starting {σ κ : Type} (s : Session σ κ) (calls : List Call) :
    Drafted calls [] (⟨s, calls.map .starting⟩ : Crew σ κ) where
  stage hstage := by
    rw [List.getElem?_map, Option.map_eq_some_iff] at hstage
    obtain ⟨call, hcall, rfl⟩ := hstage
    exact ⟨call, hcall, rfl⟩
  unread _ r hr := absurd hr List.not_mem_nil
  once := .nil

/-- No turn leads back to the start. -/
theorem Turn.not_starting {σ κ : Type} {b : Backend σ κ} {s s' : Session σ κ}
    {stage stage' : Stage κ} (h : Turn b s stage stage' s') (call : Call) :
    stage' ≠ .starting call := by
  cases h <;> rintro ⟨⟩

theorem Drafted.turn {σ κ : Type} {b : Backend σ κ} {calls : List Call} {readings : List Reading}
    {task : Nat} {c c' : Crew σ κ} {stage stage' : Stage κ} (h : Drafted calls readings c)
    (ht : Turned b task c c' stage stage') :
    Drafted calls (readings ++ readingOf b task c.session stage) c' where
  stage {i t} hstage := by
    rcases ht.stage_cases hstage with ⟨rfl, rfl⟩ | ⟨-, hold⟩
    · obtain ⟨call, hcall, hdrafted⟩ := h.stage ht.before
      exact ⟨call, hcall, ht.turn.drafted hdrafted⟩
    · obtain ⟨call, hcall, hdrafted⟩ := h.stage hold
      exact ⟨call, hcall, hdrafted.append _⟩
  unread {i call} hstage r hr := by
    rcases ht.stage_cases hstage with ⟨rfl, hstage'⟩ | ⟨hi, hold⟩
    · exact absurd hstage'.symm (ht.turn.not_starting call)
    · -- A task that has not started has not read the clock, and the turn was that of another one.
      rcases List.mem_append.1 hr with hr | hr
      · exact h.unread hold r hr
      · rw [(task_of_readingOf hr).1]
        exact Ne.symm hi
  once := by
    rw [List.map_append]
    refine List.nodup_append.2 ⟨h.once, readingOf_nodup, ?_⟩
    -- The clock is read in the first turn of a task, so that it has not been read for it before.
    intro i hi i' hi'
    obtain ⟨r, hr, rfl⟩ := List.mem_map.1 hi
    obtain ⟨r', hr', rfl⟩ := List.mem_map.1 hi'
    obtain ⟨rfl, call, rfl⟩ := task_of_readingOf hr'
    exact h.unread ht.before r hr

/-! ### What has been written -/

variable {σ : Type} {b : Backend σ String} {memory : σ → Memory}

/-- **What is known of the writes so far**, after the given readings of the clock: each is that of a
call of which the document has been stamped with the time that its task has read. -/
structure Recorded (calls : List Call) (readings : List Reading) (writes : List (Write String))
    (c : Crew σ String) : Prop where
  drafted : Drafted calls readings c
  stores : ∀ w ∈ writes, ∃ call now, calls[w.task]? = some call ∧ ⟨w.task, now⟩ ∈ readings
    ∧ call.Stores now w.body

/-- **What is known of the database** after the given writes: every entry is what the last one under
its key has left. -/
structure Kept (memory : σ → Memory) (writes : List (Write String)) (c : Crew σ String) :
    Prop where
  sound : ∀ id, ((memory c.session.outside).container id).Sound
  last : ∀ id, ∀ p ∈ ((memory c.session.outside).container id).documents,
    ∃ w, LastWritten writes id ((memory c.session.outside).container id) p w

theorem recorded_starting (s : Session σ String) (calls : List Call) :
    Recorded calls [] [] (⟨s, calls.map .starting⟩ : Crew σ String) where
  drafted := drafted_starting s calls
  stores _ hw := absurd hw List.not_mem_nil

theorem kept_starting {s : Session σ String} (hempty : (memory s.outside).containers = [])
    {stages : List (Stage String)} : Kept memory [] (⟨s, stages⟩ : Crew σ String) := by
  have hnew (id : String) : (memory s.outside).container id = { partitionPath := [] } := by
    rw [Memory.container, hempty]
    rfl
  constructor
  case sound =>
    intro id
    rw [hnew]
    exact MemoryContainer.sound_empty []
  case last =>
    intro id p hp
    rw [hnew] at hp
    exact absurd hp List.not_mem_nil

section

variable {calls : List Call} {readings : List Reading} {writes : List (Write String)}
  {task : Nat} {c c' : Crew σ String} {stage stage' : Stage String}

/-- **A turn writes the document of its task**, or it writes none. -/
theorem Recorded.memory_cases (hb : b.InMemory memory) (h : Recorded calls readings writes c)
    (ht : Turned b task c c' stage stage') :
    ((memory c.session.outside).Within (memory c'.session.outside)
        ∧ writeOf task stage stage' c'.session.router = [])
      ∨ ∃ container body, writeOf task stage stage' c'.session.router = [⟨task, container, body⟩]
        ∧ (memory c.session.outside).Wrote container body (memory c'.session.outside)
        ∧ ∃ call now, calls[task]? = some call
          ∧ ⟨task, now⟩ ∈ readings ++ readingOf b task c.session stage ∧ call.Stores now body := by
  obtain ⟨call, hcall, hdrafted⟩ := h.drafted.stage ht.before
  have hid {entity id : String} {body : Fields} {s₁ : Session σ String}
      (hreached : Reached b c.session stage entity (.replace id body) s₁) :
      (MemoryContainer.idOf body).text = id := by
    obtain ⟨now, -, hdrafts⟩ := hreached.drafts hdrafted rfl
    rw [hdrafts.replace_id]
    rfl
  rcases ht.turn.memory_cases hb task hid with
    hwithin | ⟨entity, work, s₁, container, body, hreached, hbody, hwrites, hwrote⟩
  · exact .inl hwithin
  · obtain ⟨now, hmem, hdrafts⟩ := hreached.drafts hdrafted hbody
    exact .inr ⟨container, body, hwrites, hwrote, call, now, hcall, hmem, hdrafts.stores hbody⟩

theorem Recorded.turn (hb : b.InMemory memory) (h : Recorded calls readings writes c)
    (ht : Turned b task c c' stage stage') :
    Recorded calls (readings ++ readingOf b task c.session stage)
      (writes ++ writeOf task stage stage' c'.session.router) c' where
  drafted := h.drafted.turn ht
  stores w hw := by
    rcases List.mem_append.1 hw with hw | hw
    · obtain ⟨call, now, hcall, hmem, hstores⟩ := h.stores w hw
      exact ⟨call, now, hcall, List.mem_append_left _ hmem, hstores⟩
    · rcases h.memory_cases hb ht with ⟨-, hnone⟩ | ⟨container, body, hone, -, hstores⟩
      · rw [hnone] at hw
        exact absurd hw List.not_mem_nil
      · rw [hone] at hw
        rw [List.mem_singleton.1 hw]
        exact hstores

/-- A turn that writes nothing leaves what was there, or less. -/
theorem Kept.within (h : Kept memory writes c)
    (hwithin : (memory c.session.outside).Within (memory c'.session.outside)) :
    Kept memory writes c' where
  sound id := (h.sound id).sublist (hwithin.documents id)
  last id p hp := by
    obtain ⟨w, hlast⟩ := h.last id p ((hwithin.documents id).subset hp)
    rcases hwithin.path id with hempty | hpath
    · rw [hempty] at hp
      exact absurd hp List.not_mem_nil
    · exact ⟨w, hlast.of_path hpath⟩

/-- A turn that writes a document leaves it under its key. -/
theorem Kept.wrote (h : Kept memory writes c) {container : String} {body : Fields}
    (hwrote : (memory c.session.outside).Wrote container body (memory c'.session.outside)) :
    Kept memory (writes ++ [⟨task, container, body⟩]) c' where
  sound id := by
    by_cases hid : container = id
    · subst hid
      rw [Memory.container_put_self hwrote.containers]
      exact (h.sound container).stored hwrote.hashable
    · rw [Memory.container_put_of_ne hwrote.containers hid]
      exact h.sound id
  last id p hp := by
    by_cases hid : container = id
    · subst hid
      rw [Memory.container_put_self hwrote.containers] at hp ⊢
      rcases (h.sound container).mem_put hp with ⟨hold, hkey⟩ | ⟨hnew, hkey⟩
      · obtain ⟨w, hlast⟩ := h.last container p hold
        exact ⟨w, (hlast.append fun _ => hkey).of_path rfl⟩
      · rw [← hnew] at hkey
        exact ⟨_, (LastWritten.of_new rfl hnew.symm hkey).of_path rfl⟩
    · rw [Memory.container_put_of_ne hwrote.containers hid] at hp ⊢
      obtain ⟨w, hlast⟩ := h.last id p hp
      exact ⟨w, hlast.append fun hcontainer => absurd hcontainer hid⟩

theorem Kept.turn (hb : b.InMemory memory) (hrecorded : Recorded calls readings writes c)
    (h : Kept memory writes c) (ht : Turned b task c c' stage stage') :
    Kept memory (writes ++ writeOf task stage stage' c'.session.router) c' := by
  rcases hrecorded.memory_cases hb ht with ⟨hwithin, hnone⟩ | ⟨container, body, hone, hwrote, -⟩
  · rw [hnone, List.append_nil]
    exact h.within hwithin
  · rw [hone]
    exact h.wrote hwrote

/-! ### Runs -/

/-- **A turn keeps the record.** -/
theorem Recorded.advance (hb : b.InMemory memory) (h : Recorded calls readings writes c)
    (task : Nat) :
    Recorded calls (readings ++ c.read b task) (writes ++ c.written b task)
      (c.advance b task).1 := by
  rcases advance_turn b c task with ⟨hidle, hstarting⟩ | ⟨stage, stage', ht⟩
  · rw [read_of_not_starting hstarting, written_of_idle hidle, hidle, List.append_nil,
      List.append_nil]
    exact h
  · rw [ht.read_eq, ht.written_eq]
    exact h.turn hb ht

theorem Kept.advance (hb : b.InMemory memory) (hrecorded : Recorded calls readings writes c)
    (h : Kept memory writes c) (task : Nat) :
    Kept memory (writes ++ c.written b task) (c.advance b task).1 := by
  rcases advance_turn b c task with ⟨hidle, -⟩ | ⟨stage, stage', ht⟩
  · rw [written_of_idle hidle, hidle, List.append_nil]
    exact h
  · rw [ht.written_eq]
    exact h.turn hb hrecorded ht

/-- **A whole run keeps the record.** -/
theorem Recorded.run (hb : b.InMemory memory) (h : Recorded calls readings writes c)
    (schedule : List Nat) :
    Recorded calls (readings ++ c.readings b schedule) (writes ++ c.writes b schedule)
      (c.run b schedule) := by
  induction schedule generalizing c readings writes with
  | nil =>
    rw [Crew.readings, Crew.writes, List.append_nil, List.append_nil]
    exact h
  | cons task schedule ih =>
    rw [Crew.readings, Crew.writes, ← List.append_assoc, ← List.append_assoc]
    exact ih (h.advance hb task)

theorem Kept.run (hb : b.InMemory memory) (hrecorded : Recorded calls readings writes c)
    (h : Kept memory writes c) (schedule : List Nat) :
    Kept memory (writes ++ c.writes b schedule) (c.run b schedule) := by
  induction schedule generalizing c readings writes with
  | nil =>
    rw [Crew.writes, List.append_nil]
    exact h
  | cons task schedule ih =>
    rw [Crew.writes, ← List.append_assoc]
    exact ih (hrecorded.advance hb task) (h.advance hb hrecorded task)

end

/-- **Every stored document is the last one written under its key**, whatever calls run side by side
over a database that was empty, in whatever schedule.  The write is that of a call of which the
document is stored as it was stamped, with the time that the clock showed to the call; a call reads
the clock once at most. -/
theorem stored_as_written (b : Backend σ String) (memory : σ → Memory) (hb : b.InMemory memory)
    (s : Session σ String) (hempty : (memory s.outside).containers = []) (calls : List Call)
    (schedule : List Nat) :
    let start : Crew σ String := ⟨s, calls.map .starting⟩
    let readings := start.readings b schedule
    let containers := (memory (start.run b schedule).session.outside).containers
    (readings.map (·.task)).Nodup
      ∧ ∀ id c, containers.get? id = some c → ∀ k d, (k, d) ∈ c.documents →
        (k.partition = c.partitionOf d ∨ k.partition.equal (c.partitionOf d) = true)
        ∧ d.get? Document.idField = some (.str k.id)
        ∧ ∃ w call now, LastWritten (start.writes b schedule) id c (k, d) w
          ∧ calls[w.task]? = some call ∧ ⟨w.task, now⟩ ∈ readings ∧ call.Stores now d := by
  intro start readings containers
  have hrecorded := recorded_starting s calls
  have hkept : Kept memory [] start := kept_starting hempty
  have hrun := hrecorded.run hb schedule
  have hend := hkept.run hb hrecorded schedule
  rw [List.nil_append, List.nil_append] at hrun
  rw [List.nil_append] at hend
  refine ⟨hrun.drafted.once, ?_⟩
  intro id c hc k d hd
  have hcontainer : (memory (start.run b schedule).session.outside).container id = c := by
    rw [Memory.container, hc, Option.getD_some]
  -- The document is the body of the last write under its key, which was drafted by its call.
  obtain ⟨w, hlast⟩ := hend.last id (k, d) (by rw [hcontainer]; exact hd)
  rw [hcontainer] at hlast
  obtain ⟨earlier, later, hwrites, -⟩ := hlast.last
  obtain ⟨call, now, hcall, hmem, hstores⟩ :=
    hrun.stores w (by rw [hwrites]; exact List.mem_append_right _ List.mem_cons_self)
  rw [hlast.body] at hstores
  refine ⟨?_, ?_, w, call, now, hlast, hcall, hmem, hstores⟩
  · -- A body that replaces another one may have a partition that is only equal.
    rcases hlast.key with hkey | hkey
    · exact .inl (congrArg DocumentKey.partition hkey)
    · exact .inr (DocumentKey.beq_iff.1 hkey).1
  · have hid : k.id = (MemoryContainer.idOf d).text := by
      rcases hlast.key with hkey | hkey
      · exact congrArg DocumentKey.id hkey
      · exact (DocumentKey.beq_iff.1 hkey).2
    rw [hid]
    exact hstores.id

/-- One call creates a document and the other, which has waited for the container, replaces it: the
document that is left is the other's. -/
theorem stored_as_written_replaced :
    let orders : ContainerConfig := ⟨"order", "orders", "tenantId"⟩
    let s : Session LocalState String :=
      ⟨{ registry := .ofList [orders] false }, 10,
        { clock := ⟨⟨2024, 1, 1⟩, 0, 0, 0, 0, none⟩, ids := ⟨[], 0⟩ }⟩
    let sent : Fields := [("tenantId", .str "a")]
    let calls : List Call :=
      [.create (some "order") (some "1") (.object sent),
        .replace (some "order") (some "1") (.object (sent.put "closed" (.bool true)))]
    let start : Crew LocalState String := ⟨s, calls.map .starting⟩
    let writes := start.writes LocalState.backend [0, 1, 0, 1]
    let containers :=
      (start.run LocalState.backend [0, 1, 0, 1]).session.outside.memory.containers
    s.outside.memory.containers = [] ∧ writes.map (·.task) = [0, 1]
      ∧ (containers.get? "orders").map (·.documents.length) = some 1
      ∧ ∀ c k d, containers.get? "orders" = some c → (k, d) ∈ c.documents →
        ∃ w call now, LastWritten writes "orders" c (k, d) w ∧ calls[w.task]? = some call
          ∧ call.Stores now d := by
  intro orders s sent calls start writes containers
  refine ⟨rfl, by decide +kernel, by decide +kernel, ?_⟩
  intro c k d hc hd
  have hstored := stored_as_written LocalState.backend LocalState.memory
    LocalState.backend_inMemory s rfl calls [0, 1, 0, 1]
  obtain ⟨-, -, w, call, now, hlast, hcall, -, hstores⟩ := hstored.2 "orders" c hc k d hd
  exact ⟨w, call, now, hlast, hcall, hstores⟩

end Crew

end EntityStore
