import EntityStore.Proofs.Store.Container
import EntityStore.Proofs.Store.Draft
import EntityStore.Proofs.Store.Turn

/-!
# Readings and writes of a run

A call that writes a document reads the clock in its first turn, and the document is written in the
last of its turns, which can be much later.  `Crew.readings` and `Crew.writes` list both, for a run
of calls side by side, in the order in which they happen.

Over a database in memory a turn comes to one of two things (`Turn.memory_cases`): it writes the
document of its task, which is listed, or it writes nothing, and then containers lose entries at
most (`Memory.Within`).
-/

namespace EntityStore

/-! ### Readings and writes -/

/-- A reading of the clock by a task. -/
structure Reading where
  task : Nat
  time : DateTime

/-- A document that a task has written to a container. -/
structure Write (κ : Type) where
  task : Nat
  container : κ
  body : Fields

namespace Stage

variable {κ : Type}

/-- The entity for which a task is to write a document, if it is to write one. -/
def writesFor? : Stage κ → Option String
  | .starting call => call.writesFor?
  | .queued entity _ work | .provisioning entity _ work => work.body?.map fun _ => entity
  | .finished _ => none

/-- The document that a task is answered with. -/
def document? : Stage κ → Option Fields
  | .finished (.ok (.document (.object body))) => some body
  | _ => none

/-- A task that is where it was has not written. -/
theorem not_writes_and_answered (stage : Stage κ) :
    stage.writesFor? = none ∨ stage.document? = none := by
  cases stage with
  | finished => exact .inl rfl
  | starting | queued | provisioning => exact .inr rfl

end Stage

namespace Crew

section

variable {σ κ : Type}

/-- **The write that a turn of a task makes**, if it makes one: the task was to write for an entity
and is answered with the document.  The container is the one whose handle is kept for the entity. -/
def writeOf (task : Nat) (stage stage' : Stage κ) (router : Router κ) : List (Write κ) :=
  match stage.writesFor?, stage'.document? with
  | some entity, some body => (router.handles.get? entity).toList.map (⟨task, ·, body⟩)
  | _, _ => []

/-- The write that a turn of a task makes. -/
def written (b : Backend σ κ) (task : Nat) (c : Crew σ κ) : List (Write κ) :=
  match c.stages[task]?, (c.advance b task).1.stages[task]? with
  | some stage, some stage' => writeOf task stage stage' (c.advance b task).1.session.router
  | _, _ => []

/-- **The writes of a run**, the earliest first. -/
def writes (b : Backend σ κ) : List Nat → Crew σ κ → List (Write κ)
  | [], _ => []
  | task :: schedule, c => c.written b task ++ writes b schedule (c.advance b task).1

/-- The reading of the clock at a stage of a task, if it takes one there. -/
def readingOf (b : Backend σ κ) (task : Nat) (s : Session σ κ) : Stage κ → List Reading
  | .starting call => (call.reading? b s).toList.map (⟨task, ·⟩)
  | _ => []

/-- The reading of the clock in a turn of a task. -/
def read (b : Backend σ κ) (task : Nat) (c : Crew σ κ) : List Reading :=
  match c.stages[task]? with
  | some stage => readingOf b task c.session stage
  | none => []

/-- **The readings of the clock in a run**, the earliest first. -/
def readings (b : Backend σ κ) : List Nat → Crew σ κ → List Reading
  | [], _ => []
  | task :: schedule, c => c.read b task ++ readings b schedule (c.advance b task).1

/-! ### Readings and writes of a turn -/

variable {b : Backend σ κ} {task : Nat} {c c' : Crew σ κ} {stage stage' : Stage κ}
  {router : Router κ}

theorem writeOf_of_not_answered (h : stage'.document? = none) :
    writeOf task stage stage' router = [] := by
  rw [writeOf, h]
  split
  · contradiction
  · rfl

theorem writeOf_of_not_writes (h : stage.writesFor? = none) :
    writeOf task stage stage' router = [] := by
  rw [writeOf, h]

theorem writeOf_of_answered {entity : String} {body : Fields} {container : κ}
    (hentity : stage.writesFor? = some entity) (hbody : stage'.document? = some body)
    (hcontainer : router.handles.get? entity = some container) :
    writeOf task stage stage' router = [⟨task, container, body⟩] := by
  rw [writeOf, hentity, hbody]
  dsimp only
  rw [hcontainer]
  rfl

theorem Turned.read_eq (h : Turned b task c c' stage stage') :
    c.read b task = readingOf b task c.session stage := by
  rw [read, h.before]

theorem Turned.written_eq (h : Turned b task c (c.advance b task).1 stage stage') :
    c.written b task = writeOf task stage stage' (c.advance b task).1.session.router := by
  rw [written, h.before, h.stage_self]

/-- A task that does not get on reads no clock. -/
theorem read_of_not_starting (h : ∀ call, c.stages[task]? ≠ some (.starting call)) :
    c.read b task = [] := by
  rw [read]
  cases hstage : c.stages[task]? with
  | none => rfl
  | some stage =>
    cases stage with
    | starting call => exact absurd hstage (h call)
    | queued | provisioning | finished => rfl

/-- A task that does not get on writes nothing. -/
theorem written_of_idle (h : (c.advance b task).1 = c) : c.written b task = [] := by
  rw [written, h]
  cases hstage : c.stages[task]? with
  | none => rfl
  | some stage =>
    dsimp only
    rcases stage.not_writes_and_answered with hwrites | hanswered
    · exact writeOf_of_not_writes hwrites
    · exact writeOf_of_not_answered hanswered

end

end Crew

/-! ### Doing the work in memory -/

section

variable {σ : Type} {b : Backend σ String} {memory : σ → Memory}

/-- The containers in memory are as before. -/
def Session.SameContainers (memory : σ → Memory) (s s' : Session σ String) : Prop :=
  (memory s'.outside).containers = (memory s.outside).containers

instance : IsPreorder (Session σ String) (Session.SameContainers memory) where
  refl _ := rfl
  trans _ _ _ h h' := Eq.trans h' h

/-- What a request in memory has come to. -/
theorem Backend.InMemory.of_perform (hb : b.InMemory memory) {q : Request String}
    {s s' : Session σ String} {r : Except Failure q.Reply}
    (h : Session.consult (b.perform q) s = (r, s')) :
    (memory s.outside).perform q = (r, memory s'.outside) := by
  obtain ⟨rfl, rfl⟩ := Session.of_consult h
  exact (hb.perform q s.outside).symm

variable (hb : b.InMemory memory) {work : Work}

include hb

/-- Work that neither writes nor deletes leaves all containers alone. -/
theorem perform_sameContainers (container entity : String) (hbody : work.body? = none)
    (hdelete : ∀ id partition, work ≠ .delete id partition) :
    Run.Keeps (Session.SameContainers memory) (work.perform b entity container) := by
  refine keeps_perform entity work (fun s => rfl) ?_ ?_ ?_ ?_ ?_
  · rintro body rfl
    cases hbody
  · rintro id body rfl
    cases hbody
  · intro id partition hwork
    exact absurd hwork (hdelete id partition)
  · intro id partition s
    have hread := hb.of_perform (s := s) (q := .read container id partition) rfl
    exact (congrArg (·.2.containers) hread).symm.trans rfl
  · intro request s
    have hpage := hb.of_perform (s := s) (q := .page container request) rfl
    exact (congrArg (·.2.containers) hpage).symm.trans (Memory.perform_page_containers _ request)

/-- **Work that writes** has written its document and is answered with it, or it has failed and
changed nothing. -/
theorem perform_writes {container entity : String} {body : Fields} (hbody : work.body? = some body)
    (hid : ∀ id, work = .replace id body → (MemoryContainer.idOf body).text = id)
    {s s' : Session σ String} {result : Except Failure (Answer String)}
    (h : work.perform b entity container s = (result, s')) :
    (∃ e, result = .error e ∧ memory s'.outside = memory s.outside)
      ∨ result = .ok (.document (.object body))
        ∧ (memory s.outside).Wrote container body (memory s'.outside) := by
  cases work with
  | create body' =>
    cases hbody
    obtain ⟨r, hconsult, rfl⟩ := Run.of_bind_pure h
    rcases Memory.perform_create (hb.of_perform hconsult) with ⟨e, rfl, hsame⟩ | ⟨rfl, hwrote⟩
    · exact .inl ⟨e, rfl, hsame⟩
    · exact .inr ⟨rfl, hwrote⟩
  | replace id body' =>
    cases hbody
    obtain rfl := hid id rfl
    obtain ⟨r, hconsult, rfl⟩ := Run.of_bind_pure h
    rcases Memory.perform_replace (hb.of_perform hconsult) with ⟨e, rfl, hsame⟩ | ⟨rfl, hwrote⟩
    · exact .inl ⟨e, rfl, hsame⟩
    · exact .inr ⟨rfl, hwrote⟩
  | resolve | read | delete | readMap | query | count => cases hbody

end

/-! ### Turns in memory -/

namespace Memory

/-- **Containers have lost entries at most**, and one that has any keeps its partition path. -/
structure Within (m m' : Memory) : Prop where
  documents : ∀ id, (m'.container id).documents.Sublist (m.container id).documents
  path : ∀ id, (m'.container id).documents = []
    ∨ (m'.container id).partitionPath = (m.container id).partitionPath

theorem Within.of_container {m m' : Memory}
    (h : ∀ id, m'.container id = m.container id ∨ (m'.container id).documents = []) :
    m.Within m' where
  documents id := by
    rcases h id with hsame | hempty
    · exact hsame ▸ List.Sublist.refl _
    · rw [hempty]
      exact List.nil_sublist _
  path id := (h id).elim (fun hsame => .inr (by rw [hsame])) .inl

theorem Within.of_containers {m m' : Memory} (h : m'.containers = m.containers) : m.Within m' :=
  .of_container fun id => .inl (container_eq h id)

theorem Within.of_removed {m m' : Memory} {containerId : String} {k : DocumentKey}
    (h : m'.containers = m.containers.put containerId ((m.container containerId).removed k)) :
    m.Within m' where
  documents id := by
    by_cases hid : containerId = id
    · subst hid
      rw [container_put_self h]
      exact Entries.erase_sublist _ k
    · exact container_put_of_ne h hid ▸ List.Sublist.refl _
  path id := by
    right
    by_cases hid : containerId = id
    · subst hid
      rw [container_put_self h]
      rfl
    · rw [container_put_of_ne h hid]

end Memory

section

variable {σ : Type} {b : Backend σ String} {memory : σ → Memory}

/-- Work that does not write takes entries away at most. -/
theorem perform_within (hb : b.InMemory memory) {container entity : String} {work : Work}
    (hbody : work.body? = none) {s s' : Session σ String} {result : Except Failure (Answer String)}
    (h : work.perform b entity container s = (result, s')) :
    (memory s.outside).Within (memory s'.outside) := by
  by_cases hdelete : ∃ id partition, work = .delete id partition
  · obtain ⟨id, partition, rfl⟩ := hdelete
    obtain ⟨r, hconsult, -⟩ := Run.of_bind_pure h
    rcases Memory.perform_delete (hb.of_perform hconsult) with ⟨-, -, hsame⟩ | ⟨-, hremoved⟩
    · rw [hsame]
      exact .of_containers rfl
    · exact .of_removed hremoved
  · have hkeeps := perform_sameContainers hb container entity hbody
      fun id partition hwork => hdelete ⟨id, partition, hwork⟩
    exact .of_containers (hkeeps.of_eq h)

end

namespace Crew

variable {σ : Type} {b : Backend σ String} {memory : σ → Memory}

/-- What a task is to write is the document of its work. -/
theorem Reached.writesFor {κ : Type} {b : Backend σ κ} {s s₁ : Session σ κ} {stage : Stage κ}
    {entity : String} {work : Work} (h : Reached b s stage entity work s₁) :
    stage.writesFor? = work.body?.map fun _ => entity := by
  cases h with
  | @starting call _ _ _ hprepare =>
    rcases Call.prepare_drafts hprepare with ⟨hcall, -, hbody⟩ | ⟨_, _, now, o, hcall, hbody, ⟨⟩, -⟩
    · rw [hbody entity work rfl]
      exact hcall
    · obtain ⟨body, hbody⟩ := Option.isSome_iff_exists.1 hbody
      rw [hbody]
      exact hcall
  | queued => rfl
  | provisioning => rfl

/-- Neither preparing a call nor waiting for its container touches the database. -/
theorem Reached.memory_eq (hb : b.InMemory memory) {s s₁ : Session σ String} {stage : Stage String}
    {entity : String} {work : Work} (h : Reached b s stage entity work s₁) :
    memory s₁.outside = memory s.outside :=
  h.approached.outside.memory_eq hb

/-- **What work comes to in memory** when a task does it: it writes its document, or there is none that
it writes. -/
theorem Reached.work_done (hb : b.InMemory memory) (task : Nat) {s s₁ s' : Session σ String}
    {stage : Stage String} {entity : String} {work : Work} (hreached : Reached b s stage entity work s₁)
    {container : String} {router : Router String}
    (hhandle : router.handles.get? entity = some container)
    {result : Except Failure (Answer String)}
    (hperform : work.perform b entity container { s₁ with router := router } = (result, s'))
    (hitem : ∀ id body, work = .replace id body → (MemoryContainer.idOf body).text = id) :
    ((memory s.outside).Within (memory s'.outside)
        ∧ writeOf task stage (.finished result) s'.router = [])
      ∨ ∃ body, work.body? = some body
        ∧ writeOf task stage (.finished result) s'.router = [⟨task, container, body⟩]
        ∧ (memory s.outside).Wrote container body (memory s'.outside) := by
  have hmemory := hreached.memory_eq hb
  have hwrites := hreached.writesFor
  cases hbody : work.body? with
  | none =>
    -- Work without a body reads or deletes.
    left
    rw [hbody] at hwrites
    have hwithin := perform_within hb hbody hperform
    dsimp only at hwithin
    rw [hmemory] at hwithin
    exact ⟨hwithin, writeOf_of_not_writes hwrites⟩
  | some body =>
    rw [hbody] at hwrites
    rcases perform_writes hb hbody (fun id => hitem id body) hperform with
      ⟨e, rfl, hsame⟩ | ⟨rfl, hwrote⟩
    · -- The container has refused the body and stays as it is.
      left
      refine ⟨.of_containers ?_, writeOf_of_not_answered rfl⟩
      rw [hsame, ← hmemory]
    · -- The write is listed under the handle that is kept afterwards, which is the one of the
      -- container that has been written to.
      right
      have halike := (perform_alike b entity container work).of_eq hperform
      have hkept : s'.router.handles.get? entity = some container := by
        rw [halike.router.handles]
        exact hhandle
      refine ⟨body, rfl, writeOf_of_answered hwrites rfl hkept, ?_⟩
      rw [← hmemory]
      exact hwrote

/-- **What a turn comes to in memory**: it writes the document of the work of its task, or it writes
none. -/
theorem Turn.memory_cases (hb : b.InMemory memory) (task : Nat) {s s' : Session σ String}
    {stage stage' : Stage String} (h : Turn b s stage stage' s')
    (hid : ∀ {entity id : String} {body : Fields} {s₁ : Session σ String},
      Reached b s stage entity (.replace id body) s₁ → (MemoryContainer.idOf body).text = id) :
    ((memory s.outside).Within (memory s'.outside) ∧ writeOf task stage stage' s'.router = [])
      ∨ ∃ entity work s₁ container body, Reached b s stage entity work s₁
        ∧ work.body? = some body ∧ writeOf task stage stage' s'.router = [⟨task, container, body⟩]
        ∧ (memory s.outside).Wrote container body (memory s'.outside) := by
  -- Preparing a call does not touch the database.
  have hprepared {call : Call} {r : Except Failure (Prepared String)} {s₁ : Session σ String}
      (hprepare : call.prepare b s = (r, s₁)) : memory s₁.outside = memory s.outside := by
    have happroached := (Call.prepare_approached call).of_eq hprepare
    exact happroached.outside.memory_eq hb
  cases h with
  | failed hprepare | unknown hprepare =>
    -- The task ends before a container is asked for.
    left
    rw [hprepared hprepare]
    exact ⟨.of_containers rfl, writeOf_of_not_answered rfl⟩
  | answered hprepare =>
    -- What is answered while it is prepared is the answer of a call that writes nothing.
    left
    have hwrites := (Call.prepare_drafts hprepare).resolve_right
      fun ⟨_, _, _, _, _, _, hready, _⟩ => by cases hready
    rw [hprepared hprepare]
    exact ⟨.of_containers rfl, writeOf_of_not_writes hwrites.1⟩
  | waits s₁ router hprepare =>
    -- The task queues for the lock.
    left
    dsimp only
    rw [hprepared hprepare]
    exact ⟨.of_containers rfl, writeOf_of_not_answered rfl⟩
  | @calls _ entity work config s₁ router hreached =>
    -- A new container may have been provisioned, but it is empty.
    left
    refine ⟨.of_container fun id => ?_, writeOf_of_not_answered rfl⟩
    dsimp only
    rw [hb.provision_snd, hreached.memory_eq hb]
    exact Memory.provision_container _ _ _ id
  | refused =>
    -- Provisioning was refused in an earlier turn, and now the task fails.
    left
    exact ⟨.of_containers rfl, writeOf_of_not_answered rfl⟩
  | @works _ entity work container s₁ _ hreached _ _ hhandle _ _ hperform =>
    have hitem : ∀ id body, work = .replace id body → (MemoryContainer.idOf body).text = id := by
      rintro id body rfl
      exact hid hreached
    rcases hreached.work_done hb task hhandle hperform hitem with
      hnone | ⟨body, hbody, hwrite, hwrote⟩
    · exact .inl hnone
    · exact .inr ⟨entity, work, s₁, container, body, hreached, hbody, hwrite, hwrote⟩

end Crew

end EntityStore
