import EntityStore.Proofs.Store.Filed
import EntityStore.Proofs.Store.Steps

/-!
# Databases that stores have led to

A database in memory is visited when it was empty once and stores have been in use over it since, one
after the other: each with calls that run side by side, and with configurations that are registered
meanwhile and closings (`Backend.Visited`).

In a visited database every container is filed (`Visited.filed`).  Writing keeps it so because a
document is written under the id that it holds (`Work.Named`), which the tasks that are under way
carry along.
-/

namespace EntityStore

/-! ### Work that writes -/

/-- **Work that writes a document under the id that the document holds**, if it writes one. -/
def Work.Named (work : Work) : Prop :=
  ∀ body, work.body? = some body →
    body.get? Document.idField = some (.str (MemoryContainer.idOf body).text)
      ∧ ∀ id, work = .replace id body → (MemoryContainer.idOf body).text = id

/-- A task whose work, if it has been prepared, is named. -/
def Stage.Named {κ : Type} : Stage κ → Prop
  | .queued _ _ work | .provisioning _ _ work => work.Named
  | .starting _ | .finished _ => True

section

variable {σ κ : Type} {b : Backend σ κ}

theorem Call.prepare_named {call : Call} {entity : String} {work : Work} {s s' : Session σ κ}
    (h : call.prepare b s = (.ok (.ready entity work), s')) : work.Named := by
  intro body hbody
  rcases Call.prepare_drafts h with ⟨-, -, hnone⟩ | ⟨_, _, now, o, -, -, ⟨⟩, -, hdrafts, -⟩
  · rw [hnone entity work rfl] at hbody
    cases hbody
  · refine ⟨(hdrafts.stores hbody).id, ?_⟩
    rintro id rfl
    rw [hdrafts.replace_id]
    rfl

namespace Crew

variable {s s' s₁ : Session σ κ} {stage stage' : Stage κ}

theorem Reached.named {entity : String} {work : Work} (h : Reached b s stage entity work s₁)
    (hstage : stage.Named) : work.Named := by
  cases h with
  | starting hprepare => exact Call.prepare_named hprepare
  | queued | provisioning => exact hstage

theorem Turn.named (h : Turn b s stage stage' s') (hstage : stage.Named) : stage'.Named := by
  cases h with
  | failed | answered | unknown | refused | works => trivial
  | waits s₁ router hprepare => exact Call.prepare_named hprepare
  | calls s₁ router hreached => exact hreached.named hstage

end Crew

end

/-! ### Filed databases -/

namespace Memory

variable {m m' : Memory}

/-- **A database in whose containers each document stands under its own key.** -/
def Filed (m : Memory) : Prop := ∀ id, (m.container id).Filed

theorem filed_of_empty (h : m.containers = []) : m.Filed := by
  intro id
  have hcontainer : m.container id = { partitionPath := [] } := by
    rw [container, h]
    rfl
  rw [hcontainer]
  exact ⟨MemoryContainer.sound_empty [], fun p hp => absurd hp List.not_mem_nil,
    fun p hp => absurd hp List.not_mem_nil⟩

theorem Filed.of_containers (h : m.Filed) (hcontainers : m'.containers = m.containers) :
    m'.Filed := fun id => container_eq hcontainers id ▸ h id

/-- Losing entries keeps a database filed. -/
theorem Filed.within (h : m.Filed) (hwithin : m.Within m') : m'.Filed := by
  intro id
  have hdocuments := hwithin.documents id
  refine ⟨(h id).sound.sublist hdocuments, fun p hp => (h id).id p (hdocuments.subset hp), ?_⟩
  intro p hp
  have hpath := (hwithin.path id).resolve_left (List.ne_nil_of_mem hp)
  rw [MemoryContainer.partitionOf, hpath]
  exact (h id).partition p (hdocuments.subset hp)

/-- **Writing a document under the id that it holds keeps a database filed.** -/
theorem Filed.wrote (h : m.Filed) {containerId : String} {body : Fields}
    (hwrote : m.Wrote containerId body m')
    (hbody : body.get? Document.idField = some (.str (MemoryContainer.idOf body).text)) :
    m'.Filed := by
  intro id
  by_cases hid : containerId = id
  case neg => exact container_put_of_ne hwrote.containers hid ▸ h id
  subst hid
  rw [container_put_self hwrote.containers]
  have hcontainer := h containerId
  refine ⟨hcontainer.sound.stored hwrote.hashable, ?_, ?_⟩
  · intro p hp
    -- An entry is an old one, or the new document under its key or under an equal one.
    rcases hcontainer.sound.mem_put hp with ⟨hold, -⟩ | ⟨hp, hkey⟩
    · exact hcontainer.id p hold
    · have hpid : p.1.id = (MemoryContainer.idOf body).text := by
        rcases hkey with hkey | hkey
        · exact congrArg DocumentKey.id hkey
        · exact (DocumentKey.beq_iff.1 hkey).2
      rw [hp, hpid]
      exact hbody
  · intro p hp
    show p.1.partition = (m.container containerId).partitionOf p.2
      ∨ p.1.partition.equal ((m.container containerId).partitionOf p.2) = true
    rcases hcontainer.sound.mem_put hp with ⟨hold, -⟩ | ⟨hp, hkey⟩
    · exact hcontainer.partition p hold
    · rw [hp]
      rcases hkey with hkey | hkey
      · exact .inl (congrArg DocumentKey.partition hkey)
      · exact .inr (DocumentKey.beq_iff.1 hkey).1

end Memory

/-! ### Sessions in use -/

/-- **A backend whose documents outlast closing.** -/
def Backend.Durable {σ : Type} (b : Backend σ String) (memory : σ → Memory) : Prop :=
  ∀ o, (memory (b.close o)).containers = (memory o).containers

theorem LocalState.backend_durable : LocalState.backend.Durable LocalState.memory := fun _ => rfl

namespace Crew

variable {σ : Type} {b : Backend σ String} {memory : σ → Memory}

/-- A session in use over a filed database. -/
structure Filed (memory : σ → Memory) (c : Crew σ String) : Prop where
  database : (memory c.session.outside).Filed
  stages : ∀ {task : Nat} {stage : Stage String}, c.stages[task]? = some stage → stage.Named

variable {c : Crew σ String}

theorem Filed.advance (hb : b.InMemory memory) (h : Filed memory c) (task : Nat) :
    Filed memory (c.advance b task).1 := by
  rcases advance_turn b c task with ⟨hidle, -⟩ | ⟨stage, stage', ht⟩
  · rw [hidle]
    exact h
  have hnamed := h.stages ht.before
  refine ⟨?_, ?_⟩
  · rcases ht.turn.memory_cases hb task
        (fun hreached => (hreached.named hnamed _ rfl).2 _ rfl) with
      ⟨hwithin, -⟩ | ⟨entity, work, s₁, container, body, hreached, hbody, -, hwrote⟩
    · exact h.database.within hwithin
    · exact h.database.wrote hwrote (hreached.named hnamed body hbody).1
  · intro other stage hstage
    rcases ht.stage_cases hstage with ⟨-, rfl⟩ | ⟨-, hold⟩
    · exact ht.turn.named hnamed
    · exact h.stages hold

/-- **Whatever happens keeps the database filed.** -/
theorem Filed.follow (hb : b.InMemory memory) (hdurable : b.Durable memory) (h : Filed memory c)
    (steps : List Step) : Filed memory (c.follow b steps) := by
  induction steps generalizing c with
  | nil => exact h
  | cons step steps ih =>
    refine ih ?_
    cases step with
    | advance task => exact h.advance hb task
    | register | lookUp | forget => exact ⟨h.database, h.stages⟩
    | shut => exact ⟨h.database.of_containers (hdurable _), h.stages⟩

end Crew

/-! ### Visited databases -/

section

variable {σ : Type} {b : Backend σ String} {memory : σ → Memory}

/-- **A database that stores have led to** from an empty one. -/
inductive Backend.Visited (b : Backend σ String) (memory : σ → Memory) : σ → Prop
  | fresh {o : σ} (hempty : (memory o).containers = []) : Visited b memory o
  /-- Calls have been made of a store, and more has happened to it. -/
  | used {s : Session σ String} (h : Visited b memory s.outside) (calls : List Call)
    (steps : List Crew.Step) :
    Visited b memory ((⟨s, calls.map .starting⟩ : Crew σ String).follow b steps).session.outside

/-- A call by itself is among what leads from one to another. -/
theorem Backend.Visited.run {s : Session σ String} (h : b.Visited memory s.outside) (call : Call) :
    b.Visited memory (call.run b s).2.outside := by
  obtain ⟨steps, hsteps⟩ := Crew.exists_follow_run b call s
  rw [hsteps]
  exact .used h [call] steps

/-- **In a visited database each document stands under its own key.** -/
theorem Backend.Visited.filed (hb : b.InMemory memory) (hdurable : b.Durable memory) {o : σ}
    (h : b.Visited memory o) : (memory o).Filed := by
  induction h with
  | fresh hempty => exact Memory.filed_of_empty hempty
  | @used s _ calls steps ih =>
    have hstart : Crew.Filed memory (⟨s, calls.map .starting⟩ : Crew σ String) := by
      refine ⟨ih, ?_⟩
      intro task stage hstage
      rw [List.getElem?_map, Option.map_eq_some_iff] at hstage
      obtain ⟨call, -, rfl⟩ := hstage
      trivial
    exact (hstart.follow hb hdurable steps).database

end

end EntityStore
