import EntityStore.Proofs.Store.Performed

/-!
# Backends that keep their documents in memory

`Backend.InMemory` says that a backend answers from a database in memory and that its clock and its
source of ids leave the database alone; how they work is left open.  The local backend is one of
them.

Whatever such a backend fails with, it is nothing that a check rejects: it never fails as a call
with a missing argument or an unknown entity does (`Backend.InMemory.neverRejects`).
-/

namespace EntityStore

/-- **A backend whose database is the one in memory.** -/
structure Backend.InMemory {σ : Type} (b : Backend σ String) (memory : σ → Memory) : Prop where
  now : ∀ o, memory (b.now o).2 = memory o
  newId : ∀ o, memory (b.newId o).2 = memory o
  provision : ∀ containerId path o,
    Prod.map id memory (b.provision containerId path o) = (memory o).provision containerId path
  perform : ∀ q o, Prod.map id memory (b.perform q o) = (memory o).perform q

/-- The local backend keeps its documents in memory. -/
theorem LocalState.backend_inMemory : LocalState.backend.InMemory LocalState.memory where
  now o := by
    show (LocalState.now o).2.memory = o.memory
    rw [LocalState.now]
    split <;> rfl
  newId o := rfl
  provision containerId path o := rfl
  perform q o := rfl

/-- An empty database and a clock at the beginning of a year. -/
def LocalState.unused : LocalState := { clock := ⟨⟨2024, 1, 1⟩, 0, 0, 0, 0, none⟩, ids := ⟨[], 0⟩ }

theorem Backend.InMemory.provision_fst {σ : Type} {b : Backend σ String} {memory : σ → Memory}
    (hb : b.InMemory memory) (containerId path : String) (o : σ) :
    (b.provision containerId path o).1 = ((memory o).provision containerId path).1 :=
  congrArg Prod.fst (hb.provision containerId path o)

theorem Backend.InMemory.provision_snd {σ : Type} {b : Backend σ String} {memory : σ → Memory}
    (hb : b.InMemory memory) (containerId path : String) (o : σ) :
    memory (b.provision containerId path o).2 = ((memory o).provision containerId path).2 :=
  congrArg Prod.snd (hb.provision containerId path o)

theorem Backend.InMemory.perform_fst {σ : Type} {b : Backend σ String} {memory : σ → Memory}
    (hb : b.InMemory memory) (q : Request String) (o : σ) :
    (b.perform q o).1 = ((memory o).perform q).1 := congrArg Prod.fst (hb.perform q o)

theorem Backend.InMemory.perform_snd {σ : Type} {b : Backend σ String} {memory : σ → Memory}
    (hb : b.InMemory memory) (q : Request String) (o : σ) :
    memory (b.perform q o).2 = ((memory o).perform q).2 := congrArg Prod.snd (hb.perform q o)

theorem Backend.InMemory.read_fst {σ : Type} {b : Backend σ String} {memory : σ → Memory}
    (hb : b.InMemory memory) (container id : String) (partition : Value) (o : σ) :
    (b.perform (.read container id partition) o).1
      = (Memory.orAbsent container id
          (((memory o).container container).read? id partition)).map .object :=
  hb.perform_fst (.read container id partition) o

/-- **Idle stretches leave the database alone.** -/
theorem Backend.Idle.memory_eq {σ : Type} {b : Backend σ String} {memory : σ → Memory}
    (hb : b.InMemory memory) {o o' : σ} (h : b.Idle o o') : memory o' = memory o :=
  h.view_eq hb.now hb.newId

/-! ### Failures of the database -/

namespace MemoryContainer

theorem key_occurs {partition : Value} {id : String} {e : Failure}
    (h : key partition id = .error e) : e.Occurs := by
  unfold key at h
  split at h
  · cases h
  · cases h
    rfl

theorem create_occurs {c : MemoryContainer} {body : Fields} {e : Failure}
    (h : c.create body = .error e) : e.Occurs := by
  rcases error_of_bind h with hkey | ⟨k, -, h⟩
  · exact key_occurs hkey
  · split at h
    · cases h
      rfl
    · cases h

theorem read?_occurs {c : MemoryContainer} {id : String} {partition : Value} {e : Failure}
    (h : c.read? id partition = .error e) : e.Occurs := by
  rcases error_of_bind h with hkey | ⟨k, -, h⟩
  · exact key_occurs hkey
  · cases h

theorem replace?_occurs {c : MemoryContainer} {id : String} {body : Fields} {e : Failure}
    (h : c.replace? id body = .error e) : e.Occurs := by
  rcases error_of_bind h with hkey | ⟨k, -, h⟩
  · exact key_occurs hkey
  · cases h

theorem delete?_occurs {c : MemoryContainer} {id : String} {partition : Value} {e : Failure}
    (h : c.delete? id partition = .error e) : e.Occurs := by
  rcases error_of_bind h with hkey | ⟨k, -, h⟩
  · exact key_occurs hkey
  · cases h

theorem placeOf_occurs {token : Option String} {e : Failure} (h : placeOf token = .error e) :
    e.Occurs := by
  unfold placeOf at h
  split at h
  · cases h
  · split at h
    · cases h
    · obtain ⟨e, -, rfl⟩ := error_of_mapError h
      rfl

theorem page_occurs {c : MemoryContainer} {maxSize : Option Int} {r : PageRequest} {e : Failure}
    (h : c.page maxSize r = .error e) : e.Occurs := by
  unfold page at h
  dsimp only at h
  split at h
  · cases h
  · rcases error_of_bind h with hplace | ⟨start, -, h⟩
    · exact placeOf_occurs hplace
    · cases h

end MemoryContainer

namespace Memory

theorem provision_occurs {containerId path : String} {m : Memory} {e : Failure}
    (h : (m.provision containerId path).1 = .error e) : e.Occurs := by
  rw [provision] at h
  dsimp only at h
  split at h
  · cases h
    rfl
  · split at h <;> cases h

theorem change_occurs {α : Type} {m : Memory} {containerId : String} {reply : α}
    {result : Except Failure MemoryContainer} (hresult : ∀ e, result = .error e → e.Occurs)
    {e : Failure} (h : (m.change containerId reply result).1 = .error e) : e.Occurs := by
  cases result with
  | ok c => cases h
  | error e' =>
    cases h
    exact hresult e rfl

theorem orAbsent_occurs {α : Type} {containerId id : String}
    {result : Except Failure (Option α)} (hresult : ∀ e, result = .error e → e.Occurs)
    {e : Failure} (h : orAbsent containerId id result = .error e) : e.Occurs := by
  cases result with
  | error e' =>
    cases h
    exact hresult e rfl
  | ok found =>
    cases found <;> cases h
    rfl

/-- **No failure of the database in memory is a rejection.** -/
theorem perform_occurs {q : Request String} {m : Memory} {e : Failure}
    (h : (m.perform q).1 = .error e) : e.Occurs := by
  cases q with
  | create id body => exact change_occurs (fun _ => MemoryContainer.create_occurs) h
  | read id item partition =>
    exact orAbsent_occurs (fun _ => MemoryContainer.read?_occurs) (error_of_map h)
  | replace id item body =>
    exact change_occurs
      (fun _ => orAbsent_occurs fun _ => MemoryContainer.replace?_occurs) h
  | delete id item partition =>
    exact change_occurs
      (fun _ => orAbsent_occurs fun _ => MemoryContainer.delete?_occurs) h
  | page id request =>
    rw [perform] at h
    split at h
    · cases h
    · cases h
      rfl
    · exact MemoryContainer.page_occurs h

end Memory

/-- **A backend in memory never rejects.** -/
theorem Backend.InMemory.neverRejects {σ : Type} {b : Backend σ String} {memory : σ → Memory}
    (hb : b.InMemory memory) : b.NeverRejects where
  provision containerId path o e h := by
    rw [hb.provision_fst] at h
    exact Memory.provision_occurs h
  perform q o e h := by
    rw [hb.perform_fst] at h
    exact Memory.perform_occurs h

end EntityStore
