import EntityStore.Proofs.Entries
import EntityStore.Proofs.Store.InMemory
import EntityStore.Proofs.Value.Equality

/-!
# What requests do to a container in memory

A document has its key from its own partition value and id (`MemoryContainer.keyOf`).  Writing it
puts it under that key (`MemoryContainer.stored`), deleting removes an entry, and every other request
leaves all containers as they are.

A container is `Sound` when its keys can be digested and no two of them are equal.  Every request
keeps that, and in a sound container a document that is written leaves no other under an equal key
(`Sound.mem_put`).
-/

namespace EntityStore

/-! ### Keys -/

namespace DocumentKey

theorem beq_iff {k k' : DocumentKey} :
    (k == k') = true ↔ k.partition.equal k'.partition = true ∧ k.id = k'.id := by
  show (k.partition.equal k'.partition && k.id == k'.id) = true ↔ _
  rw [Bool.and_eq_true, beq_iff_eq]

theorem beq_symm {k k' : DocumentKey} (hk : k.partition.Hashable) (h : (k == k') = true) :
    (k' == k) = true := by
  obtain ⟨hpartition, hid⟩ := beq_iff.1 h
  exact beq_iff.2 ⟨Value.equal_symm hk hpartition, hid.symm⟩

theorem beq_trans {k k' k'' : DocumentKey} (hk : k.partition.Hashable) (h : (k == k') = true)
    (h' : (k' == k'') = true) : (k == k'') = true := by
  obtain ⟨hpartition, hid⟩ := beq_iff.1 h
  obtain ⟨hpartition', hid'⟩ := beq_iff.1 h'
  exact beq_iff.2 ⟨Value.equal_trans hk hpartition hpartition', hid.trans hid'⟩

end DocumentKey

namespace MemoryContainer

variable {c : MemoryContainer} {partition : Value} {id : String} {body : Fields}

theorem key_of_hashable (h : partition.Hashable) (id : String) :
    key partition id = .ok ⟨partition, id⟩ := by
  obtain ⟨d, hd⟩ := h
  rw [key, hd]

theorem eq_of_key {k : DocumentKey} (h : key partition id = .ok k) :
    partition.Hashable ∧ k = ⟨partition, id⟩ := by
  rw [key] at h
  split at h
  · next d hd =>
    cases h
    exact ⟨⟨d, hd⟩, rfl⟩
  · cases h

/-- **The key of a document**, as the document itself has it. -/
def keyOf (c : MemoryContainer) (body : Fields) : DocumentKey :=
  ⟨c.partitionOf body, (idOf body).text⟩

/-- A container after a document has been written to it. -/
def stored (c : MemoryContainer) (body : Fields) : MemoryContainer :=
  { c with documents := c.documents.put (c.keyOf body) body }

/-- A container after a key has been removed. -/
def removed (c : MemoryContainer) (k : DocumentKey) : MemoryContainer :=
  { c with documents := c.documents.erase k }

/-! ### Requests -/

theorem create_eq (h : (c.partitionOf body).Hashable) :
    c.create body = if c.documents.contains (c.keyOf body) then .error (.exists_ (idOf body).text)
      else .ok (c.stored body) := by
  unfold create
  dsimp only
  rw [key_of_hashable h]
  rfl

theorem read?_eq (h : partition.Hashable) :
    c.read? id partition = .ok (c.documents.get? ⟨partition, id⟩) := by
  unfold read?
  rw [key_of_hashable h]
  rfl

theorem replace?_eq (h : (c.partitionOf body).Hashable) :
    c.replace? (idOf body).text body
      = .ok (if c.documents.contains (c.keyOf body) then some (c.stored body) else none) := by
  unfold replace?
  rw [key_of_hashable h]
  rfl

theorem delete?_eq (h : partition.Hashable) :
    c.delete? id partition
      = .ok (if c.documents.contains ⟨partition, id⟩ then some (c.removed ⟨partition, id⟩)
        else none) := by
  unfold delete?
  rw [key_of_hashable h]
  rfl

/-- The partition value of a document that is written can be part of a key. -/
theorem hashable_of_create {c' : MemoryContainer} (h : c.create body = .ok c') :
    (c.partitionOf body).Hashable := by
  cases hkey : key (c.partitionOf body) (idOf body).text with
  | error e =>
    unfold create at h
    dsimp only at h
    rw [hkey] at h
    cases h
  | ok k => exact (eq_of_key hkey).1

theorem hashable_of_replace? {o : Option MemoryContainer} (h : c.replace? id body = .ok o) :
    (c.partitionOf body).Hashable := by
  cases hkey : key (c.partitionOf body) id with
  | error e =>
    unfold replace? at h
    rw [hkey] at h
    cases h
  | ok k => exact (eq_of_key hkey).1

theorem hashable_of_delete? {o : Option MemoryContainer} (h : c.delete? id partition = .ok o) :
    partition.Hashable := by
  cases hkey : key partition id with
  | error e =>
    unfold delete? at h
    rw [hkey] at h
    cases h
  | ok k => exact (eq_of_key hkey).1

/-! ### Sound containers -/

/-- **The keys of a container** can be digested, and no two of them are equal. -/
structure Sound (c : MemoryContainer) : Prop where
  hashable : ∀ p ∈ c.documents, p.1.partition.Hashable
  distinct : c.documents.Distinct

theorem sound_empty (path : List String) : Sound { partitionPath := path } :=
  ⟨fun _ hp => absurd hp List.not_mem_nil, .nil⟩

namespace Sound

/-- A container with fewer entries is as sound. -/
theorem sublist (h : c.Sound) {c' : MemoryContainer} (hc : c'.documents.Sublist c.documents) :
    c'.Sound where
  hashable p hp := h.hashable p (hc.subset hp)
  distinct := List.Pairwise.sublist hc h.distinct

/-- **After a document has been written** an entry is the one written, or one that was there under
another key. -/
theorem mem_put (h : c.Sound) {p : DocumentKey × Fields}
    (hp : p ∈ (c.stored body).documents) :
    (p ∈ c.documents ∧ (p.1 == c.keyOf body) = false)
      ∨ (p.2 = body ∧ (p.1 = c.keyOf body ∨ (p.1 == c.keyOf body) = true)) := by
  refine Entries.mem_put_of_distinct h.distinct ?_ hp
  intro p hp q hq hpk hqk
  exact DocumentKey.beq_trans (h.hashable p hp) hpk (DocumentKey.beq_symm (h.hashable q hq) hqk)

theorem stored (h : c.Sound) (hbody : (c.partitionOf body).Hashable) : (c.stored body).Sound where
  hashable p hp := by
    rcases Entries.key_of_mem_put hp with hkey | ⟨d, hold⟩
    · rw [hkey]
      exact hbody
    · exact h.hashable (p.1, d) hold
  distinct := h.distinct.put _ body

end Sound

end MemoryContainer

/-! ### The database -/

namespace Memory

variable {m m' : Memory} {containerId : String}

/-- **The database after a document has been written** to a container. -/
structure Wrote (m : Memory) (containerId : String) (body : Fields) (m' : Memory) : Prop where
  hashable : ((m.container containerId).partitionOf body).Hashable
  containers : m'.containers
    = m.containers.put containerId ((m.container containerId).stored body)

theorem container_eq (h : m'.containers = m.containers) (other : String) :
    m'.container other = m.container other := by
  rw [container, container, h]

theorem container_put_self {c : MemoryContainer}
    (h : m'.containers = m.containers.put containerId c) : m'.container containerId = c := by
  rw [container, h, Entries.get?_put_self, Option.getD_some]

theorem container_put_of_ne {c : MemoryContainer} {other : String}
    (h : m'.containers = m.containers.put containerId c) (hne : containerId ≠ other) :
    m'.container other = m.container other := by
  rw [container, h, Entries.get?_put_of_ne _ _ hne, ← container]

/-- **A document is created**, or nothing is changed. -/
theorem perform_create {body : Fields} {r : Except Failure Value}
    (h : m.perform (.create containerId body) = (r, m')) :
    (∃ e, r = .error e ∧ m' = m) ∨ (r = .ok (.object body) ∧ m.Wrote containerId body m') := by
  rw [perform] at h
  cases hcreate : (m.container containerId).create body with
  | error e =>
    rw [hcreate] at h
    cases h
    exact .inl ⟨e, rfl, rfl⟩
  | ok c =>
    have hhashable := MemoryContainer.hashable_of_create hcreate
    rw [hcreate] at h
    cases h
    rw [MemoryContainer.create_eq hhashable] at hcreate
    split at hcreate
    · cases hcreate
    · cases hcreate
      exact .inr ⟨rfl, hhashable, rfl⟩

/-- **A document is replaced**, or nothing is changed. -/
theorem perform_replace {body : Fields} {r : Except Failure Value}
    (h : m.perform (.replace containerId (MemoryContainer.idOf body).text body) = (r, m')) :
    (∃ e, r = .error e ∧ m' = m) ∨ (r = .ok (.object body) ∧ m.Wrote containerId body m') := by
  rw [perform] at h
  cases hreplace :
      (m.container containerId).replace? (MemoryContainer.idOf body).text body with
  | error e =>
    rw [hreplace] at h
    cases h
    exact .inl ⟨e, rfl, rfl⟩
  | ok o =>
    have hhashable := MemoryContainer.hashable_of_replace? hreplace
    rw [MemoryContainer.replace?_eq hhashable] at hreplace h
    split at h
    · cases h
      exact .inr ⟨rfl, hhashable, rfl⟩
    · cases h
      exact .inl ⟨_, rfl, rfl⟩

/-- **A document is deleted**, or nothing is changed. -/
theorem perform_delete {id : String} {partition : Value} {r : Except Failure Unit}
    (h : m.perform (.delete containerId id partition) = (r, m')) :
    (∃ e, r = .error e ∧ m' = m)
      ∨ (r = .ok () ∧ m'.containers
        = m.containers.put containerId ((m.container containerId).removed ⟨partition, id⟩)) := by
  rw [perform] at h
  cases hdelete : (m.container containerId).delete? id partition with
  | error e =>
    rw [hdelete] at h
    cases h
    exact .inl ⟨e, rfl, rfl⟩
  | ok o =>
    have hhashable := MemoryContainer.hashable_of_delete? hdelete
    rw [MemoryContainer.delete?_eq hhashable] at hdelete h
    split at h
    · cases h
      exact .inr ⟨rfl, rfl⟩
    · cases h
      exact .inl ⟨_, rfl, rfl⟩

/-- A request for a page changes no container. -/
theorem perform_page_containers (m : Memory) (request : PageRequest) :
    (m.perform (.page containerId request)).2.containers = m.containers := by
  rw [perform]
  split <;> rfl

/-- **Provisioning makes empty containers**, and changes none that is there. -/
theorem provision_container (m : Memory) (containerId path other : String) :
    (m.provision containerId path).2.container other = m.container other
      ∨ ((m.provision containerId path).2.container other).documents = [] := by
  rw [provision]
  dsimp only
  split
  · exact .inl rfl
  split
  · exact .inl rfl
  · by_cases hother : containerId = other
    · subst hother
      right
      rw [container_put_self rfl]
    · left
      rw [container_put_of_ne rfl hother]
      rfl

end Memory

end EntityStore
