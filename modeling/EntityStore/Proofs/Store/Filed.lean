import EntityStore.Proofs.Store.LastWrite
import EntityStore.Proofs.Store.Serving

/-!
# How documents are filed

A container is filed when each document stands under its own id and its own partition value, and no
two stand under the same (`MemoryContainer.Filed`).  Whatever calls have run side by side over a
database that was empty, all its containers are filed (`Crew.filed_run`).

Which field holds the partition value is settled when the container is made.  Entities with
different partition fields may have one container, and then it is the field of the entity that
came first.  But a container that only one of the entities in use has is partitioned as that
entity is configured (`Crew.partitioned_run`).
-/

namespace EntityStore

/-! ### Filed containers -/

namespace MemoryContainer

/-- **A container in which each document stands under its own key.** -/
structure Filed (c : MemoryContainer) : Prop where
  sound : c.Sound
  id : ∀ p ∈ c.documents, p.2.get? Document.idField = some (.str p.1.id)
  partition : ∀ p ∈ c.documents,
    p.1.partition = c.partitionOf p.2 ∨ p.1.partition.equal (c.partitionOf p.2) = true

/-- Entries under one key have equal keys. -/
theorem Sound.meet {c : MemoryContainer} (h : c.Sound) {p q : DocumentKey × Fields}
    (hp : p ∈ c.documents) (hq : q ∈ c.documents) {k : DocumentKey} (hpk : (p.1 == k) = true)
    (hqk : (q.1 == k) = true) : (p.1 == q.1) = true :=
  DocumentKey.beq_trans (h.hashable p hp) hpk (DocumentKey.beq_symm (h.hashable q hq) hqk)

/-- **The entries under a key** are the one that is found there, if there is one. -/
theorem Sound.filter_key {c : MemoryContainer} (h : c.Sound) (k : DocumentKey) :
    (c.documents.filter fun p => p.1 == k).map Prod.snd = (c.documents.get? k).toList := by
  have hnone {e : Entries DocumentKey Fields} (hget : e.get? k = none) :
      e.filter (fun p => p.1 == k) = [] := by
    rw [List.filter_eq_nil_iff]
    intro p hp
    rw [Entries.get?_eq_none_iff.1 hget p hp]
    exact Bool.false_ne_true
  cases hget : c.documents.get? k with
  | none => rw [hnone hget, List.map_nil, Option.toList_none]
  | some d =>
    obtain ⟨before, k', after, hsplit, hk, hbefore⟩ := Entries.split_of_get? hget
    have hfirst : (k', d) ∈ c.documents := by
      rw [hsplit]
      exact List.mem_append_right _ List.mem_cons_self
    -- Behind the first entry with the key none has it, since the entries are told apart.
    have hafter : after.filter (fun p => p.1 == k) = [] := by
      rw [List.filter_eq_nil_iff]
      intro p hp hpk
      have hmem : p ∈ c.documents := by
        rw [hsplit]
        exact List.mem_append_right _ (List.mem_cons_of_mem _ hp)
      have hdistinct := h.distinct
      rw [hsplit] at hdistinct
      have hapart := (List.pairwise_cons.1 (List.pairwise_append.1 hdistinct).2.1).1 p hp
      have hmeet := h.meet hfirst hmem hk hpk
      rw [hapart] at hmeet
      exact Bool.false_ne_true hmeet
    rw [hsplit, List.filter_append, hnone hbefore, List.filter_cons, hafter, if_pos hk]
    rfl

/-! ### Partition paths -/

/-- **Writing and deleting** keep the partition path. -/
theorem partitionPath_of_create {c c' : MemoryContainer} {body : Fields}
    (h : c.create body = .ok c') : c'.partitionPath = c.partitionPath := by
  rw [create_eq (hashable_of_create h)] at h
  split at h
  · cases h
  · cases h
    rfl

theorem partitionPath_of_replace? {c c' : MemoryContainer} {id : String} {body : Fields}
    (h : c.replace? id body = .ok (some c')) : c'.partitionPath = c.partitionPath := by
  rw [replace?, key_of_hashable (hashable_of_replace? h)] at h
  replace h := Except.ok.inj h
  split at h
  · cases h
    rfl
  · cases h

theorem partitionPath_of_delete? {c c' : MemoryContainer} {id : String} {partition : Value}
    (h : c.delete? id partition = .ok (some c')) : c'.partitionPath = c.partitionPath := by
  rw [delete?_eq (hashable_of_delete? h)] at h
  replace h := Except.ok.inj h
  split at h
  · cases h
    rfl
  · cases h

end MemoryContainer

namespace Memory

/-- Requests keep the partition paths of all containers. -/
theorem perform_partitionPath (q : Request String) (m : Memory) (id : String) :
    ((m.perform q).2.container id).partitionPath = (m.container id).partitionPath := by
  -- A change puts a container back under its id, with the path it has had.
  have hchange {α : Type} (other : String) (reply : α) {result : Except Failure MemoryContainer}
      (hresult : ∀ c, result = .ok c → c.partitionPath = (m.container other).partitionPath) :
      ((m.change other reply result).2.container id).partitionPath
        = (m.container id).partitionPath := by
    cases result with
    | error e => rfl
    | ok c =>
      by_cases hid : other = id
      · subst hid
        rw [container_put_self (m := m) rfl]
        exact hresult c rfl
      · rw [container_put_of_ne (m := m) rfl hid]
  have hfound {other item : String} {result : Except Failure (Option MemoryContainer)}
      {c : MemoryContainer} (h : orAbsent other item result = .ok c) : result = .ok (some c) := by
    rcases result with e | _ | c' <;> cases h
    rfl
  cases q with
  | create other body =>
    exact hchange other _ fun c h => MemoryContainer.partitionPath_of_create h
  | read => rfl
  | replace other item body =>
    exact hchange other _ fun c h => MemoryContainer.partitionPath_of_replace? (hfound h)
  | delete other item partition =>
    exact hchange other _ fun c h => MemoryContainer.partitionPath_of_delete? (hfound h)
  | page other request => rw [container_eq (perform_page_containers m request)]

/-- Provisioning gives a partition path to the container that is made, and to no other. -/
theorem provision_partitionPath (m : Memory) (containerId path id : String) :
    ((m.provision containerId path).2.container id).partitionPath = (m.container id).partitionPath
      ∨ containerId = id ∧ ((m.provision containerId path).2.container id).partitionPath
        = MemoryContainer.pathSegments path := by
  rw [provision]
  dsimp only
  split
  · exact .inl rfl
  split
  · exact .inl rfl
  · by_cases hid : containerId = id
    · subst hid
      rw [container_put_self rfl]
      exact .inr ⟨rfl, rfl⟩
    · rw [container_put_of_ne rfl hid]
      exact .inl rfl

end Memory

namespace Crew

variable {σ : Type} {b : Backend σ String} {memory : σ → Memory}

/-! ### Runs file documents -/

/-- Where every entry is what the last write has left, the documents are filed. -/
theorem Kept.filed {calls : List Call} {readings : List Reading} {writes : List (Write String)}
    {c : Crew σ String} (h : Kept memory writes c) (hrecorded : Recorded calls readings writes c)
    (id : String) : ((memory c.session.outside).container id).Filed where
  sound := h.sound id
  id p hp := by
    obtain ⟨w, hlast⟩ := h.last id p hp
    obtain ⟨earlier, later, hwrites, -⟩ := hlast.last
    obtain ⟨call, now, -, -, hstores⟩ :=
      hrecorded.stores w (by rw [hwrites]; exact List.mem_append_right _ List.mem_cons_self)
    rw [hlast.body] at hstores
    have hid : p.1.id = (MemoryContainer.idOf p.2).text := by
      rcases hlast.key with hkey | hkey
      · exact congrArg DocumentKey.id hkey
      · exact (DocumentKey.beq_iff.1 hkey).2
    rw [hid]
    exact hstores.id
  partition p hp := by
    obtain ⟨w, hlast⟩ := h.last id p hp
    rcases hlast.key with hkey | hkey
    · exact .inl (congrArg DocumentKey.partition hkey)
    · exact .inr (DocumentKey.beq_iff.1 hkey).1

/-- **All containers are filed** after calls have run side by side over an empty database. -/
theorem filed_run (hb : b.InMemory memory) {s : Session σ String}
    (hempty : (memory s.outside).containers = []) (calls : List Call) (schedule : List Nat)
    (id : String) :
    ((memory ((⟨s, calls.map .starting⟩ : Crew σ String).run b schedule).session.outside).container
      id).Filed := by
  have hrecorded := recorded_starting s calls
  have hend := (kept_starting hempty).run hb hrecorded schedule
  exact hend.filed (hrecorded.run hb schedule) id

/-! ### Runs keep the partition field -/

end Crew

/-- An entity that does not have the container of a configuration, unless the configuration is its
own. -/
def Registry.Spares (r : Registry) (config : ContainerConfig) (entity : String) : Prop :=
  ∀ c, (r.lookup entity).1 = .ok c → c.containerId = config.containerId → c = config

/-- **A task that does not make the container of a configuration** for another one. -/
def Stage.Spares (registry : Registry) (config : ContainerConfig) : Stage String → Prop
  | .starting call => ∀ e, call.entity? = some e → registry.Spares config e
  | .queued entity c _ =>
    registry.Spares config entity ∧ (c.containerId = config.containerId → c = config)
  | .provisioning entity _ _ => registry.Spares config entity
  | .finished _ => True

namespace Crew

variable {σ : Type} {b : Backend σ String} {memory : σ → Memory}

section

variable {registry : Registry} {config : ContainerConfig} {s s' s₁ : Session σ String}
  {stage stage' : Stage String}

/-- Work keeps the partition paths. -/
theorem perform_keepsPath (hb : b.InMemory memory) (id entity container : String) (work : Work) :
    Run.Keeps (fun s s' : Session σ String => ((memory s'.outside).container id).partitionPath
      = ((memory s.outside).container id).partitionPath) (work.perform b entity container) := by
  have : IsPreorder (Session σ String) fun s s' =>
      ((memory s'.outside).container id).partitionPath
        = ((memory s.outside).container id).partitionPath :=
    { refl := fun _ => rfl, trans := fun _ _ _ h h' => Eq.trans h' h }
  have hrequest (q : Request String) :
      Run.Keeps (fun s s' : Session σ String => ((memory s'.outside).container id).partitionPath
        = ((memory s.outside).container id).partitionPath) (Session.consult (b.perform q)) := by
    intro s
    have hperform := Memory.perform_partitionPath q (memory s.outside) id
    rw [← hb.perform q s.outside] at hperform
    exact hperform
  exact keeps_perform entity work (fun _ => rfl) (fun _ _ => hrequest _) (fun _ _ _ => hrequest _)
    (fun _ _ _ => hrequest _) (fun _ _ => hrequest _) fun _ => hrequest _

theorem Reached.spares {entity : String} {work : Work} (h : Reached b s stage entity work s₁)
    (hstage : stage.Spares registry config) : registry.Spares config entity := by
  cases h with
  | starting hprepare => exact hstage entity (Call.prepare_entity hprepare)
  | queued => exact hstage.1
  | provisioning => exact hstage

/-- **A turn keeps the partition path of a container**, or makes it for the configuration. -/
theorem Turn.spares (hb : b.InMemory memory) (h : Turn b s stage stage' s')
    (hagrees : registry.Agrees s.router.registry) (hstage : stage.Spares registry config) :
    stage'.Spares registry config
      ∧ (((memory s'.outside).container config.containerId).partitionPath
          = ((memory s.outside).container config.containerId).partitionPath
        ∨ ((memory s'.outside).container config.containerId).partitionPath
          = MemoryContainer.pathSegments config.partitionPath) := by
  -- Preparing a call asks for no container.
  have hprepared {call : Call} {r : Except Failure (Prepared String)} {s₁ : Session σ String}
      (hprepare : call.prepare b s = (r, s₁)) :
      memory s₁.outside = memory s.outside ∧ s.router.registry.Agrees s₁.router.registry := by
    have happroached := (Call.prepare_approached call).of_eq hprepare
    exact ⟨happroached.outside.memory_eq hb, happroached.router.registry⟩
  cases h with
  | failed hprepare | answered hprepare | unknown hprepare =>
    rw [(hprepared hprepare).1]
    exact ⟨trivial, .inl rfl⟩
  | @waits _ entity _ c s₁ router hprepare hlookup =>
    have hspares := Reached.spares (.starting hprepare) hstage
    refine ⟨⟨hspares, hspares c ?_⟩, .inl ?_⟩
    · rw [← hagrees, ← (hprepared hprepare).2, hlookup]
    · dsimp only
      rw [(hprepared hprepare).1]
  | @calls _ entity work c s₁ router hreached hconfig =>
    have hspares := hreached.spares hstage
    -- When the entity has the container of the configuration, its configuration is this one.
    have hown : c.containerId = config.containerId → c = config := by
      rcases hconfig with hlookup | ⟨rfl, -⟩
      · refine hspares c ?_
        rw [← hagrees, ← hreached.approached.router.registry, hlookup]
      · exact hstage.2
    refine ⟨hspares, ?_⟩
    dsimp only
    rw [hb.provision_snd, hreached.memory_eq hb]
    rcases Memory.provision_partitionPath (memory s.outside) c.containerId c.partitionPath
        config.containerId with hsame | ⟨hid, hmade⟩
    · exact .inl hsame
    · rw [hmade, hown hid]
      exact .inr rfl
  | refused => exact ⟨trivial, .inl rfl⟩
  | @works _ entity work handle s₁ router hreached _ _ _ result s' hperform =>
    have hkeeps := (perform_keepsPath hb config.containerId entity handle work).of_eq hperform
    dsimp only at hkeeps
    rw [hreached.memory_eq hb] at hkeeps
    exact ⟨trivial, .inl hkeeps⟩

end

/-- **What is known of the container of a configuration** that all tasks spare: it is partitioned as
the configuration says, or has not been made. -/
structure Partitioned (memory : σ → Memory) (registry : Registry) (config : ContainerConfig)
    (c : Crew σ String) : Prop where
  agrees : registry.Agrees c.session.router.registry
  spares : ∀ {i : Nat} {stage : Stage String}, c.stages[i]? = some stage →
    stage.Spares registry config
  path : ((memory c.session.outside).container config.containerId).partitionPath
      = MemoryContainer.pathSegments config.partitionPath
    ∨ ((memory c.session.outside).container config.containerId).partitionPath = []

section

variable {registry : Registry} {config : ContainerConfig} {c : Crew σ String}

theorem Partitioned.advance (hb : b.InMemory memory) (h : Partitioned memory registry config c)
    (task : Nat) : Partitioned memory registry config (c.advance b task).1 := by
  rcases advance_turn b c task with ⟨hidle, -⟩ | ⟨stage, stage', ht⟩
  · rw [hidle]
    exact h
  obtain ⟨hspares, hpath⟩ := ht.turn.spares hb h.agrees (h.spares ht.before)
  refine ⟨h.agrees.trans ht.turn.agrees, ?_, ?_⟩
  · intro i t hstage
    rcases ht.stage_cases hstage with ⟨-, rfl⟩ | ⟨-, hold⟩
    · exact hspares
    · exact h.spares hold
  · rcases hpath with hsame | hmade
    · rw [hsame]
      exact h.path
    · exact .inl hmade

theorem Partitioned.run (hb : b.InMemory memory) (h : Partitioned memory registry config c)
    (schedule : List Nat) : Partitioned memory registry config (c.run b schedule) := by
  induction schedule generalizing c with
  | nil => exact h
  | cons task schedule ih => exact ih (h.advance hb task)

end

/-- **The container of an entity is partitioned as the entity is configured**, if no other of the
entities in use has it. -/
theorem partitioned_run (hb : b.InMemory memory) {s : Session σ String}
    (hempty : (memory s.outside).containers = []) {config : ContainerConfig} {calls : List Call}
    (hspares : ∀ call ∈ calls, ∀ e, call.entity? = some e → s.router.registry.Spares config e)
    (schedule : List Nat) :
    let c := (memory
      ((⟨s, calls.map .starting⟩ : Crew σ String).run b schedule).session.outside).container
        config.containerId
    c.partitionPath = MemoryContainer.pathSegments config.partitionPath ∨ c.documents = [] := by
  intro c
  -- No task has begun, and no container has been made.
  have hstart : Partitioned memory s.router.registry config
      (⟨s, calls.map .starting⟩ : Crew σ String) := by
    refine ⟨fun _ => rfl, ?_, .inr ?_⟩
    · intro i stage hstage
      rw [List.getElem?_map, Option.map_eq_some_iff] at hstage
      obtain ⟨call, hcall, rfl⟩ := hstage
      exact hspares call (List.mem_of_getElem? hcall)
    · dsimp only
      rw [Memory.container, hempty]
      rfl
  rcases (hstart.run hb schedule).path with hpath | hpath
  · exact .inl hpath
  · -- Without a partition field the partition value would be a whole document, which is no key.
    right
    have hfiled : c.Filed := filed_run hb hempty calls schedule config.containerId
    rw [List.eq_nil_iff_forall_not_mem]
    intro p hp
    have hwhole : c.partitionOf p.2 = .object p.2 := by
      rw [MemoryContainer.partitionOf, show c.partitionPath = [] from hpath]
      rfl
    have hhashable := hfiled.sound.hashable p hp
    rcases hfiled.partition p hp with hkey | hkey
    · rw [hkey, hwhole] at hhashable
      exact Value.not_hashable_object _ hhashable
    · rw [hwhole] at hkey
      cases hvalue : p.1.partition with
      | object fields =>
        rw [hvalue] at hhashable
        exact Value.not_hashable_object _ hhashable
      | scalar | list | tuple | filter => simp [hvalue, Value.equal] at hkey

end Crew

end EntityStore
