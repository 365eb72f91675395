import EntityStore.Proofs.Store.Retrieval
import EntityStore.Proofs.Store.Visited

/-!
# Documents from creation to deletion

A document that is created goes to the end of the container that its entity is served from, under
the partition value and the id that it holds (`Houses.run_create`).  From then on, as long as the
document stands there, a deletion under these two removes it and nothing else, and a reading finds no
document afterwards (`Houses.run_delete`).  What makes the second half work is that the keys of a
container in a visited database are all different, so that the first entry under the key is the
entry in question and there is no other behind it.

The partition value has to be one that can be asked for.  A value that does not equal itself stands
for no key, and null says that no value is given, so a document that is filed under null is not
deleted under null (`Houses.run_delete_null`).
-/

namespace EntityStore

/-! ### Containers -/

namespace MemoryContainer

variable {c c' : MemoryContainer} {k : DocumentKey} {d body : Fields}
  {before after : Entries DocumentKey Fields}

/-- **A document that is created** goes to the end, under its own key. -/
theorem documents_of_create (h : c.create body = .ok c') :
    c'.documents = c.documents ++ [(c'.keyOf body, body)] := by
  rw [create_eq (hashable_of_create h)] at h
  split at h
  · cases h
  · next hfree =>
    cases h
    exact Entries.put_of_new (Option.isNone_iff_eq_none.1 (by simpa [Entries.contains] using hfree))

/-- **Nothing else stands under the key of an entry**, before it or behind it. -/
theorem Sound.get?_rest (h : c.Sound) (hsplit : c.documents = before ++ (k, d) :: after) :
    before.get? k = none ∧ Entries.get? (before ++ after) k = none := by
  have hdistinct := h.distinct
  rw [hsplit] at hdistinct
  obtain ⟨-, hrest, hcross⟩ := List.pairwise_append.1 hdistinct
  have hbefore : ∀ p ∈ before, (p.1 == k) = false :=
    fun p hp => hcross p hp (k, d) List.mem_cons_self
  refine ⟨Entries.get?_eq_none_iff.2 hbefore, Entries.get?_eq_none_iff.2 ?_⟩
  intro p hp
  rcases List.mem_append.1 hp with hp | hp
  · exact hbefore p hp
  -- Behind the entry keys are compared the other way round.
  have hmem : p ∈ c.documents := by
    rw [hsplit]
    exact List.mem_append_right _ (List.mem_cons_of_mem _ hp)
  have hbehind : (k == p.1) = false := (List.pairwise_cons.1 hrest).1 p hp
  rw [← Bool.not_eq_true] at hbehind ⊢
  exact fun hpk => hbehind (DocumentKey.beq_symm (h.hashable p hmem) hpk)

/-- **An entry is removed** under its key, if the key equals itself. -/
theorem Sound.delete?_split (h : c.Sound) (hsplit : c.documents = before ++ (k, d) :: after)
    (hself : k.partition.equal k.partition = true) :
    c.delete? k.id k.partition = .ok (some { c with documents := before ++ after }) := by
  have hmem : (k, d) ∈ c.documents := by
    rw [hsplit]
    exact List.mem_append_right _ List.mem_cons_self
  have hk : (k == k) = true := DocumentKey.beq_iff.2 ⟨hself, rfl⟩
  obtain ⟨hbefore, -⟩ := h.get?_rest hsplit
  have hpresent : c.documents.contains k = true := by
    rw [Entries.contains, Option.isSome_iff_ne_none, Ne, Entries.get?_eq_none_iff]
    intro hnone
    exact absurd hk (Bool.not_eq_true _ ▸ hnone _ hmem)
  rw [delete?_eq (h.hashable _ hmem), if_pos hpresent, removed, hsplit,
    Entries.erase_split hbefore hk]

/-- An entry stays when another partition value is removed. -/
theorem mem_removed {p : DocumentKey × Fields} (hp : p ∈ c.documents)
    (hother : p.1.partition.equal k.partition = false) : p ∈ (c.removed k).documents := by
  refine Entries.mem_erase_of_ne hp ?_
  rw [← Bool.not_eq_true, DocumentKey.beq_iff, hother]
  exact fun hk => Bool.false_ne_true hk.1

end MemoryContainer

/-! ### The database -/

namespace Memory

variable {m : Memory} {containerId : String} {c : MemoryContainer}

theorem perform_create_eq {body : Fields} (h : (m.container containerId).create body = .ok c) :
    m.perform (.create containerId body)
      = (.ok (.object body), { m with containers := m.containers.put containerId c }) := by
  rw [perform, h]
  rfl

theorem perform_delete_eq {id : String} {partition : Value}
    (h : (m.container containerId).delete? id partition = .ok (some c)) :
    m.perform (.delete containerId id partition)
      = (.ok (), { m with containers := m.containers.put containerId c }) := by
  rw [perform, h]
  rfl

end Memory

/-! ### Sessions -/

namespace Session

variable {σ : Type} {b : Backend σ String} {memory : σ → Memory} {s s₁ s' : Session σ String}
  {entity container : String} {config : ContainerConfig}

/-- **A session in which a known entity is served from a container**, over a database that stores
have led to. -/
structure Houses (b : Backend σ String) (memory : σ → Memory) (entity : String)
    (config : ContainerConfig) (container : String) (s : Session σ String) : Prop where
  rest : s.AtRest memory
  visited : b.Visited memory s.outside
  known : (s.router.registry.lookup entity).1 = .ok config
  container : s.containerOf entity = .ok container

/-- A request leaves a session at rest. -/
theorem AtRest.requested (h : s.AtRest memory) (hb : b.InMemory memory) (q : Request String) :
    AtRest memory { s with outside := (b.perform q s.outside).2 } := by
  refine h.alike (Std.Refl.refl s.router) ?_
  rw [hb.perform_snd]
  exact Memory.perform_settings h.database.unscripted q

/-- **A call that comes to one request** makes it of the container that the entity is served from,
once the container is to be had. -/
theorem AtRest.run_request (h : s.AtRest memory) (hb : b.InMemory memory)
    (hcontainer : s.containerOf entity = .ok container) {call : Call} {work : Work}
    {q : Request String} {f : q.Reply → Answer String}
    (hprepare : call.prepare b s = (.ok (.ready entity work), s₁))
    (hwork : work.perform b entity container
      = consult (b.perform q) >>= fun reply => pure (f reply)) :
    ∃ s₂ : Session σ String, s.Browsed memory s₂ ∧ s₂.AtRest memory
      ∧ s₂.router.handles.get? entity = some container
      ∧ call.run b s
        = (((memory s₂.outside).perform q).1.map f,
          { s₂ with outside := (b.perform q s₂.outside).2 })
      ∧ memory (b.perform q s₂.outside).2 = ((memory s₂.outside).perform q).2 := by
  have happroached := (Call.prepare_approached call).of_eq hprepare
  obtain ⟨s₂, hresolve, hs₂, hbrowsed, hkept⟩ := (h.approached hb happroached).resolve hb
    ((happroached.containerOf_eq entity).trans hcontainer)
  refine ⟨s₂, IsTrans.trans _ _ _ (happroached.browsed hb) hbrowsed, hs₂, hkept, ?_,
    hb.perform_snd q s₂.outside⟩
  rw [Call.run_of_ready hprepare hresolve, hwork, Run.bind_pure_eq, consult_eq, hb.perform_fst]

namespace Houses

variable (hb : b.InMemory memory) (h : s.Houses b memory entity config container)

include hb h

/-- **A call to create that succeeds** has put the document at the end of the container. -/
theorem run_create {id : Option String} {document : Value} {a : Answer String}
    (hcreated : (Call.create (some entity) id document).run b s = (.ok a, s')) :
    ∃ body key, Text.isBlankText entity = false ∧ Text.isBlankText key = false
      ∧ a = .document (.object body) ∧ Entries.get? body Document.idField = some (.str key)
      ∧ ((memory s'.outside).container container).documents
        = ((memory s.outside).container container).documents
          ++ [(⟨((memory s'.outside).container container).partitionOf body, key⟩, body)]
      ∧ (∀ other, other ≠ container → ((memory s'.outside).container other).documents
        = ((memory s.outside).container other).documents)
      ∧ s'.Houses b memory entity config container := by
  have hvisited : b.Visited memory s'.outside := by
    have hnext := h.visited.run (.create (some entity) id document)
    rw [hcreated] at hnext
    exact hnext
  obtain ⟨r, s₁, hprepare, -⟩ := Run.ok_of_bind hcreated
  obtain ⟨_, key, fields, now, body, o, ⟨⟩, -, -, -, hbody, rfl, -, hname, hkey⟩ :=
    Call.prepare_create hprepare
  have hid : Entries.get? body Document.idField = some (.str key) := Document.stampNew_id hbody
  obtain ⟨s₂, hbrowsed, hs₂, hkept, hrun, hmemory⟩ := h.rest.run_request hb h.container hprepare
    (q := .create container body) (f := .document) rfl
  rw [hcreated] at hrun
  obtain ⟨hanswer, rfl⟩ := Prod.ext_iff.1 hrun
  cases hcreate : ((memory s₂.outside).container container).create body with
  | error e =>
    rw [Memory.perform, hcreate] at hanswer
    cases hanswer
  | ok c =>
    rw [Memory.perform_create_eq hcreate] at hanswer hmemory
    cases hanswer
    -- The container makes the key from the stamped body, whose id is the one that is answered.
    have hkeyOf : c.keyOf body = ⟨c.partitionOf body, key⟩ := by
      rw [MemoryContainer.keyOf, MemoryContainer.idOf, hid]
      rfl
    refine ⟨body, key, hname, hkey, rfl, hid, ?_, ?_, hs₂.requested hb _, hvisited,
      (hbrowsed.registry entity).trans h.known, containerOf_of_kept hkept⟩
    · rw [hmemory, Memory.container_put_self rfl, MemoryContainer.documents_of_create hcreate,
        hkeyOf, hbrowsed.documents]
    · intro other hother
      rw [hmemory, Memory.container_put_of_ne rfl (Ne.symm hother)]
      exact hbrowsed.documents other

variable {k : DocumentKey} {d : Fields} {before after : Entries DocumentKey Fields}
  (hsplit : ((memory s.outside).container container).documents = before ++ (k, d) :: after)
  (hentity : Text.isBlankText entity = false) (hid : Text.isBlankText k.id = false)

include hsplit hentity hid

/-- **A document is deleted** under its key, and nothing else is, and then it is not to be read. -/
theorem run_delete (hdurable : b.Durable memory) (hgiven : k.partition.isNull = false)
    (hself : k.partition.equal k.partition = true) :
    ∃ s', (Call.delete (some entity) (some k.id) k.partition).run b s = (.ok .deleted, s')
      ∧ ((memory s'.outside).container container).documents = before ++ after
      ∧ (∀ other, other ≠ container → ((memory s'.outside).container other).documents
        = ((memory s.outside).container other).documents)
      ∧ ((Call.read (some entity) (some k.id) k.partition).run b s').1 = .ok .noDocument := by
  have hprepare := Call.prepare_delete (b := b) hentity hid (configOf_eq h.known) k.partition
  rw [requirePartition, hgiven] at hprepare
  obtain ⟨s₂, hbrowsed, hs₂, hkept, hrun, hmemory⟩ := h.rest.run_request hb h.container hprepare
    (q := .delete container k.id k.partition) (f := fun _ => .deleted) rfl
  -- Resolving the container has left its documents alone.
  have hdocuments : ((memory s₂.outside).container container).documents
      = before ++ (k, d) :: after := (hbrowsed.documents container).trans hsplit
  have hsound : ((memory s₂.outside).container container).Sound :=
    (h.visited.filed hb hdurable container).sound.sublist (by rw [hbrowsed.documents])
  rw [Memory.perform_delete_eq (hsound.delete?_split hdocuments hself)] at hrun hmemory
  let s' : Session σ String :=
    { s₂ with outside := (b.perform (.delete container k.id k.partition) s₂.outside).2 }
  have hs' : s'.AtRest memory := hs₂.requested hb _
  have hrest : ((memory s'.outside).container container).documents = before ++ after := by
    rw [hmemory, Memory.container_put_self rfl]
  refine ⟨s', hrun, hrest, ?_, ?_⟩
  · intro other hother
    rw [hmemory, Memory.container_put_of_ne rfl (Ne.symm hother)]
    exact hbrowsed.documents other
  · -- The key is not found any more, since no other entry had it.
    have hhashable : k.partition.Hashable :=
      hsound.hashable (k, d) (hdocuments ▸ List.mem_append_right _ List.mem_cons_self)
    obtain ⟨-, hgone⟩ := hsound.get?_rest hdocuments
    rw [hs'.run_read_key hb hentity (containerOf_of_kept hkept) hid hhashable hgiven,
      MemoryContainer.answer, hrest, hgone]
    rfl

/-- **A document that is filed under null is not deleted** under null: where a partition value is
required it is missing, and where the id takes its place another document is meant. -/
theorem run_delete_null (hnull : k.partition.isNull = true) :
    ∃ r s', (Call.delete (some entity) (some k.id) k.partition).run b s = (r, s')
      ∧ (k, d) ∈ ((memory s'.outside).container container).documents
      ∧ (config.partitionField ≠ Document.idField →
        r = .error (.partitionRequired entity config.partitionField)
          ∧ memory s'.outside = memory s.outside) := by
  have hmem : (k, d) ∈ ((memory s.outside).container container).documents :=
    hsplit ▸ List.mem_append_right _ List.mem_cons_self
  have hprepare := Call.prepare_delete (b := b) hentity hid (configOf_eq h.known) k.partition
  rw [requirePartition, hnull] at hprepare
  -- Only where the id is the partition is a request made, for another key than this one.
  by_cases hfield : config.partitionField = Document.idField
  case neg =>
    rw [if_neg (by decide), if_neg hfield] at hprepare
    exact ⟨_, _, Call.run_of_failed hprepare, hmem, fun _ => ⟨rfl, rfl⟩⟩
  rw [if_neg (by decide), if_pos hfield] at hprepare
  obtain ⟨s₂, hbrowsed, -, -, hrun, hmemory⟩ := h.rest.run_request hb h.container hprepare
    (q := .delete container k.id (.str k.id)) (f := fun _ => .deleted) rfl
  refine ⟨_, _, hrun, ?_, fun hne => absurd hfield hne⟩
  have hmem₂ : (k, d) ∈ ((memory s₂.outside).container container).documents :=
    hbrowsed.documents container ▸ hmem
  rcases Memory.perform_delete (Prod.mk.eta (p := (memory s₂.outside).perform
    (.delete container k.id (.str k.id)))).symm with ⟨e, -, hsame⟩ | ⟨-, hremoved⟩
  · rw [hmemory, hsame]
    exact hmem₂
  · rw [hmemory, Memory.container_put_self hremoved]
    refine MemoryContainer.mem_removed hmem₂ ?_
    show k.partition.equal (.str k.id) = false
    rw [Value.eq_null_of_isNull hnull, Value.equal]
    rfl

end Houses

end Session

open Session in
/-- **What is created can be deleted**, from any session at rest over a database that stores have led
to, for an entity that is known.

A call to create that succeeds has put the document at the end of the container of the entity, under
the partition value that the document holds and its id, and changed no other document.  In every such
session over a database in which a document still stands under this key, deleting under the two
removes that document and nothing else, and a reading under the two finds no document afterwards, if
the partition value is given and equals itself.  If it is null then the document stays, and unless
the entity is partitioned on the id the call fails because a partition value is required. -/
theorem created_deletable {σ : Type} (b : Backend σ String) (memory : σ → Memory)
    (hb : b.InMemory memory) (hdurable : b.Durable memory) (s : Session σ String)
    (entity : String) (config : ContainerConfig) (container : String)
    (h : s.Houses b memory entity config container) (id : Option String) (document : Value)
    (a : Answer String) (s' : Session σ String)
    (hcreated : (Call.create (some entity) id document).run b s = (.ok a, s')) :
    ∃ body key,
      let v := ((memory s'.outside).container container).partitionOf body
      a = .document (.object body) ∧ Entries.get? body Document.idField = some (.str key)
        ∧ ((memory s'.outside).container container).documents
          = ((memory s.outside).container container).documents ++ [(⟨v, key⟩, body)]
        ∧ (∀ other, other ≠ container → ((memory s'.outside).container other).documents
          = ((memory s.outside).container other).documents)
        ∧ s'.Houses b memory entity config container
        ∧ ∀ (t : Session σ String) (config' : ContainerConfig),
          t.Houses b memory entity config' container → ∀ before d after,
          ((memory t.outside).container container).documents = before ++ (⟨v, key⟩, d) :: after →
          (v.isNull = false → v.equal v = true →
              ∃ t', (Call.delete (some entity) (some key) v).run b t = (.ok .deleted, t')
                ∧ ((memory t'.outside).container container).documents = before ++ after
                ∧ (∀ other, other ≠ container → ((memory t'.outside).container other).documents
                  = ((memory t.outside).container other).documents)
                ∧ ((Call.read (some entity) (some key) v).run b t').1 = .ok .noDocument)
            ∧ (v.isNull = true →
              ∃ r t', (Call.delete (some entity) (some key) v).run b t = (r, t')
                ∧ (⟨v, key⟩, d) ∈ ((memory t'.outside).container container).documents
                ∧ (config'.partitionField ≠ Document.idField →
                  r = .error (.partitionRequired entity config'.partitionField)
                    ∧ memory t'.outside = memory t.outside)) := by
  obtain ⟨body, key, hentity, hid, hanswer, hbody, hown, hothers, hs'⟩ := h.run_create hb hcreated
  refine ⟨body, key, hanswer, hbody, hown, hothers, hs', ?_⟩
  intro t config' ht before d after hsplit
  exact ⟨ht.run_delete hb hsplit hentity hid hdurable, ht.run_delete_null hb hsplit hentity hid⟩

namespace Deletion

/-- The orders of tenants. -/
def registry : Registry := .ofList [⟨"order", "orders", "tenantId"⟩] false

def opened : Session LocalState String := ⟨{ registry := registry }, 50, .unused⟩

/-- An order is created, which holds at the partition field what is given. -/
def created (document : Fields) : Except Failure (Answer String) × Session LocalState String :=
  (Call.create (some "order") (some "1") (.object document)).run LocalState.backend opened

/-- The order is deleted under a partition value. -/
def deleted (document : Fields) (v : Value) :
    Except Failure (Answer String) × Session LocalState String :=
  (Call.delete (some "order") (some "1") v).run LocalState.backend (created document).2

def documents (s : Session LocalState String) : Entries DocumentKey Fields :=
  (s.outside.memory.container "orders").documents

/-- The wording of a failure, if there is one. -/
def wordingOf : Except Failure (Answer String) → Option String
  | .error e => some e.message
  | .ok _ => none

theorem opened_houses : opened.Houses LocalState.backend LocalState.memory "order"
    ⟨"order", "orders", "tenantId"⟩ "orders" where
  rest := by
    refine (Session.InOrder.of_opened ⟨by decide, rfl, ?_⟩ rfl rfl).atRest
    rintro n ⟨⟩
  visited := .fresh rfl
  known := rfl
  container := rfl

end Deletion

open Deletion in
/-- An order of a tenant is created and deleted again, and then it is not to be read. -/
theorem created_deletable_order :
    ∃ s', deleted [("tenantId", .str "a")] (.str "a") = (.ok .deleted, s') ∧ documents s' = []
      ∧ ((Call.read (some "order") (some "1") (.str "a")).run LocalState.backend s').1
        = .ok .noDocument := by
  obtain ⟨a, ha⟩ : ∃ a, (created [("tenantId", .str "a")]).1 = .ok a := ⟨_, rfl⟩
  obtain ⟨body, key, -, -, hdocuments, -, hhouses, hdeletable⟩ :=
    created_deletable LocalState.backend LocalState.memory LocalState.backend_inMemory
      LocalState.backend_durable opened "order" ⟨"order", "orders", "tenantId"⟩ "orders"
      opened_houses (some "1") (.object [("tenantId", .str "a")]) a
      (created [("tenantId", .str "a")]).2 (Prod.ext ha rfl)
  have hkeys : (documents (created [("tenantId", .str "a")]).2).map Prod.fst
      = [⟨.str "a", "1"⟩] := rfl
  obtain ⟨hv, rfl⟩ := DocumentKey.mk.inj (List.head_eq_of_cons_eq
    ((congrArg (List.map Prod.fst) hdocuments).symm.trans hkeys))
  obtain ⟨s', hrun, hrest, -, hread⟩ := (hdeletable _ _ hhouses [] body [] hdocuments).1
    (by rw [hv]; rfl) (by rw [hv, DocumentMap.equal_str]; rfl)
  rw [hv] at hrun hread
  exact ⟨s', hrun, hrest, hread⟩

open Deletion in
/-- **Not everything that is created can be deleted**: an order that has no tenant is created, and is
filed under null, but deleting it under null is refused.  Nor is an order found again whose tenant is
a number that does not equal itself. -/
theorem created_undeletable :
    let tenantless := created []
    let numbered := created [("tenantId", .float .nan)]
    tenantless.1.toOption.isSome = true
      ∧ (documents tenantless.2).map Prod.fst = [⟨.null, "1"⟩]
      ∧ (deleted [] .null).1 = .error (.partitionRequired "order" "tenantId")
      ∧ documents (deleted [] .null).2 = documents tenantless.2
      ∧ numbered.1.toOption.isSome = true
      ∧ (documents numbered.2).map Prod.fst = [⟨.float .nan, "1"⟩]
      ∧ wordingOf (deleted [("tenantId", .float .nan)] (.float .nan)).1
        = some "Document '1' not found in container 'orders'" := by
  refine ⟨rfl, rfl, rfl, rfl, rfl, rfl, ?_⟩
  decide +kernel

end EntityStore
