import EntityStore.Proofs.Document
import EntityStore.Proofs.Store.Run
import EntityStore.Store.Memory

/-!
# Drafts of documents

A call that writes a document reads the clock while it is being prepared, stamps the document with
the time, and leaves it in the work that is to be done later.  `Call.Drafts` ties that work to the
call and to what the clock has shown (`Call.reading?`), and `Call.Stores` says what the document
that is written in the end holds.

`Call.prepare_drafts` says that every call that is ready has drafted its document in this way, or
writes none.
-/

namespace EntityStore

/-! ### Drafts -/

/-- The document that is to be written, if one is. -/
def Work.body? : Work → Option Fields
  | .create body | .replace _ body => some body
  | _ => none

namespace Call

/-- The entity that a call is about, if it names one. -/
def entity? : Call → Option String
  | .resolve entity => some entity
  | .create entity _ _ | .read entity _ _ | .replace entity _ _ | .delete entity _ _
  | .readMap entity _ _ | .query entity _ | .count entity _ => entity

/-- The entity for which a call writes a document, if it writes one. -/
def writesFor? : Call → Option String
  | .create entity _ _ | .replace entity _ _ => entity
  | _ => none

/-- A call that writes no document. -/
def Reads : Call → Prop
  | .create .. | .replace .. => False
  | _ => True

/-- **What a call to write has been prepared to**, when the clock has shown a time. -/
inductive Drafts (now : DateTime) : Call → String → Work → Prop
  | create {entity id : String} {given : Option String} {document body : Fields}
    (hgiven : given = some id ∨ given = none)
    (hstamp : Document.stampNew document entity (.str id) now = some body) :
    Drafts now (.create (some entity) given (.object document)) entity (.create body)
  | replace {entity id : String} {document body : Fields}
    (hstamp : Document.stampReplacing document entity (.str id) now = some body) :
    Drafts now (.replace (some entity) (some id) (.object document)) entity (.replace id body)

/-- **The document that a call stores**, when the clock has shown a time. -/
inductive Stores (now : DateTime) : Call → Fields → Prop
  /-- A new document has been created at that time. -/
  | create {entity id time : String} {given : Option String} {document body : Fields}
    (hgiven : given = some id ∨ given = none) (htime : now.timestamp? = some time)
    (h : Document.StoredAs document entity id time (some (.str time)) body) :
    Stores now (.create (some entity) given (.object document)) body
  /-- A replacing document has the time of creation that the caller sent. -/
  | replace {entity id time : String} {document body : Fields}
    (htime : now.timestamp? = some time)
    (h : Document.StoredAs document entity id time (document.get? Document.createdField) body) :
    Stores now (.replace (some entity) (some id) (.object document)) body

theorem Drafts.stores {now : DateTime} {call : Call} {entity : String} {work : Work}
    (h : call.Drafts now entity work) {body : Fields} (hbody : work.body? = some body) :
    call.Stores now body := by
  cases h with
  | create hgiven hstamp =>
    cases hbody
    obtain ⟨time, htime, hstored⟩ := Document.stampNew_storedAs hstamp
    exact .create hgiven htime hstored
  | replace hstamp =>
    cases hbody
    obtain ⟨time, htime, hstored⟩ := Document.stampReplacing_storedAs hstamp
    exact .replace htime hstored

/-- A replacing document is written under the id that it holds. -/
theorem Drafts.replace_id {now : DateTime} {call : Call} {entity : String} {id : String}
    {body : Fields} (h : call.Drafts now entity (.replace id body)) :
    MemoryContainer.idOf body = .str id := by
  cases h with
  | replace hstamp =>
    rw [MemoryContainer.idOf, Document.stampReplacing_id hstamp, Option.getD_some]

/-- A document that is stored holds a text as its id. -/
theorem Stores.id {now : DateTime} {call : Call} {body : Fields} (h : call.Stores now body) :
    body.get? Document.idField = some (.str (MemoryContainer.idOf body).text) := by
  have hid {id : String} (h : body.get? Document.idField = some (.str id)) :
      body.get? Document.idField = some (.str (MemoryContainer.idOf body).text) := by
    rw [MemoryContainer.idOf, h, Option.getD_some]
    rfl
  cases h with
  | create _ _ hstored => exact hid hstored.id
  | replace _ hstored => exact hid hstored.id

end Call

/-! ### Checks that have been passed -/

theorem eq_of_require {a : Argument} {text : Option String} {s : String}
    (h : require a text = .ok s) : text = some s ∧ Text.isBlankText s = false := by
  cases text with
  | none => cases h
  | some t =>
    rw [require] at h
    split at h
    · cases h
    · next hblank =>
      cases h
      exact ⟨rfl, Bool.not_eq_true _ ▸ hblank⟩

theorem require_ok {a : Argument} {text : String} (h : Text.isBlankText text = false) :
    require a (some text) = .ok text := by
  rw [require, h]
  rfl

theorem eq_of_requireDocument {v : Value} {document : Fields}
    (h : requireDocument v = .ok document) : v = .object document := by
  unfold requireDocument at h
  split at h <;> cases h
  rfl

theorem eq_of_inCalendar {α : Type} {o : Option α} {x : α} (h : inCalendar o = .ok x) :
    o = some x := by
  cases o <;> cases h
  rfl

section

variable {σ κ : Type} {b : Backend σ κ}

/-- How a reading of the clock, or a new id, has come to its result. -/
theorem Session.of_consult {α : Type} {f : σ → Except Failure α × σ} {s s' : Session σ κ}
    {r : Except Failure α} (h : Session.consult f s = (r, s')) :
    (f s.outside).1 = r ∧ s' = { s with outside := (f s.outside).2 } := by
  cases h
  exact ⟨rfl, rfl⟩

/-! ### Calls that are ready to write -/

/-- A call to create that has been prepared: the clock was read last, once a new id had been taken
if none was given, and neither the entity nor the id is blank. -/
theorem Call.prepare_create {entity id : Option String} {document : Value}
    {r : Prepared κ} {s s' : Session σ κ}
    (h : (Call.create entity id document).prepare b s = (.ok r, s')) :
    ∃ name key fields now body o, entity = some name ∧ document = .object fields
      ∧ (id = some key ∧ o = s.outside ∨ id = none ∧ o = (b.newId s.outside).2)
      ∧ (b.now o).1 = .ok now ∧ Document.stampNew fields name (.str key) now = some body
      ∧ r = .ready name (.create body) ∧ s' = { s with outside := (b.now o).2 }
      ∧ Text.isBlankText name = false ∧ Text.isBlankText key = false := by
  obtain ⟨name, hentity, h⟩ := Run.ok_of_lift_bind h
  obtain ⟨fields, hdocument, h⟩ := Run.ok_of_lift_bind h
  cases id with
  -- The id is given, and nothing is taken from outside for it.
  | some id =>
    obtain ⟨given, s₁, hgiven, h⟩ := Run.ok_of_bind h
    obtain ⟨key, hkey, h⟩ := Run.ok_of_lift_bind h
    obtain ⟨now, s₂, hnow, h⟩ := Run.ok_of_bind h
    obtain ⟨body, hbody, h⟩ := Run.ok_of_lift_bind h
    cases h
    cases hgiven
    obtain ⟨hreading, hs⟩ := Session.of_consult hnow
    exact ⟨name, key, fields, now, body, s.outside, (eq_of_require hentity).1,
      eq_of_requireDocument hdocument, .inl ⟨(eq_of_require hkey).1, rfl⟩, hreading,
      eq_of_inCalendar hbody, rfl, hs, (eq_of_require hentity).2, (eq_of_require hkey).2⟩
  -- A new id is taken before the clock is read.
  | none =>
    obtain ⟨given, s₁, hgiven, h⟩ := Run.ok_of_bind h
    obtain ⟨key, hkey, h⟩ := Run.ok_of_lift_bind h
    obtain ⟨now, s₂, hnow, h⟩ := Run.ok_of_bind h
    obtain ⟨body, hbody, h⟩ := Run.ok_of_lift_bind h
    cases h
    obtain ⟨-, rfl⟩ := Session.of_consult hgiven
    obtain ⟨hreading, hs⟩ := Session.of_consult hnow
    exact ⟨name, key, fields, now, body, (b.newId s.outside).2, (eq_of_require hentity).1,
      eq_of_requireDocument hdocument, .inr ⟨rfl, rfl⟩, hreading, eq_of_inCalendar hbody, rfl, hs,
      (eq_of_require hentity).2, (eq_of_require hkey).2⟩

/-- A call to replace that has been prepared: the clock was read last. -/
theorem Call.prepare_replace {entity id : Option String} {document : Value}
    {r : Prepared κ} {s s' : Session σ κ}
    (h : (Call.replace entity id document).prepare b s = (.ok r, s')) :
    ∃ name key fields now body, entity = some name ∧ id = some key ∧ document = .object fields
      ∧ (b.now s.outside).1 = .ok now
      ∧ Document.stampReplacing fields name (.str key) now = some body
      ∧ r = .ready name (.replace key body) ∧ s' = { s with outside := (b.now s.outside).2 } := by
  obtain ⟨name, hentity, h⟩ := Run.ok_of_lift_bind h
  obtain ⟨key, hkey, h⟩ := Run.ok_of_lift_bind h
  obtain ⟨fields, hdocument, h⟩ := Run.ok_of_lift_bind h
  obtain ⟨now, s₁, hnow, h⟩ := Run.ok_of_bind h
  obtain ⟨body, hbody, h⟩ := Run.ok_of_lift_bind h
  cases h
  obtain ⟨hreading, hs⟩ := Session.of_consult hnow
  exact ⟨name, key, fields, now, body, (eq_of_require hentity).1, (eq_of_require hkey).1,
    eq_of_requireDocument hdocument, hreading, eq_of_inCalendar hbody, rfl, hs⟩

/-- Every other call that is ready has no document to write. -/
theorem Call.prepare_reads {call : Call} (hcall : call.Reads) {entity : String} {work : Work}
    {s s' : Session σ κ} (h : call.prepare b s = (.ok (.ready entity work), s')) :
    work.body? = none ∧ call.entity? = some entity := by
  cases call with
  | resolve entity =>
    cases h
    exact ⟨rfl, rfl⟩
  | read entity id partition =>
    obtain ⟨name, hname, h⟩ := Run.ok_of_lift_bind h
    obtain ⟨id, -, h⟩ := Run.ok_of_lift_bind h
    cases h
    exact ⟨rfl, (eq_of_require hname).1⟩
  | delete entity id partition =>
    obtain ⟨name, hname, h⟩ := Run.ok_of_lift_bind h
    obtain ⟨id, -, h⟩ := Run.ok_of_lift_bind h
    obtain ⟨config, s₁, -, h⟩ := Run.ok_of_bind h
    obtain ⟨partition, -, h⟩ := Run.ok_of_lift_bind h
    cases h
    exact ⟨rfl, (eq_of_require hname).1⟩
  | readMap entity partition ids =>
    obtain ⟨name, hname, h⟩ := Run.ok_of_lift_bind h
    obtain ⟨ids, -, h⟩ := Run.ok_of_lift_bind h
    split at h
    · cases h
    obtain ⟨config, s₁, -, h⟩ := Run.ok_of_bind h
    cases h
    exact ⟨rfl, (eq_of_require hname).1⟩
  | query entity input | count entity input =>
    obtain ⟨name, hname, h⟩ := Run.ok_of_lift_bind h
    obtain ⟨q, -, h⟩ := Run.ok_of_lift_bind h
    obtain ⟨statement, -, h⟩ := Run.ok_of_lift_bind h
    cases h
    exact ⟨rfl, (eq_of_require hname).1⟩
  | create | replace => exact hcall.elim

/-- **A call that is ready asks for the container of the entity that it names.** -/
theorem Call.prepare_entity {call : Call} {entity : String} {work : Work} {s s' : Session σ κ}
    (h : call.prepare b s = (.ok (.ready entity work), s')) : call.entity? = some entity := by
  cases call with
  | create =>
    obtain ⟨name, key, fields, now, body, o, rfl, -, -, -, -, hready, -⟩ := prepare_create h
    cases hready
    rfl
  | replace =>
    obtain ⟨name, key, fields, now, body, rfl, -, -, -, -, hready, -⟩ := prepare_replace h
    cases hready
    rfl
  | resolve | read | delete | readMap | query | count =>
    refine (prepare_reads ?_ h).2
    trivial

/-! ### Readings of the clock -/

/-- **What the clock shows to a call** that is being prepared: the calls that write read it, once a
new id has been taken if none is given. -/
def Call.reading? (b : Backend σ κ) (call : Call) (s : Session σ κ) : Option DateTime :=
  (call.prepare b s).1.toOption.bind fun _ =>
    match call with
    | .create _ (some _) _ | .replace .. => (b.now s.outside).1.toOption
    | .create _ none _ => (b.now (b.newId s.outside).2).1.toOption
    | _ => none

/-- **A call that is ready has drafted its document**, if it is to write one, with the time that the
clock has shown last. -/
theorem Call.prepare_drafts {call : Call} {r : Prepared κ} {s s' : Session σ κ}
    (h : call.prepare b s = (.ok r, s')) :
    (call.writesFor? = none ∧ call.reading? b s = none
        ∧ ∀ entity work, r = .ready entity work → work.body? = none)
      ∨ ∃ entity work now o, call.writesFor? = some entity ∧ work.body?.isSome = true
        ∧ r = .ready entity work ∧ call.reading? b s = some now ∧ call.Drafts now entity work
        ∧ (o = s.outside ∨ o = (b.newId s.outside).2) ∧ (b.now o).1 = .ok now
        ∧ s'.outside = (b.now o).2 := by
  cases call with
  | create entity id document =>
    right
    obtain ⟨name, key, fields, now, body, o, rfl, rfl, hid, hnow, hbody, rfl, rfl, -⟩ :=
      prepare_create h
    refine ⟨name, .create body, now, o, rfl, rfl, rfl, ?_, ?_, hid.imp And.right And.right, hnow,
      rfl⟩
    · -- The clock is read in the state that taking the id has left.
      rcases hid with ⟨rfl, rfl⟩ | ⟨rfl, rfl⟩
      · show ((prepare b _ s).1.toOption.bind fun _ => (b.now s.outside).1.toOption) = some now
        rw [h, hnow]
        rfl
      · show ((prepare b _ s).1.toOption.bind fun _ =>
          (b.now (b.newId s.outside).2).1.toOption) = some now
        rw [h, hnow]
        rfl
    · exact .create (hid.imp And.left And.left) hbody
  | replace entity id document =>
    right
    obtain ⟨name, key, fields, now, body, rfl, rfl, rfl, hnow, hbody, rfl, rfl⟩ :=
      prepare_replace h
    refine ⟨name, .replace key body, now, s.outside, rfl, rfl, rfl, ?_, .replace hbody, .inl rfl,
      hnow, rfl⟩
    show ((prepare b _ s).1.toOption.bind fun _ => (b.now s.outside).1.toOption) = some now
    rw [h, hnow]
    rfl
  | resolve | read | delete | readMap | query | count =>
    left
    refine ⟨rfl, Option.bind_eq_none_iff.2 fun _ _ => rfl, ?_⟩
    rintro entity work rfl
    refine (prepare_reads ?_ h).1
    trivial

/-- A call that has read the clock has been prepared. -/
theorem Call.prepared_of_reading {call : Call} {s : Session σ κ} {now : DateTime}
    (h : call.reading? b s = some now) : ∃ r s', call.prepare b s = (.ok r, s') := by
  obtain ⟨r, hr, -⟩ := Option.bind_eq_some_iff.1 h
  rcases hprepare : call.prepare b s with ⟨e | r, s'⟩
  · rw [hprepare] at hr
    cases hr
  · exact ⟨r, s', rfl⟩

end

end EntityStore
