import EntityStore.Document

/-!
# What stamping leaves of a document

`Document.StoredAs` says what a stamped document is made of: the four system fields, and under every
other name exactly what the caller sent (`Document.content`).  Stamping a new document and stamping
a replacing one differ in the time of creation alone.
-/

namespace EntityStore

namespace Document

/-- The names of the fields that are stamped. -/
def systemFields : List String := [idField, entityField, createdField, updatedField]

/-- **What a document holds under all other names**, in order. -/
def content (document : Fields) : Fields :=
  document.filter fun p => !systemFields.contains p.1

/-- Writing to a system field leaves the content alone. -/
theorem content_put {name : String} (hname : name ∈ systemFields) (document : Fields) (v : Value) :
    content (document.put name v) = content document := by
  have hsystem : (!systemFields.contains name) = false := by
    rw [List.contains_iff_mem.2 hname, Bool.not_true]
  induction document with
  | nil =>
    show List.filter _ [(name, v)] = []
    rw [List.filter_cons_of_neg (by rw [hsystem]; exact Bool.false_ne_true), List.filter_nil]
  | cons p r ih =>
    rw [Entries.put]
    by_cases hp : (p.1 == name) = true
    · rw [if_pos hp]
      obtain rfl := eq_of_beq hp
      unfold content
      rw [List.filter_cons_of_neg (by rw [hsystem]; exact Bool.false_ne_true),
        List.filter_cons_of_neg (by rw [hsystem]; exact Bool.false_ne_true)]
    · rw [if_neg hp]
      unfold content at ih ⊢
      rw [List.filter_cons, List.filter_cons, ih]

/-- **A document as it is stored** for a caller who sent another: under an id, for an entity, with
the time of its last change and, if it is known, of its creation. -/
structure StoredAs (sent : Fields) (entity id time : String) (created : Option Value)
    (stored : Fields) : Prop where
  id : stored.get? idField = some (.str id)
  entity : stored.get? entityField = some (.str entity)
  updated : stored.get? updatedField = some (.str time)
  created : stored.get? createdField = created
  content : Document.content stored = Document.content sent

/-- **A new document** was created when it was last changed. -/
theorem stampNew_storedAs {document body : Fields} {entity id : String} {now : DateTime}
    (h : stampNew document entity (.str id) now = some body) :
    ∃ time, now.timestamp? = some time
      ∧ StoredAs document entity id time (some (.str time)) body := by
  rw [stampNew, Option.map_eq_some_iff] at h
  obtain ⟨time, htime, rfl⟩ := h
  refine ⟨time, htime, ?_⟩
  constructor
  case id =>
    rw [Entries.get?_put_of_ne _ _ (by decide), Entries.get?_put_of_ne _ _ (by decide),
      Entries.get?_put_of_ne _ _ (by decide), Entries.get?_put_self]
  case entity => exact Entries.get?_put_self ..
  case updated => rw [Entries.get?_put_of_ne _ _ (by decide), Entries.get?_put_self]
  case created =>
    rw [Entries.get?_put_of_ne _ _ (by decide), Entries.get?_put_of_ne _ _ (by decide),
      Entries.get?_put_self]
  case content =>
    rw [content_put (by decide), content_put (by decide), content_put (by decide),
      content_put (by decide)]

/-- **A replacing document** has the time of creation that the caller sent, if any. -/
theorem stampReplacing_storedAs {document body : Fields} {entity id : String} {now : DateTime}
    (h : stampReplacing document entity (.str id) now = some body) :
    ∃ time, now.timestamp? = some time
      ∧ StoredAs document entity id time (document.get? createdField) body := by
  rw [stampReplacing, Option.map_eq_some_iff] at h
  obtain ⟨time, htime, rfl⟩ := h
  refine ⟨time, htime, ?_⟩
  constructor
  case id =>
    rw [Entries.get?_put_of_ne _ _ (by decide), Entries.get?_put_of_ne _ _ (by decide),
      Entries.get?_put_self]
  case entity => exact Entries.get?_put_self ..
  case updated => rw [Entries.get?_put_of_ne _ _ (by decide), Entries.get?_put_self]
  case created =>
    rw [Entries.get?_put_of_ne _ _ (by decide), Entries.get?_put_of_ne _ _ (by decide),
      Entries.get?_put_of_ne _ _ (by decide)]
  case content =>
    rw [content_put (by decide), content_put (by decide), content_put (by decide)]

theorem stampNew_id {document body : Fields} {entity id : String} {now : DateTime}
    (h : stampNew document entity (.str id) now = some body) :
    body.get? idField = some (.str id) := by
  obtain ⟨time, -, hstored⟩ := stampNew_storedAs h
  exact hstored.id

theorem stampReplacing_id {document body : Fields} {entity id : String} {now : DateTime}
    (h : stampReplacing document entity (.str id) now = some body) :
    body.get? idField = some (.str id) := by
  obtain ⟨time, -, hstored⟩ := stampReplacing_storedAs h
  exact hstored.id

end Document

end EntityStore
