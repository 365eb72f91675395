import EntityStore.Proofs.Console.DocumentTable
import EntityStore.Proofs.Console.Usable

/-!
# What commands print

A command prints the statement that it shows, or what it makes of the answer to its call.  What
stands in that are some values (`Command.Prints`), and it is printed in full exactly when all of
them can be written (`Command.report_printout`).  When one cannot, printing stops; only a document
and a statement, which are not printed in one go as text, can have been printed in part by then.
-/

namespace EntityStore.Console

/-! ### Printouts -/

namespace Printout

variable {p : Printout} {shown : Value → Prop}

/-- **A printout of some values**, which is whole exactly when all of them can be written. -/
def Of (shown : Value → Prop) (p : Printout) : Prop :=
  p.isWhole = true ↔ ∀ v, shown v → v.isWritable = true

/-- A printout of which there is nothing unless it is whole. -/
def AtOnce (p : Printout) : Prop := p.isWhole = false → p.text = ""

theorem isWhole_inOneGo (writable : Bool) (text : String) :
    (inOneGo writable text).isWhole = writable := by
  cases writable <;> rfl

theorem atOnce_inOneGo (writable : Bool) (text : String) : (inOneGo writable text).AtOnce := by
  intro h
  rw [isWhole_inOneGo] at h
  subst h
  rfl

theorem isWhole_andThen (p q : Printout) : (p.andThen q).isWhole = (p.isWhole && q.isWhole) := by
  cases h : p.isWhole <;> simp [andThen, h]

/-- A printout that stops has come to a value that cannot be written, -/
theorem Of.broken (h : p.Of shown) (hbroken : p.isWhole = false) :
    ∃ v, shown v ∧ v.isWritable = false := by
  by_contra hnone
  have hwhole : p.isWhole = true := h.2 fun v hv => by
    by_contra hlong
    exact hnone ⟨v, hv, Bool.eq_false_iff.2 hlong⟩
  rw [hbroken] at hwhole
  contradiction

/-- and one that comes to such a value stops. -/
theorem Of.not_whole (h : p.Of shown) {v : Value} (hv : shown v) (hlong : v.isWritable = false) :
    p.isWhole = false := by
  by_contra hwhole
  rw [h.1 (Bool.not_eq_false _ ▸ hwhole) v hv] at hlong
  contradiction

end Printout

theorem isWhole_jsonText (v : Value) : (jsonText v).isWhole = v.isWritable :=
  Printout.isWhole_inOneGo ..

theorem atOnce_jsonText (v : Value) : (jsonText v).AtOnce := Printout.atOnce_inOneGo _ _

theorem isWhole_objectText (document : Fields) :
    (objectText document).isWhole = Value.areWritableFields document := by
  induction document with
  | nil => rfl
  | cons p r ih =>
    rw [objectText, Printout.isWhole_andThen, Printout.isWhole_inOneGo, ih,
      Value.areWritableFields]

theorem isWhole_documentsText (documents : List Fields) :
    (documentsText documents).Of (Shows documents) := by
  show (documentsText documents).isWhole = true ↔ _
  rw [documentsText, Printout.isWhole_inOneGo]
  exact areWritableRows_iff documents

/-! ### Values that are written whole -/

theorem areWritable_iff {items : List Value} :
    Value.areWritable items = true ↔ ∀ v ∈ items, v.isWritable = true := by
  induction items with
  | nil => simp [Value.areWritable]
  | cons v r ih => rw [Value.areWritable, Bool.and_eq_true, ih, List.forall_mem_cons]

/-- Values that are taken from the members of a list. -/
theorem forall_taken {α : Type} {l : List α} {f : α → Value} :
    (∀ v, (∃ a ∈ l, f a = v) → v.isWritable = true) ↔ ∀ a ∈ l, (f a).isWritable = true := by
  constructor
  · exact fun h a ha => h _ ⟨a, ha, rfl⟩
  · rintro h v ⟨a, ha, rfl⟩
    exact h a ha

theorem isWritable_ofText? (text : Option String) : (Value.ofText? text).isWritable = true := by
  cases text <;> rfl

theorem isWritable_page (r : QueryResult) :
    r.toValue.isWritable = true ↔ ∀ d ∈ r.items, (Value.object d).isWritable = true := by
  have hitems : Value.areWritable (r.items.map .object) = true
      ↔ ∀ d ∈ r.items, (Value.object d).isWritable = true := by
    rw [areWritable_iff, List.forall_mem_map]
  simp only [QueryResult.toValue, Value.isWritable, Value.areWritableFields, isWritable_ofText?,
    Bool.and_true]
  exact hitems

theorem isWritable_parameter (p : Parameter) : p.toValue.isWritable = p.value.isWritable := by
  simp [Parameter.toValue, Value.isWritable, Value.areWritableFields, Scalar.isWritable]

/-! ### Statements -/

/-- **A statement is printed in full** exactly when the values of its parameters can be written. -/
theorem statement_printout (json : Bool) (s : Statement) :
    (if json then statementJson s else statementText s).Of
      fun v => ∃ p ∈ s.parameters, p.value = v := by
  rw [Printout.Of, forall_taken]
  cases json with
  | true =>
    have hlist : Value.areWritable (s.parameters.map (·.toValue)) = true
        ↔ ∀ p ∈ s.parameters, p.value.isWritable = true := by
      rw [areWritable_iff, List.forall_mem_map]
      simp only [isWritable_parameter]
    rw [if_pos rfl, statementJson, isWhole_jsonText]
    simpa [Value.isWritable, Value.areWritableFields, Scalar.isWritable] using hlist
  | false =>
    rw [if_neg Bool.false_ne_true, statementText, Printout.isWhole_andThen,
      Printout.isWhole_inOneGo, Bool.true_and]
    cases hps : s.parameters with
    | nil => simp [parametersText, Printout.inOneGo]
    | cons p r =>
      rw [parametersText, Printout.isWhole_andThen, Printout.isWhole_inOneGo,
        Printout.isWhole_inOneGo, Bool.true_and, List.all_eq_true]
      exact List.cons_ne_nil p r

/-! ### Answers -/

/-- **The values that a command prints of an answer.** -/
def Command.Prints {κ : Type} (json : Bool) (command : Command) (a : Answer κ) (v : Value) : Prop :=
  match command, a with
  | .readMap _ ids _, .documents found =>
    if json then ∃ p ∈ found, p.2 = v
    else Shows ((ids.filterMap fun id => found.get? id).filterMap Value.fields?) v
  | _, .document w => v = w
  | _, .page r => if json then ∃ d ∈ r.items, .object d = v else Shows r.items v
  | _, .count n => v = .int n
  | _, _ => False

/-- A command whose text is not printed in one go: a line for each field of a document, or a statement
and the table of its parameters. -/
def Command.InParts : Command → Prop
  | .compile .. | .get .. | .create .. | .replace .. => True
  | _ => False

/-- Printing a document. -/
theorem documentOutcome_printout (json : Bool) {v : Value} (hv : v.isObject = true) :
    ∃ p : Printout, documentOutcome json v = .ofPrintout p "" ∧ p.Of (· = v)
      ∧ (json = true → p.AtOnce) := by
  cases v with
  | object fields =>
    cases json with
    | true =>
      refine ⟨jsonText (.object fields), rfl, ?_, fun _ => atOnce_jsonText _⟩
      rw [Printout.Of, isWhole_jsonText, forall_eq]
    | false =>
      refine ⟨objectText fields, rfl, ?_, fun h => by cases h⟩
      rw [Printout.Of, isWhole_objectText, forall_eq]
      rfl
  | scalar | list | tuple | filter => cases hv

theorem documentsOutcome_printout {κ : Type} (json : Bool) (entity : String) (ids : List String)
    (partition : Option String) (found : Entries String Value) :
    ∃ (p : Printout) (notice : String), documentsOutcome json ids found = .ofPrintout p notice
      ∧ p.Of ((Command.readMap entity ids partition).Prints json (.documents found : Answer κ))
      ∧ p.AtOnce := by
  cases json with
  | true =>
    refine ⟨jsonText (.object found), "", rfl, ?_, atOnce_jsonText _⟩
    have hprints : (∀ v, (Command.readMap entity ids partition).Prints true
        (.documents found : Answer κ) v → v.isWritable = true)
        ↔ ∀ p ∈ found, p.2.isWritable = true := forall_taken
    rw [Printout.Of, isWhole_jsonText, hprints]
    exact Value.areWritableFields_iff
  | false => exact ⟨_, _, rfl, isWhole_documentsText _, Printout.atOnce_inOneGo _ _⟩

theorem pageOutcome_printout {κ : Type} (json : Bool) (command : Command) (r : QueryResult) :
    ∃ (p : Printout) (notice : String), pageOutcome json r = .ofPrintout p notice
      ∧ p.Of (command.Prints json (.page r : Answer κ)) ∧ p.AtOnce := by
  cases json with
  | true =>
    refine ⟨jsonText r.toValue, "", rfl, ?_, atOnce_jsonText _⟩
    have hprints : (∀ v, command.Prints true (.page r : Answer κ) v → v.isWritable = true)
        ↔ ∀ d ∈ r.items, (Value.object d).isWritable = true := by
      cases command <;> exact forall_taken
    rw [Printout.Of, isWhole_jsonText, hprints]
    exact isWritable_page r
  | false =>
    refine ⟨documentsText r.items, _, rfl, ?_, Printout.atOnce_inOneGo _ _⟩
    have hshows := isWhole_documentsText r.items
    cases command <;> exact hshows

theorem countOutcome_printout {κ : Type} (json : Bool) (command : Command) (n : Int) :
    ∃ p : Printout, countOutcome json n = .ofPrintout p ""
      ∧ p.Of (command.Prints json (.count n : Answer κ)) ∧ p.AtOnce := by
  have hprints : (∀ v, command.Prints json (.count n : Answer κ) v → v.isWritable = true)
      ↔ Numeral.isWritable n = true := by
    cases command <;> simp [Command.Prints, Value.isWritable, Scalar.isWritable]
  cases json with
  | true =>
    refine ⟨jsonText (.object [("count", .int n)]), by rw [countOutcome, if_pos rfl], ?_,
      atOnce_jsonText _⟩
    rw [Printout.Of, hprints, isWhole_jsonText]
    simp [Value.isWritable, Value.areWritableFields, Scalar.isWritable]
  | false =>
    refine ⟨.inOneGo (Numeral.isWritable n) (unlines [toString n]),
      by rw [countOutcome, if_neg Bool.false_ne_true], ?_, Printout.atOnce_inOneGo _ _⟩
    rw [Printout.Of, hprints, Printout.isWhole_inOneGo]

/-- **What a command makes of an answer**: it says that a document is not there, or prints the values
in the answer. -/
theorem Command.report_printout {κ : Type} {command : Command} {kind : CallKind}
    (hkind : command.kind? = some kind) {a : Answer κ} (ha : kind.Answers a) (json : Bool) :
    (kind = .read ∧ a = .noDocument)
      ∨ ∃ (p : Printout) (notice : String), command.report json a = .ofPrintout p notice
        ∧ p.Of (command.Prints json a) ∧ (json = true ∨ ¬ command.InParts → p.AtOnce) := by
  -- For each command the answers to a call of its kind are left.
  cases command with
  | compile => cases hkind
  | get entity id partition =>
    cases hkind
    cases ha with
    | read hv =>
      obtain ⟨p, hp, hof, honce⟩ := documentOutcome_printout json hv
      exact .inr ⟨p, "", hp, hof, fun h => honce (h.resolve_right (· trivial))⟩
    | nothingRead => exact .inl ⟨rfl, rfl⟩
  | create entity id document =>
    cases hkind
    cases ha with
    | create hv =>
      obtain ⟨p, hp, hof, honce⟩ := documentOutcome_printout json hv
      exact .inr ⟨p, "", hp, hof, fun h => honce (h.resolve_right (· trivial))⟩
  | replace entity id document =>
    cases hkind
    cases ha with
    | replace hv =>
      obtain ⟨p, hp, hof, honce⟩ := documentOutcome_printout json hv
      exact .inr ⟨p, "", hp, hof, fun h => honce (h.resolve_right (· trivial))⟩
  | delete entity id partition =>
    cases hkind
    cases ha
    refine .inr ⟨.inOneGo true (unlines ["Deleted " ++ entity ++ " '" ++ id ++ "'"]), "", rfl, ?_,
      fun _ => Printout.atOnce_inOneGo _ _⟩
    -- The line names what has been deleted, and shows no value.
    simp [Printout.Of, Printout.inOneGo, Command.Prints]
  | readMap entity ids partition =>
    cases hkind
    cases ha with
    | readMap found =>
      obtain ⟨p, notice, hp, hof, honce⟩ :=
        documentsOutcome_printout (κ := κ) json entity ids partition found
      exact .inr ⟨p, notice, hp, hof, fun _ => honce⟩
  | query entity filter sort limit continuation =>
    cases hkind
    cases ha with
    | query r =>
      obtain ⟨p, notice, hp, hof, honce⟩ := pageOutcome_printout (κ := κ) json
        (.query entity filter sort limit continuation) r
      exact .inr ⟨p, notice, hp, hof, fun _ => honce⟩
  | count entity filter =>
    cases hkind
    cases ha with
    | count n =>
      obtain ⟨p, hp, hof, honce⟩ := countOutcome_printout (κ := κ) json (.count entity filter) n
      exact .inr ⟨p, "", hp, hof, fun _ => honce⟩

end EntityStore.Console
