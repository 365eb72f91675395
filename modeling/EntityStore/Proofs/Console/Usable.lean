import EntityStore.Console.Host
import EntityStore.Proofs.Sql.Statement
import EntityStore.Proofs.Store.Dependable

/-!
# What the command line gives to a call

A filter that is read from a command line is an object or a list, and so it can be put into a
statement; every other one is an error of usage.  Of the options of a query only the limit can be at
fault, and only by not being positive: sort keys and tokens are texts already.

So a command cannot be used in a few ways (`Command.Unusable`), and these are told from its arguments
alone (`Command.call_unusable`).  A command that can be used and whose document has been read shows a
statement or makes a call of its kind, whose query can be put into a statement
(`Command.call_usable`).
-/

namespace EntityStore.Console

/-! ### Filters -/

/-- A filter, if there is one, that is an object or a list. -/
def IsFilter (given : Option Value) : Prop :=
  ∀ v, given = some v → (v.isObject || v.isSequence) = true

theorem isFilter_none : IsFilter none := by
  rintro v ⟨⟩

theorem isFilter_object (fields : Fields) : IsFilter (some (.object fields)) := by
  rintro v ⟨⟩
  rfl

theorem isFilter_list (items : List Value) : IsFilter (some (.list items)) := by
  rintro v ⟨⟩
  rfl

theorem isFilter_filterOfText {text : Option String} {given : Option Value}
    (h : filterOfText text = .ok given) : IsFilter given := by
  unfold filterOfText at h
  split at h
  · cases h
    exact isFilter_none
  · split at h
    · cases h
      exact isFilter_none
    · split at h <;> cases h
      · exact isFilter_object _
      · exact isFilter_list _

/-- A condition in wire form is an object. -/
theorem Condition.isFilter_toWire {c : Condition} {v : Value} (h : c.toWire = .ok v) :
    IsFilter (some v) := by
  unfold Condition.toWire at h
  split at h
  · cases h
  · split at h <;> cases h
    exact isFilter_object _

theorem isFilter_filterOfConditions {cs : List Condition} {given : Option Value}
    (h : filterOfConditions cs = .ok given) : IsFilter given := by
  obtain ⟨vs, hvs, rfl⟩ := ok_of_map h
  cases cs with
  | nil =>
    cases hvs
    exact isFilter_none
  | cons c r =>
    obtain ⟨v, hv, hvs⟩ := ok_of_bind hvs
    obtain ⟨ws, -, hvs⟩ := ok_of_bind hvs
    cases hvs
    -- One condition stands for itself; several are joined in an object.
    cases ws with
    | nil => exact Condition.isFilter_toWire hv
    | cons w ws => exact isFilter_object _

theorem isFilter_bothOf {a b : Option Value} (ha : IsFilter a) (hb : IsFilter b) :
    IsFilter (bothOf a b) := by
  cases a with
  | none => exact hb
  | some v =>
    cases b with
    | none => exact ha
    | some w => exact isFilter_object _

/-- **A filter on the command line** is an object or a list. -/
theorem isFilter_filterOf {text : Option String} {arguments : List String} {given : Option Value}
    (h : filterOf text arguments = .ok given) : IsFilter given := by
  obtain ⟨a, ha, h⟩ := ok_of_bind h
  obtain ⟨cs, -, h⟩ := ok_of_bind h
  obtain ⟨b, hb, h⟩ := ok_of_bind h
  cases h
  exact isFilter_bothOf (isFilter_filterOfText ha) (isFilter_filterOfConditions hb)

/-- Such a filter can be put into words. -/
theorem IsFilter.exists_whereText {given : Option Value} (h : IsFilter given) :
    ∃ w, Sql.whereText (given.getD .null) = .ok w := by
  apply Sql.exists_whereText
  intro s hs
  cases given with
  | none =>
    cases hs
    rfl
  | some v =>
    have hv := h v rfl
    rw [show v = .scalar s from hs] at hv
    contradiction

/-! ### Queries -/

theorem exists_selectStatement {q : Query} (h : ∃ w, Sql.whereText q.filter = .ok w) :
    ∃ statement, Sql.selectStatement q = .ok statement := by
  obtain ⟨w, hw⟩ := h
  rw [Sql.selectStatement, hw]
  exact ⟨_, rfl⟩

theorem exists_countStatement {q : Query} (h : ∃ w, Sql.whereText q.filter = .ok w) :
    ∃ statement, Sql.countStatement q = .ok statement := by
  obtain ⟨w, hw⟩ := h
  rw [Sql.countStatement, hw]
  exact ⟨_, rfl⟩

/-- A list of texts gives these texts. -/
theorem readTexts_list (location : String) (texts : List String) :
    Query.readTexts location (.list (texts.map .str)) = .ok texts := by
  let read (p : Value × Nat) : Except Fault String :=
    (Query.readText p.1).mapError fun kind => ⟨location ++ "." ++ toString p.2, kind, p.1⟩
  have hread (n : Nat) : ((texts.map Value.str).zipIdx n).map read = texts.map .ok := by
    induction texts generalizing n with
    | nil => rfl
    | cons s r ih =>
      rw [List.map_cons, List.zipIdx_cons, List.map_cons, ih]
      rfl
  show (if (((texts.map Value.str).zipIdx.map read).filterMap _).isEmpty
    then Except.ok (((texts.map Value.str).zipIdx.map read).filterMap Except.toOption)
    else _) = _
  rw [hread 0]
  simp [List.filterMap_map, Except.toOption, Function.comp_def]

/-- A text, or none, is read as it is. -/
theorem readToken_ofText? (location : String) (text : Option String) :
    Query.readToken location (.ofText? text) = .ok text := by
  cases text <;> rfl

/-- **The query that a command line gives** is at fault only in its limit. -/
theorem queryOf_eq {filter : FilterArguments} {given : Option Value}
    (h : filterOf filter.text filter.conditions = .ok given) (sort : List String)
    (limit : Option Int) (continuation : Option String) :
    queryOf filter sort limit continuation
      = ((Query.readLimit ((limit.map Value.int).getD .null)).map fun limit =>
          (⟨given.getD .null, sort, limit, continuation, none⟩ : Query)).mapError fun faults =>
        .failed .usage (Fault.reportAll .query faults) := by
  have hread : filter.read = .ok (given.getD .null) := by
    rw [FilterArguments.read, h]
  let fields : Fields := [("filter", given.getD .null), ("sort", .list (sort.map .str)),
    ("limit", (limit.map Value.int).getD .null), ("continuation_token", .ofText? continuation)]
  have hfields : Query.ofFields fields
      = (Query.readLimit ((limit.map Value.int).getD .null)).map fun limit =>
        ⟨given.getD .null, sort, limit, continuation, none⟩ := by
    have hsort : fields.get? "sort" = some (.list (sort.map .str)) := rfl
    have htoken : Query.tokenField fields = ("continuation_token", .ofText? continuation) := rfl
    have hlimit : Query.fieldValue fields "limit" = (limit.map Value.int).getD .null := rfl
    have hkept : Query.fieldValue fields "fields" = .null := rfl
    have hfilter : Query.fieldValue fields "filter" = given.getD .null := rfl
    rw [Query.ofFields, hsort, htoken, hlimit, hkept, hfilter]
    dsimp only
    rw [readTexts_list, readToken_ofText?]
    -- Of the five fields only the limit can be faulty.
    cases Query.readLimit ((limit.map Value.int).getD .null) with
    | error faults => simp [Query.faultsOf, Except.map, Value.isNull]
    | ok limit => rfl
  rw [queryOf, hread]
  show (Query.ofFields fields).mapError _ = _
  rw [hfields]

/-- **A filter on the command line that is not one.** -/
def FilterArguments.Faulty (filter : FilterArguments) : Prop :=
  ∃ e, filterOf filter.text filter.conditions = .error e

theorem FilterArguments.of_not_faulty {filter : FilterArguments} (h : ¬ filter.Faulty) :
    ∃ given, filterOf filter.text filter.conditions = .ok given := by
  cases hgiven : filterOf filter.text filter.conditions with
  | error e => exact absurd ⟨e, hgiven⟩ h
  | ok given => exact ⟨given, rfl⟩

theorem queryOf_faulty {filter : FilterArguments} (h : filter.Faulty) (sort : List String)
    (limit : Option Int) (continuation : Option String) :
    ∃ message, queryOf filter sort limit continuation = .error (.failed .usage message) := by
  obtain ⟨e, he⟩ := h
  have hread : filter.read = .error (.failed .usage e.message) := by
    rw [FilterArguments.read, he]
  exact ⟨e.message, by rw [queryOf, hread]; rfl⟩

theorem queryOf_ok {filter : FilterArguments} {given : Option Value}
    (h : filterOf filter.text filter.conditions = .ok given) (sort : List String)
    {limit : Option Int} (hlimit : ∀ n, limit = some n → 0 < n) (continuation : Option String) :
    queryOf filter sort limit continuation
      = .ok ⟨given.getD .null, sort, limit, continuation, none⟩ := by
  have hread : Query.readLimit ((limit.map Value.int).getD .null) = .ok limit := by
    cases limit with
    | none => rfl
    | some n =>
      show (if 0 < n then Except.ok (some n) else _) = _
      rw [if_pos (hlimit n rfl)]
  rw [queryOf_eq h, hread]
  rfl

theorem queryOf_limit (filter : FilterArguments) (sort : List String) {n : Int} (hn : n ≤ 0)
    (continuation : Option String) :
    ∃ message, queryOf filter sort (some n) continuation = .error (.failed .usage message) := by
  by_cases hfaulty : filter.Faulty
  · exact queryOf_faulty hfaulty sort (some n) continuation
  obtain ⟨given, hgiven⟩ := FilterArguments.of_not_faulty hfaulty
  have hread : Query.readLimit (((some n).map Value.int).getD .null)
      = .error [⟨"limit", .notPositive, .int n⟩] := by
    show (if 0 < n then Except.ok (some n) else _) = _
    rw [if_neg (by omega)]
    rfl
  exact ⟨_, by rw [queryOf_eq hgiven, hread]; rfl⟩

/-! ### Commands -/

namespace Command

/-- **A command whose filter, conditions or options are not valid.** -/
def Unusable : Command → Prop
  | .compile filter _ _ _ | .count _ filter => filter.Faulty
  | .query _ filter _ limit _ => filter.Faulty ∨ ∃ n, limit = some n ∧ n ≤ 0
  | _ => False

/-- **A command whose document, if it takes one, has been read.**  The document is a text of
characters throughout: nothing in it escapes half of a surrogate pair without the other half, which
would be read, but not exactly. -/
def Loaded (files : FileSystem) : Command → Prop
  | .create _ _ document | .replace _ _ document =>
    ∃ text fields, document.read files = .ok text ∧ documentOfText text = .ok fields
      ∧ Text.isPaired text = true
  | _ => True

/-- The statement that a command shows, if it shows one. -/
def Compiles : Command → Statement → Prop
  | .compile filter sort fields counting, statement =>
    ∃ given, filterOf filter.text filter.conditions = .ok given
      ∧ shownStatement (given.getD .null) sort fields counting = .ok statement
  | _, _ => False

/-- The kind of the call that a command makes, if it makes one. -/
def kind? : Command → Option CallKind
  | .compile .. => none
  | .get .. => some .read
  | .create .. => some .create
  | .replace .. => some .replace
  | .delete .. => some .delete
  | .readMap .. => some .readMap
  | .query .. => some .query
  | .count .. => some .count

/-- A command that cannot be used ends with an error of usage. -/
theorem call_unusable {command : Command} (h : command.Unusable) (files : FileSystem)
    (json : Bool) : ∃ message, command.call files json = .error (.failed .usage message) := by
  cases command with
  | compile filter sort fields counting =>
    obtain ⟨e, he⟩ := h
    have hread : filter.read = .error (.failed .usage e.message) := by
      rw [FilterArguments.read, he]
    refine ⟨e.message, ?_⟩
    rw [Command.call, compileOutcome, hread]
  | query entity filter sort limit continuation =>
    have hfault : ∃ message,
        queryOf filter sort limit continuation = .error (.failed .usage message) := by
      rcases h with hfaulty | ⟨n, rfl, hn⟩
      · exact queryOf_faulty hfaulty sort limit continuation
      · exact queryOf_limit filter sort hn continuation
    obtain ⟨message, hmessage⟩ := hfault
    exact ⟨message, by rw [Command.call, hmessage]; rfl⟩
  | count entity filter =>
    obtain ⟨message, hmessage⟩ := queryOf_faulty h [] none none
    exact ⟨message, by rw [Command.call, hmessage]; rfl⟩
  | get | create | replace | delete | readMap => exact h.elim

/-- A command that shows a statement asks nothing of the store. -/
theorem Compiles.call {command : Command} {statement : Statement} (h : command.Compiles statement)
    (files : FileSystem) (json : Bool) :
    command.call files json = .error
      (.ofPrintout (if json then statementJson statement else statementText statement) "") := by
  cases command with
  | compile filter sort fields counting =>
    obtain ⟨given, hgiven, hstatement⟩ := h
    have hread : filter.read = .ok (given.getD .null) := by
      rw [FilterArguments.read, hgiven]
    rw [Command.call, compileOutcome, hread]
    dsimp only
    rw [hstatement]
  | _ => exact h.elim

/-- **A command that can be used** shows a statement, or makes a call of its kind. -/
theorem call_usable {command : Command} (h : ¬ command.Unusable) {files : FileSystem}
    (hloaded : command.Loaded files) (json : Bool) :
    (∃ statement, command.Compiles statement)
      ∨ ∃ call, command.call files json = .ok call ∧ command.kind? = some call.kind
        ∧ call.Stated := by
  cases command with
  | compile filter sort fields counting =>
    left
    obtain ⟨given, hgiven⟩ := FilterArguments.of_not_faulty h
    let q : Query := { filter := given.getD .null, sort := sort, fields := some fields }
    -- A filter that has been read is one, whose words can always be put.
    have hwords : ∃ w, Sql.whereText q.filter = .ok w :=
      (isFilter_filterOf hgiven).exists_whereText
    have hstatement : ∃ statement, shownStatement (given.getD .null) sort fields counting
        = .ok statement := by
      cases counting with
      | true => exact exists_countStatement hwords
      | false => exact exists_selectStatement hwords
    obtain ⟨statement, hstatement⟩ := hstatement
    exact ⟨statement, given, hgiven, hstatement⟩
  | get | delete | readMap => exact .inr ⟨_, rfl, rfl, trivial⟩
  | create entity id document | replace entity id document =>
    obtain ⟨text, fields, htext, hfields, -⟩ := hloaded
    have hload : document.load files = .ok fields := by
      rw [DocumentArguments.load, htext]
      exact hfields
    right
    rw [Command.call, hload]
    exact ⟨_, rfl, rfl, trivial⟩
  | query entity filter sort limit continuation =>
    obtain ⟨hfilter, hlimit⟩ := not_or.1 h
    obtain ⟨given, hgiven⟩ := FilterArguments.of_not_faulty hfilter
    -- The limit has been found usable above.
    have hpositive (n : Int) (hn : limit = some n) : 0 < n := by
      by_contra hle
      exact hlimit ⟨n, hn, by omega⟩
    have hwords := (isFilter_filterOf hgiven).exists_whereText
    obtain ⟨statement, hstatement⟩ :=
      exists_selectStatement (q := ⟨given.getD .null, sort, limit, continuation, none⟩) hwords
    right
    rw [Command.call, queryOf_ok hgiven sort hpositive continuation]
    exact ⟨_, rfl, rfl, _, statement, rfl, hstatement⟩
  | count entity filter =>
    obtain ⟨given, hgiven⟩ := FilterArguments.of_not_faulty h
    have hwords := (isFilter_filterOf hgiven).exists_whereText
    obtain ⟨statement, hstatement⟩ :=
      exists_countStatement (q := ⟨given.getD .null, [], none, none, none⟩) hwords
    right
    rw [Command.call, queryOf_ok hgiven [] (by rintro n ⟨⟩) none]
    exact ⟨_, rfl, rfl, _, statement, rfl, hstatement⟩

/-- **What is known of the call of a command**: it is one of its kind, and if it has a query, that
can be put into a statement. -/
theorem of_call {command : Command} {files : FileSystem} (hloaded : command.Loaded files)
    {json : Bool} {call : Call} (h : command.call files json = .ok call) :
    command.kind? = some call.kind ∧ call.Stated := by
  by_cases husable : command.Unusable
  · obtain ⟨message, hmessage⟩ := call_unusable husable files json
    rw [hmessage] at h
    cases h
  · rcases call_usable husable hloaded json
      with ⟨statement, hstatement⟩ | ⟨call', hcall, hkind, hstated⟩
    · rw [hstatement.call] at h
      cases h
    · rw [hcall] at h
      cases h
      exact ⟨hkind, hstated⟩

end Command

end EntityStore.Console
