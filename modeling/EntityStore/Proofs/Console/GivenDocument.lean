import EntityStore.Console.Local
import EntityStore.Proofs.Console.Called
import EntityStore.Proofs.File
import EntityStore.Proofs.Json.Reader
import EntityStore.Proofs.Store.InMemory

/-!
# Commands with an unusable document

The document that a command takes is given as a text or in a file, one of the two.  When the text
that is given denotes an object, that object is what the store is asked to create or to put in the
place of another (`DocumentArguments.load_ok_iff`).  Otherwise the command ends before a store is
opened, and nearly always as one that has not been used rightly: it tells so on one line and exits
with 2.

Two faults escape from that (`DocumentArguments.Escapes`), and the command then breaks off: a file
whose bytes are not UTF-8, and a text in which a whole number has too many digits.
-/

namespace EntityStore.Console

/-! ### Documents and the commands that take them -/

/-- The document of a command, if it takes one. -/
def Command.document? : Command → Option DocumentArguments
  | .create _ _ document | .replace _ _ document => some document
  | _ => none

/-- What a command that takes a document asks of the store when the document is this object. -/
def Command.callWith? (fields : Fields) : Command → Option Call
  | .create entity id _ => some (.create entity id (.object fields))
  | .replace entity id _ => some (.replace entity id (.object fields))
  | _ => none

namespace DocumentArguments

variable {files : FileSystem} {a : DocumentArguments} {text : String} {fields : Fields}

/-- **The text that is given**, when it is given in one of the two ways and not in both. -/
inductive Gives (files : FileSystem) : DocumentArguments → String → Prop
  | typed {text : String} : Gives files ⟨some text, none⟩ text
  | filed {path text : String} {bytes : List UInt8} (hfile : files (normalPath path) = .ok bytes)
    (hbytes : Text.decode? bytes = some text) : Gives files ⟨none, some path⟩ text

/-- **The object that a document denotes.** -/
def Denotes (files : FileSystem) (a : DocumentArguments) (fields : Fields) : Prop :=
  ∃ text, a.Gives files text ∧ Json.read text = .ok (.object fields)

/-- **The faults of a document that nobody has provided for.** -/
inductive Escapes (files : FileSystem) : DocumentArguments → Prop
  | bytes {path : String} {bytes : List UInt8} (hfile : files (normalPath path) = .ok bytes)
    (hbytes : ¬ Text.IsUtf8 bytes) : Escapes files ⟨none, some path⟩
  | digits {a : DocumentArguments} {text : String} {e : NumeralError} (htext : a.Gives files text)
    (hjson : Json.read text = .error (.numeral e)) : Escapes files a

/-- **The ways in which reading a document can go.** -/
inductive Loaded (files : FileSystem) : DocumentArguments → Except DocumentError Fields → Prop
  | neither : Loaded files ⟨none, none⟩ (.error .notExactlyOne)
  | both {text path : String} : Loaded files ⟨some text, some path⟩ (.error .notExactlyOne)
  | unreadable {path : String} {e : FileError} (hfile : files (normalPath path) = .error e) :
    Loaded files ⟨none, some path⟩ (.error (.unreadable path e))
  | undecodable {path : String} {bytes : List UInt8} (hfile : files (normalPath path) = .ok bytes)
    (hbytes : Text.decode? bytes = none) : Loaded files ⟨none, some path⟩ (.error .undecodable)
  | malformed {a : DocumentArguments} {text : String} (htext : a.Gives files text)
    (hjson : Json.read text = .error .malformed) : Loaded files a (.error .notJson)
  | numeral {a : DocumentArguments} {text : String} {e : NumeralError} (htext : a.Gives files text)
    (hjson : Json.read text = .error (.numeral e)) : Loaded files a (.error (.numeral e))
  | noObject {a : DocumentArguments} {text : String} {v : Value} (htext : a.Gives files text)
    (hjson : Json.read text = .ok v) (hv : v.isObject = false) :
    Loaded files a (.error .notObject)
  | object {a : DocumentArguments} {text : String} {fields : Fields} (htext : a.Gives files text)
    (hjson : Json.read text = .ok (.object fields)) : Loaded files a (.ok fields)

/-- A document in a file. -/
theorem load_filed (files : FileSystem) (path : String) :
    load files ⟨none, some path⟩ = match files (normalPath path) with
      | .error e => .error (.unreadable path e)
      | .ok bytes =>
        (Text.decode? bytes).elim (.error .undecodable) documentOfText := by
  show (read files ⟨none, some path⟩ >>= documentOfText) = _
  rw [read]
  dsimp only
  cases files (normalPath path) with
  | error e => rfl
  | ok bytes =>
    dsimp only
    cases Text.decode? bytes <;> rfl

/-- The text that is given is what is read. -/
theorem Gives.load (h : a.Gives files text) : a.load files = documentOfText text := by
  cases h with
  | typed => rfl
  | filed hfile hbytes =>
    rw [load_filed, hfile]
    dsimp only
    rw [hbytes, Option.elim_some]

theorem Gives.loaded (h : a.Gives files text) : Loaded files a (documentOfText text) := by
  unfold documentOfText
  cases hjson : Json.read text with
  | error e =>
    cases e with
    | malformed => exact .malformed h hjson
    | numeral e => exact .numeral h hjson
  | ok v =>
    cases v with
    | object fields => exact .object h hjson
    | scalar | list | tuple | filter => exact .noObject h hjson rfl

/-- **Every document is read in one of these ways.** -/
theorem loaded (files : FileSystem) (a : DocumentArguments) : Loaded files a (a.load files) := by
  obtain ⟨typed, filed⟩ := a
  cases typed with
  | some text =>
    cases filed with
    | none => exact Gives.typed.loaded
    | some path => exact .both
  | none =>
    cases filed with
    | none => exact .neither
    | some path =>
      rw [load_filed]
      cases hfile : files (normalPath path) with
      | error e => exact .unreadable hfile
      | ok bytes =>
        dsimp only
        cases hbytes : Text.decode? bytes with
        | none => exact .undecodable hfile hbytes
        | some text => exact (Gives.filed hfile hbytes).loaded

/-- **A document is read as the object that it denotes**, and only then. -/
theorem load_ok_iff : a.load files = .ok fields ↔ a.Denotes files fields := by
  constructor
  · intro h
    have hloaded := loaded files a
    rw [h] at hloaded
    cases hloaded with
    | object htext hjson => exact ⟨_, htext, hjson⟩
  · rintro ⟨text, htext, hjson⟩
    rw [htext.load, documentOfText, hjson]

/-- A document that escapes is not read, and its failure is not one of usage. -/
theorem Escapes.load (h : a.Escapes files) :
    ∃ reason, a.load files = .error reason ∧ ∃ breakage, reason.outcome = .brokenOff breakage "" := by
  cases h with
  | bytes hfile hbytes =>
    rw [load_filed, hfile]
    dsimp only
    rw [Text.decode?_eq_none_iff.2 hbytes]
    exact ⟨_, rfl, _, rfl⟩
  | digits htext hjson =>
    rw [htext.load, documentOfText, hjson]
    exact ⟨_, rfl, _, rfl⟩

/-- **Every other document that is not read is an error of usage**, which is told on one line. -/
theorem outcome_of_load {reason : DocumentError} (h : a.load files = .error reason)
    (hprovided : ¬ a.Escapes files) :
    ∃ message, Text.OneLine message ∧ reason.outcome = .failed .usage message := by
  have hloaded := loaded files a
  rw [h] at hloaded
  cases hloaded with
  | neither | both => exact ⟨_, by decide, rfl⟩
  | @unreadable path e hfile =>
    exact ⟨_, Text.OneLine.append (by decide) (e.oneLine_message path), rfl⟩
  | undecodable hfile hbytes =>
    exact absurd (.bytes hfile (Text.decode?_eq_none_iff.1 hbytes)) hprovided
  | malformed => exact ⟨_, by decide, rfl⟩
  | numeral htext hjson => exact absurd (.digits htext hjson) hprovided
  | noObject => exact ⟨_, by decide, rfl⟩

/-- **What escapes** is bytes that are not UTF-8, or a text with a run of too many digits. -/
theorem Escapes.cause (h : a.Escapes files) :
    (∃ path bytes, a = ⟨none, some path⟩ ∧ files (normalPath path) = .ok bytes
        ∧ ¬ Text.IsUtf8 bytes)
      ∨ ∃ text, a.Gives files text ∧ Json.LongDigits text.toList := by
  cases h with
  | bytes hfile hbytes => exact .inl ⟨_, _, rfl, hfile, hbytes⟩
  | digits htext hjson => exact .inr ⟨_, htext, Json.longDigits_of_read hjson⟩

end DocumentArguments

/-! ### Commands -/

section Commands

variable {files : FileSystem} {command : Command} {document : DocumentArguments}

/-- **A command asks the store for the object** that has been read, -/
theorem Command.call_loaded (h : command.document? = some document) {fields : Fields}
    (hload : document.load files = .ok fields) (json : Bool) :
    ∃ call, command.callWith? fields = some call ∧ command.call files json = .ok call := by
  cases command with
  | create entity id =>
    cases h
    exact ⟨_, rfl, by rw [call, hload]; rfl⟩
  | replace entity id =>
    cases h
    exact ⟨_, rfl, by rw [call, hload]; rfl⟩
  | _ => cases h

/-- and ends without asking when none has. -/
theorem Command.call_unloaded (h : command.document? = some document) {reason : DocumentError}
    (hload : document.load files = .error reason) (json : Bool) :
    command.call files json = .error reason.outcome := by
  cases command with
  | create entity id =>
    cases h
    rw [call, hload]
    rfl
  | replace entity id =>
    cases h
    rw [call, hload]
    rfl
  | _ => cases h

end Commands

namespace Host

variable {σ κ : Type} {host : Host σ κ} {globals : Globals} {arguments : List String}
  {command : Command}

/-- **A command takes the object that its document denotes, or does nothing.**  When the one text
that is given denotes an object, the command asks the store to create it or to put it in the place
of another, and ends as that goes.  Otherwise no store is opened, nothing is printed as output, and
the command exits with 2 after a single line with an error; unless the document escapes, because the
bytes of the file are not UTF-8 or because some whole number in the text has too many digits.  In
that case the command breaks off and exits with 1. -/
theorem given_document {document : DocumentArguments}
    (hparse : Invocation.parse? arguments = some (.command globals command))
    (hdocument : command.document? = some document) (s : σ) :
    let ended : Outcome × Traced σ := host.traced.run arguments ⟨s, []⟩
    (∀ fields, document.Denotes host.files fields →
        ∃ call, command.callWith? fields = some call
          ∧ let called := host.traced.call globals call ⟨s, []⟩
            ended = (command.ending globals.json called.1, called.2))
      ∧ ((¬ ∃ fields, document.Denotes host.files fields) →
        ended.2 = ⟨s, []⟩ ∧ ended.1.output = ""
          ∧ (¬ document.Escapes host.files →
            ended.1.exitCode = 2 ∧ ∃ line, Text.OneLine line ∧ ended.1.errors = unlines [line])
          ∧ (document.Escapes host.files →
            ended.1.exitCode = 1 ∧ ∃ reason, ended.1 = .brokenOff reason ""))
      ∧ (document.Escapes host.files →
        (¬ ∃ fields, document.Denotes host.files fields)
          ∧ ((∃ path bytes, document = ⟨none, some path⟩ ∧ host.files (normalPath path) = .ok bytes
              ∧ ¬ Text.IsUtf8 bytes)
            ∨ ∃ text, document.Gives host.files text ∧ Json.LongDigits text.toList)) := by
  intro ended
  refine ⟨fun fields hdenotes => ?_, fun hnone => ?_, fun hescapes => ⟨?_, hescapes.cause⟩⟩
  · -- The document is loaded, and the call made with it.
    have hload := DocumentArguments.load_ok_iff.2 hdenotes
    obtain ⟨call, hwith, hcall⟩ := Command.call_loaded hdocument hload globals.json
    have htraced : command.call host.traced.files globals.json = .ok call := hcall
    exact ⟨call, hwith, run_calling hparse htraced _⟩
  · cases hload : document.load host.files with
    | ok fields => exact absurd ⟨fields, DocumentArguments.load_ok_iff.1 hload⟩ hnone
    | error reason =>
      have hcall : command.call host.traced.files globals.json = .error reason.outcome :=
        Command.call_unloaded hdocument hload globals.json
      have hended : ended = (reason.outcome, ⟨s, []⟩) := run_without_call hparse hcall _
      -- It is not loaded, and the reason either escapes or is reported.
      by_cases hescapes : document.Escapes host.files
      · obtain ⟨reason', hload', breakage, hbroken⟩ := hescapes.load
        rw [hload] at hload'
        cases hload'
        rw [hended, hbroken]
        exact ⟨rfl, rfl, fun hprovided => absurd hescapes hprovided, fun _ => ⟨rfl, _, rfl⟩⟩
      · obtain ⟨message, hline, hfailed⟩ := DocumentArguments.outcome_of_load hload hescapes
        rw [hended, hfailed]
        refine ⟨rfl, rfl, fun _ => ⟨rfl, "Error: " ++ message, .append (by decide) hline, ?_⟩,
          fun h => absurd h hescapes⟩
        rfl
  · -- A reason that escapes is one for which nothing is loaded.
    rintro ⟨fields, hdenotes⟩
    obtain ⟨reason, hload, -⟩ := hescapes.load
    rw [DocumentArguments.load_ok_iff.2 hdenotes] at hload
    cases hload

/-- A list is no document. -/
theorem given_document_list :
    let host : Host LocalState String := .onMemory [] fun _ => .error .missing
    let ended : Outcome × Traced LocalState :=
      host.traced.run ["replace", "order", "1", "--doc", "[]"] ⟨.unused, []⟩
    ended.1.exitCode = 2 ∧ ended.2.events = [] := by
  intro host ended
  have hparse : Invocation.parse? ["replace", "order", "1", "--doc", "[]"]
      = some (.command {} (.replace "order" "1" ⟨some "[]", none⟩)) := by decide
  have hjson : Json.read "[]" = .ok (.list []) := by rfl
  obtain ⟨-, hnothing, -⟩ := @given_document _ _ host _ _ _ _ hparse rfl LocalState.unused
  have hnone : ¬ ∃ fields, DocumentArguments.Denotes host.files ⟨some "[]", none⟩ fields := by
    rintro ⟨fields, text, htext, hobject⟩
    cases htext
    rw [hjson] at hobject
    cases hobject
  have hprovided : ¬ DocumentArguments.Escapes host.files ⟨some "[]", none⟩ := by
    rintro (_ | ⟨htext, herror⟩)
    cases htext
    rw [hjson] at herror
    cases herror
  obtain ⟨hstate, -, husage, -⟩ := hnothing hnone
  exact ⟨(husage hprovided).1, congrArg Logged.events hstate⟩

/-- **A document in bytes that are not UTF-8 is no error of usage**: the command breaks off. -/
theorem undecodable_document :
    let host : Host LocalState String := .onMemory [] fun _ => .ok [0xff]
    let ended : Outcome × Traced LocalState :=
      host.traced.run ["create", "order", "--file", "order.json"] ⟨.unused, []⟩
    ended.1.exitCode = 1 ∧ ended.1.errors = "" ∧ ended.2 = ⟨.unused, []⟩
      ∧ ∃ reason, ended.1 = .brokenOff reason "" := by
  exact ⟨by rfl, by rfl, by rfl, _, by rfl⟩

end Host

end EntityStore.Console
