import EntityStore.Console.Local
import EntityStore.Proofs.Console.Clients
import EntityStore.Proofs.Console.Ending
import EntityStore.Proofs.File
import EntityStore.Proofs.Store.InMemory

/-!
# Commands with a faulty container file

A container file is read in three steps, each of which can fail: its bytes are decoded, its text is
read as YAML, and the value is read as configurations.  `ContainerConfig.Loaded` lists what can come
of it.  Most failures are errors of configuration; bytes that are not UTF-8, and scalars whose form
promises a value that does not exist, fail in ways of their own.

A command reads its container file before it makes a client, so a faulty one is the end of it
(`container_file_ends`): no client is made and nothing is done.  It exits with 4 when the failure is
one of configuration, and with 1 otherwise.
-/

namespace EntityStore

namespace ContainerConfig

/-! ### What comes of a file -/

/-- **The ways in which reading a container file can go.** -/
inductive Loaded (path : String) : FileContent → Except Failure (List ContainerConfig) → Prop
  | unreadable (e : FileError) :
    Loaded path (.error e) (.error (.config (.unreadable path (e.message path))))
  | undecodable {bytes : List UInt8} (hbytes : Text.decode? bytes = none) :
    Loaded path (.ok bytes) (.error .undecodable)
  | malformed {bytes : List UInt8} {text : String} (htext : Text.decode? bytes = some text)
    (hyaml : Yaml.read text = .error .malformed) :
    Loaded path (.ok bytes) (.error (.config (.invalidYaml path)))
  | valueless {bytes : List UInt8} {text : String} {fault : Yaml.Fault}
    (htext : Text.decode? bytes = some text) (hyaml : Yaml.read text = .error fault)
    (hfault : fault ≠ .malformed) : Loaded path (.ok bytes) (.error (.content fault))
  | faulty {bytes : List UInt8} {text : String} {data : Value} {e : ConfigError}
    (htext : Text.decode? bytes = some text) (hyaml : Yaml.read text = .ok data)
    (hparse : parseAll data = .error e) : Loaded path (.ok bytes) (.error (.config e))
  | configured {bytes : List UInt8} {text : String} {data : Value} {configs : List ContainerConfig}
    (htext : Text.decode? bytes = some text) (hyaml : Yaml.read text = .ok data)
    (hparse : parseAll data = .ok configs) : Loaded path (.ok bytes) (.ok configs)

/-- **Every container file is read in one of these ways.** -/
theorem loaded (path : String) (content : FileContent) :
    Loaded path content (load path content) := by
  cases content with
  | error e => exact .unreadable e
  | ok bytes =>
    rw [load]
    cases htext : Text.decode? bytes with
    | none => exact .undecodable htext
    | some text =>
      dsimp only
      cases hyaml : Yaml.read text with
      | error fault =>
        -- Of the faults of the reader one is that the text is not YAML.
        by_cases hfault : fault = .malformed
        · subst hfault
          exact .malformed htext hyaml
        · have hfailure : failureOf path fault = .content fault := by
            cases fault with
            | malformed => exact absurd rfl hfault
            | _ => rfl
          show Loaded path _ (.error (failureOf path fault))
          rw [hfailure]
          exact .valueless htext hyaml hfault
      | ok data =>
        show Loaded path _ ((parseAll data).mapError Failure.config)
        cases hparse : parseAll data with
        | error e => exact .faulty htext hyaml hparse
        | ok configs => exact .configured htext hyaml hparse

/-- A file whose text YAML can make something of, or can tell to be malformed. -/
def Legible (content : FileContent) : Prop :=
  ∀ bytes, content = .ok bytes → Text.IsUtf8 bytes
    ∧ ∀ text, Text.decode? bytes = some text → ∀ fault, Yaml.read text = .error fault →
      fault = .malformed

/-- **A file that gives no configurations is an error of configuration**, unless it is not legible.
-/
theorem load_configured_iff {path : String} {content : FileContent} :
    ((∃ configs, load path content = .ok configs) ∨ ∃ e, load path content = .error (.config e))
      ↔ Legible content := by
  have hloaded := loaded path content
  generalize load path content = r at hloaded ⊢
  -- Bytes that have been decoded are UTF-8, and give one text.
  have hutf8 {bytes : List UInt8} {text : String} (htext : Text.decode? bytes = some text) :
      Text.IsUtf8 bytes := by
    by_contra hnot
    rw [Text.decode?_eq_none_iff.2 hnot] at htext
    cases htext
  -- A file that has come to a configuration, or to an error of one, has been legible.
  have hlegible {bytes : List UInt8} {text : String} (htext : Text.decode? bytes = some text)
      (hyaml : ∀ fault, Yaml.read text = .error fault → fault = .malformed) :
      Legible (.ok bytes) := by
    rintro bytes' ⟨⟩
    refine ⟨hutf8 htext, fun text' htext' => ?_⟩
    rw [htext] at htext'
    cases htext'
    exact hyaml
  cases hloaded with
  | unreadable e =>
    refine ⟨fun _ => ?_, fun _ => .inr ⟨_, rfl⟩⟩
    rintro bytes ⟨⟩
  | undecodable hbytes =>
    constructor
    · rintro (⟨_, ⟨⟩⟩ | ⟨_, ⟨⟩⟩)
    · exact fun h => absurd (h _ rfl).1 (Text.decode?_eq_none_iff.1 hbytes)
  | malformed htext hyaml =>
    refine ⟨fun _ => hlegible htext fun fault hfault => ?_, fun _ => .inr ⟨_, rfl⟩⟩
    rw [hyaml] at hfault
    cases hfault
    rfl
  | valueless htext hyaml hfault =>
    constructor
    · rintro (⟨_, ⟨⟩⟩ | ⟨_, ⟨⟩⟩)
    · exact fun h => absurd ((h _ rfl).2 _ htext _ hyaml) hfault
  | faulty htext hyaml =>
    refine ⟨fun _ => hlegible htext fun fault hfault => ?_, fun _ => .inr ⟨_, rfl⟩⟩
    rw [hyaml] at hfault
    cases hfault
  | configured htext hyaml =>
    refine ⟨fun _ => hlegible htext fun fault hfault => ?_, fun _ => .inl ⟨_, rfl⟩⟩
    rw [hyaml] at hfault
    cases hfault

/-- **A file is undecodable when its bytes are not UTF-8**, and only then. -/
theorem load_undecodable_iff {path : String} {content : FileContent} :
    load path content = .error .undecodable
      ↔ ∃ bytes, content = .ok bytes ∧ ¬ Text.IsUtf8 bytes := by
  constructor
  · intro h
    have hloaded := loaded path content
    rw [h] at hloaded
    cases hloaded with
    | undecodable hbytes => exact ⟨_, rfl, Text.decode?_eq_none_iff.1 hbytes⟩
  · rintro ⟨bytes, rfl, hbytes⟩
    rw [load, Text.decode?_eq_none_iff.2 hbytes]

end ContainerConfig

namespace Console.Host

variable {σ κ : Type} {host : Host σ κ} {globals : Globals}

/-! ### What comes of a command -/

/-- The settings of a command name its container file. -/
theorem configure_file {settings : Settings} {path : String}
    (hsettings : globals.settings host.environment = .ok settings)
    (hpath : settings.containersFile = some path) :
    host.configure globals
      = (ContainerConfig.load path (host.files (normalPath path))).map (settings, ·) := by
  unfold configure
  rw [hsettings]
  dsimp only [Except.mapError, bind, Except.bind]
  rw [hpath]
  dsimp only
  cases ContainerConfig.load path (host.files (normalPath path)) <;> rfl

/-- **A command that is not configured has done nothing.** -/
theorem run_misconfigured {arguments : List String} {command : Command} {call : Call} {e : Failure}
    (hparse : Invocation.parse? arguments = some (.command globals command))
    (hcall : command.call host.files globals.json = .ok call)
    (hconfigure : host.configure globals = .error e) (s : σ) :
    host.run arguments s = (.ofFailure e, s) := by
  rw [run_calling hparse hcall, Host.call, hconfigure]
  rfl

/-- **A command with a faulty container file makes no client.**  A file gives configurations or is
an error of configuration exactly when it is legible: it cannot be read at all, or its bytes are
UTF-8 and YAML does not fail on their text but by finding it malformed.  In particular it is not
when its bytes are not UTF-8.  A command that asks something of the store exits with 4 when its
container file is an error of configuration, and with 1 when it is not legible; in both cases it has
printed nothing but an error, made no client and done nothing. -/
theorem container_file_ends {arguments : List String} {command : Command} {call : Call}
    {settings : Settings} {path : String}
    (hparse : Invocation.parse? arguments = some (.command globals command))
    (hcall : command.call host.files globals.json = .ok call)
    (hsettings : globals.settings host.environment = .ok settings)
    (hpath : settings.containersFile = some path) (s : σ) :
    let file := host.files (normalPath path)
    let loaded := ContainerConfig.load path file
    let ended : Outcome × Traced σ := host.traced.run arguments ⟨s, []⟩
    (((∃ configs, loaded = .ok configs) ∨ ∃ e, loaded = .error (.config e))
        ↔ ContainerConfig.Legible file)
      ∧ (loaded = .error .undecodable ↔ ∃ bytes, file = .ok bytes ∧ ¬ Text.IsUtf8 bytes)
      ∧ ∀ e, loaded = .error e →
        ended.2 = ⟨s, []⟩ ∧ ended.1.output = ""
          ∧ (∃ line, line ≠ "" ∧ ended.1.errors = unlines [line])
          ∧ (ContainerConfig.Legible file → ended.1.exitCode = 4)
          ∧ (¬ ContainerConfig.Legible file → ended.1.exitCode = 1) := by
  intro file loaded ended
  refine ⟨ContainerConfig.load_configured_iff, ContainerConfig.load_undecodable_iff, ?_⟩
  intro e he
  -- The error of the file is that of the configuration, before any client is made.
  have hconfigure : host.traced.configure globals = .error e := by
    show host.configure globals = _
    rw [configure_file hsettings hpath]
    show loaded.map _ = _
    rw [he]
    rfl
  have htraced : command.call host.traced.files globals.json = .ok call := hcall
  have hended : ended = (.ofFailure e, ⟨s, []⟩) :=
    run_misconfigured hparse htraced hconfigure ⟨s, []⟩
  have hfails : ended.1.Fails (.ofFailure e) := by
    rw [hended]
    exact Outcome.fails_failed _ _
  refine ⟨by rw [hended], hfails.output, hfails.errors, fun hlegible => ?_, fun hnot => ?_⟩
  · -- A legible file that cannot be loaded holds no valid configuration.
    rw [hfails.exitCode]
    rcases ContainerConfig.load_configured_iff.2 hlegible with ⟨configs, hok⟩ | ⟨c, hconfig⟩
    · rw [show loaded = .ok configs from hok] at he
      cases he
    · rw [show loaded = .error (.config c) from hconfig] at he
      cases he
      rfl
  · -- Otherwise the failure is none of a configuration.
    rw [hfails.exitCode, ExitCode.ofFailure_fault (load_fault he) ?_]
    · rfl
    · rintro c rfl
      exact hnot (ContainerConfig.load_configured_iff.1 (.inr ⟨c, he⟩))

/-- The host with the database in memory and this container file. -/
def withContainers (content : FileContent) : Host LocalState String :=
  .onMemory [("DOCSTORE_CONTAINERS", "containers.yaml")] fun _ => content

/-- Without the container file that it names, a command exits with 4. -/
theorem container_file_ends_missing :
    let ended : Outcome × Traced LocalState :=
      (withContainers (.error .missing)).traced.run ["get", "order", "1"] ⟨.unused, []⟩
    ended.1.exitCode = 4 ∧ ended.2 = ⟨.unused, []⟩ := by
  intro ended
  have hparse : Invocation.parse? ["get", "order", "1"]
      = some (.command {} (.get "order" "1" none)) := by decide
  have hsettings : ({} : Globals).settings (withContainers (.error .missing)).environment
      = .ok { containersFile := some "containers.yaml" } := by rfl
  have hlegible : ContainerConfig.Legible (.error .missing) := by rintro bytes ⟨⟩
  obtain ⟨-, -, hended⟩ := container_file_ends hparse rfl hsettings rfl LocalState.unused
  obtain ⟨hstate, -, -, hexit, -⟩ := hended _ rfl
  exact ⟨hexit hlegible, hstate⟩

/-- **Bytes that are not UTF-8 are no error of configuration**: a command whose container file holds
such a byte is refused before a client is made, but exits with 1. -/
theorem undecodable_container_file :
    let host := withContainers (.ok [0xff])
    let ended : Outcome × Traced LocalState :=
      host.traced.run ["get", "order", "1"] ⟨.unused, []⟩
    (∀ e, ContainerConfig.load "containers.yaml" (.ok [0xff]) ≠ .error (.config e))
      ∧ ended.2 = ⟨.unused, []⟩ ∧ ended.1.exitCode = 1 := by
  have hload : ContainerConfig.load "containers.yaml" (.ok [0xff]) = .error .undecodable := by rfl
  refine ⟨fun e h => ?_, by rfl, by rfl⟩
  rw [hload] at h
  cases h

end Console.Host

end EntityStore
