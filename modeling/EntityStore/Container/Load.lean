import EntityStore.Failure
import EntityStore.File
import EntityStore.Yaml.Reader

/-!
# Container configurations in a file

The configurations of containers are kept in a YAML file.  A file that cannot be read, that is not
YAML, or whose value is not a list of configurations is a configuration error.  Bytes that are not
UTF-8 and scalars without a value fail in ways of their own.
-/

namespace EntityStore.ContainerConfig

/-- The failure that a fault in a file is. -/
def failureOf (path : String) : Yaml.Fault → Failure
  | .malformed => .config (.invalidYaml path)
  | fault => .content fault

/-- **The configurations in the file at a path.** -/
def load (path : String) (content : FileContent) : Except Failure (List ContainerConfig) :=
  match content with
  | .error e => .error (.config (.unreadable path (e.message path)))
  | .ok bytes =>
    match Text.decode? bytes with
    | none => .error .undecodable
    | some text => do
      let data ← (Yaml.read text).mapError (failureOf path)
      (parseAll data).mapError .config

end EntityStore.ContainerConfig
