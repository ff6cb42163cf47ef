import DeviceLauncher.Config
import DeviceLauncher.Machine
import DeviceLauncher.Yaml.Reader

/-!
# Loading a configuration

Which file to load is said on the command line, else in the environment, else it is the one of the
default name in the working directory. A file that was asked for has to be there; the default one
may be missing, and then every setting has its default. The file is YAML, of which a reader has to
be given, and holds a mapping, or nothing.
-/

namespace DeviceLauncher.Config

/-- The name of the file that is loaded if it is there. -/
def defaultName : String := "ripple-launcher.yaml"

/-- The variable that can name the file to load. -/
def fileVariable : String := "RIPPLE_LAUNCHER_CONFIG"

/-- The path to load, and whether a file has to be there. -/
def choosePath (explicit : Option String) (e : Environment) : String × Bool :=
  match explicit.filter fun path => !path.isEmpty with
  | some path => (path, true)
  | none =>
    match e.given? fileVariable with
    | some path => (path, true)
    | none => (defaultName, false)

/-- Whether a file name has the ending of a YAML file. -/
def isYamlSuffix (suffix : String) : Bool :=
  [".yaml", ".yml"].contains (suffix.map Char.toLower)

/-- A text with every line end as a newline. -/
def unifyLineEnds : List Char → List Char
  | '\r' :: '\n' :: rest => '\n' :: unifyLineEnds rest
  | '\r' :: rest => '\n' :: unifyLineEnds rest
  | c :: rest => c :: unifyLineEnds rest
  | [] => []

/-- The configuration in the bytes of its file, which is at a path. -/
def ofBytes (reader : Yaml.Reader) (path : String) (bytes : ByteArray) : Except Failure Config :=
  match String.fromUTF8? bytes with
  | none => .error .configNotText
  | some text =>
    match reader (String.ofList (unifyLineEnds text.toList)) with
    | .error fault => .error (.config fault)
    | .ok document =>
      match document.knots.untie document.root with
      | .map entries => .ok ⟨entries, some path, document.knots⟩
      | root => if root.holds then .error (.configNotMapping path) else .ok ⟨[], some path, []⟩

/-- Loads the configuration. -/
def load (reader : Yaml.Reader) (explicit : Option String) : Action Config := do
  let (path, required) := choosePath explicit (← get).environment
  let p := Path.ofString path
  match ← Action.look p with
  | none => if required then throw (.missing p.toString) else return default
  | some i =>
    if !isYamlSuffix p.suffix then throw .configNotYaml
    let bytes ← Action.ofExcept
      (((← get).files.read i).mapError fun e => .os e (.path p.toString))
    let config ← Action.ofExcept (ofBytes reader p.toString bytes)
    Action.report (.loadedConfig p.toString)
    return config

end DeviceLauncher.Config
