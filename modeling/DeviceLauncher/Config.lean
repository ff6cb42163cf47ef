import DeviceLauncher.Environment
import DeviceLauncher.Failure
import DeviceLauncher.Log.Level
import DeviceLauncher.Path.Home
import DeviceLauncher.Value.Text

/-!
# Settings

A configuration is a map of values as it was loaded. Each setting is looked up when it is needed,
so a wrong value harms only those who ask for it. A setting that is missing, empty or zero has its
default; `~` stands for the home directory, and `~name` for that of another user.

* `projectDirectory`, `binaryDirectory`, `configDirectory`, `executable`: paths.
* `installedBinary`, `manifests`: where files are copied to, and from where.
* `buildCommand`, `runCommand`: the words of the two children, which see the host in the
  environment variable `hostVariable`.
* `logLevel`, `logPath`: how the log is set up.
-/

namespace DeviceLauncher

/-- A configuration: its fields, the path of the file that it was loaded from, and the collections
in it that can hold themselves. -/
structure Config where
  raw : List (Value × Value)
  source : Option String
  knots : Knots := []

/-- A file to copy into the configuration directory. -/
structure Manifest where
  source : Path
  target : Path
  deriving DecidableEq

namespace Config

/-- The configuration in which every setting has its default. -/
def default : Config := { raw := [], source := none }

/-- The sources and targets of the manifests that come with the target program. -/
def defaultManifests : List (String × String) :=
  [("examples/manifest.json", "firebolt-device-manifest.json"),
    ("examples/default-extn-manifest.json", "firebolt-extn-manifest.json"),
    ("examples/firebolt-app-library.json", "firebolt-app-library.json")]

def defaultBuild : List String := ["cargo", "build", "--features", "local_dev"]

def defaultRun : List String := ["cargo", "run", "--features", "local_dev", "core/main"]

/-- The variable in which the target program looks for its host. -/
def defaultHostVariable : String := "DEVICE_HOST"

/-- The variable that can set the level of the log. -/
def levelVariable : String := "RIPPLE_LOG_LEVEL"

/-! ## Shapes of values -/

/-- The fields of a value. -/
def fieldsOf (c : Config) (v : Value) : Except Failure (List (Value × Value)) :=
  match c.knots.untie v with
  | .map entries => .ok entries
  | _ => .error .noFields

/-- The items of a value: those of a list or set, the keys of a map, the characters of a text. -/
def itemsOf (c : Config) (v : Value) : Except Failure (List Value) :=
  match c.knots.untie v with
  | .list items | .set items => .ok items
  | .map entries => .ok (entries.map Prod.fst)
  | .text s => .ok (s.toList.map fun c => .text (String.singleton c))
  | .bytes b => .ok (b.toList.map fun byte => .int byte.toNat)
  | .pair first second => .ok [first, second]
  | _ => .error .noItems

/-- The value of a field as far as it counts: `none` if it is missing or does not hold. -/
def given? (c : Config) (fields : List (Value × Value)) (name : String) : Option Value :=
  (Value.field? fields name).filter fun v => (c.knots.untie v).holds

/-- The text of a field as far as it counts. -/
def givenText? (c : Config) (fields : List (Value × Value)) (name : String) :
    Except Failure (Option String) :=
  (c.given? fields name).mapM (Value.toText c.knots)

/-- The fields of a section, none if the section is missing or empty. -/
def sectionFields (c : Config) (name : String) : Except Failure (List (Value × Value)) :=
  match c.given? c.raw name with
  | some v => c.fieldsOf v
  | none => .ok []

/-! ## Paths -/

/-- A text as a path, with `~` expanded. -/
def expandPath (e : Environment) (text : String) : Except Failure Path :=
  match expandHome e.homeOf? text with
  | some text => .ok (Path.ofString text)
  | none => .error .nul

/-- A path of the section `paths`. -/
def pathSetting (c : Config) (e : Environment) (name default : String) : Except Failure Path := do
  let fields ← c.sectionFields "paths"
  expandPath e ((← c.givenText? fields name).getD default)

def projectDirectory (c : Config) (e : Environment) : Except Failure Path :=
  c.pathSetting e "project_dir" "."

def binaryDirectory (c : Config) (e : Environment) : Except Failure Path :=
  c.pathSetting e "bin_dir" "~/.cargo/bin"

def configDirectory (c : Config) (e : Environment) : Except Failure Path :=
  c.pathSetting e "config_dir" "~/.ripple"

/-- The program to install: the one configured, else the one that runs. -/
def executable (c : Config) (e : Environment) (argv : List String) : Except Failure Path := do
  let fields ← c.sectionFields "paths"
  match ← c.givenText? fields "executable", argv with
  | some path, _ => expandPath e path
  | none, self :: _ => return Path.ofString self
  | none, [] => throw .noProgramPath

/-- The name that the program is installed under. -/
def binaryName (c : Config) : Except Failure String := do
  return (← c.givenText? c.raw "binary_name").getD "ripple"

def installedBinary (c : Config) (e : Environment) : Except Failure Path := do
  return (← c.binaryDirectory e).join (Path.ofString (← c.binaryName))

/-! ## Manifests -/

/-- The source and target that an entry of the manifest list gives. -/
def manifestTexts (c : Config) (entry : Value) : Except Failure (String × String) := do
  let fields := match c.knots.untie entry with
    | .map fields => fields
    | _ => []
  match c.given? fields "source", c.given? fields "dest" with
  | some source, some target => return (← source.toText c.knots, ← target.toText c.knots)
  | _, _ => throw (.incompleteManifest (← entry.literal c.knots))

/-- The texts of all manifests, as configured or the default ones. -/
def allManifestTexts (c : Config) : Except Failure (List (String × String)) :=
  match Value.field? c.raw "manifests" with
  | none | some .null => .ok defaultManifests
  | some v => do (← c.itemsOf v).mapM c.manifestTexts

/-- The manifests to copy. A source is seen from the project directory, a target from the
configuration directory. -/
def manifests (c : Config) (e : Environment) : Except Failure (List Manifest) := do
  (← c.allManifestTexts).mapM fun (source, target) => do
    let source := (← c.projectDirectory e).join (Path.ofString source)
    let target := (← c.configDirectory e).join (Path.ofString target)
    return ⟨source, target⟩

/-! ## Children -/

def hostVariable (c : Config) : Except Failure String := do
  return (← c.givenText? c.raw "host_env_var").getD defaultHostVariable

/-- The variables that children get beside those of the launcher. -/
def childVariables (c : Config) (host : String) : Except Failure (List (String × String)) := do
  return [(← c.hostVariable, host)]

/-- A command of the section `commands`, word by word. -/
def commandSetting (c : Config) (name : String) (default : List String) :
    Except Failure (List String) := do
  let fields ← c.sectionFields "commands"
  match Value.field? fields name with
  | none | some .null => return default
  | some (.text s) => throw (.commandIsText s)
  | some v => (← c.itemsOf v).mapM (Value.toText c.knots)

def buildCommand (c : Config) : Except Failure (List String) :=
  c.commandSetting "build" defaultBuild

def runCommand (c : Config) : Except Failure (List String) :=
  c.commandSetting "run" defaultRun

/-! ## The log -/

/-- The level of the log: from the environment, else as configured, else `INFO`. -/
def logLevel (c : Config) (e : Environment) : Except Failure Log.Level := do
  let name ← (
    match e.given? levelVariable with
    | some name => pure name
    | none => do return (← c.givenText? (← c.sectionFields "logging") "level").getD "INFO")
  match Log.Level.ofName? name with
  | some level => return level
  | none => throw (.unknownLevel name)

/-- The path of the log file, if there is to be one. -/
def logPath (c : Config) (e : Environment) : Except Failure (Option String) := do
  match ← c.givenText? (← c.sectionFields "logging") "path" with
  | some path => return some (← expandPath e path).toString
  | none => return none

end Config

end DeviceLauncher
