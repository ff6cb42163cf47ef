import DeviceLauncher.Child.System
import DeviceLauncher.Launch.Dispatch
import DeviceLauncher.Yaml.Document
import Std.Time

/-!
# The command line

`main` takes a picture of the files around the launcher into a machine, runs the launcher on it, and
carries out what has changed. Everything that the launcher decides it decides on the machine.

Symbolic links are taken for what they lead to. A file counts as a program by its first bytes.
Children run on the machine too, so only those of `Child.system` are found, and a configuration is
read by `Yaml.Document.ofText`. Home directories are those of the table of users; which of the users
runs the launcher is not known, so that `~` alone is left to the variable.
-/

namespace DeviceLauncher.Outside

/-- The variables that the launcher looks at. -/
def variableNames : List String := ["HOME", "PATH", Config.fileVariable, Config.levelVariable]

/-- How deep directories are taken in. -/
def depth : Nat := 4

/-- A file with some bytes, last changed at a time. -/
def fileOf (content : ByteArray) (modified : Int) : File :=
  let isProgram := (Child.Image.ofBytes content).isSome
  ⟨content, if isProgram then 0o755 else FileSystem.newFileMode, modified⟩

/-- The file system with a file at a path, and the directories above it. -/
def withFile (fs : FileSystem) (path : String) (f : File) : FileSystem :=
  let (fs, _) := Install.makeAll fs FileSystem.root (Path.ofString path).parent
  match fs.openForWriting FileSystem.root path f.modified with
  | .ok (fs, i) => fs.modifyFile i fun _ => f
  | .error _ => fs

/-- Takes in what is at a path. -/
def take : Nat → FileSystem → String → IO FileSystem
  | 0, fs, _ => return fs
  | depth + 1, fs, path => do
    try
      let place ← IO.FS.realPath path
      let facts ← place.metadata
      match facts.type with
      | .dir =>
        let (fs, _) := Install.makeAll fs FileSystem.root (Path.ofString path)
        (← place.readDir).foldlM (fun fs entry => take depth fs (path ++ "/" ++ entry.fileName)) fs
      | .file => return withFile fs path (fileOf (← IO.FS.readBinFile path) facts.modified.sec)
      | _ => return fs
    catch _ => return fs

/-- The table of users, a line for each. -/
def usersFile : String := "/etc/passwd"

/-- The users in a table. Of a line the first part is the name and the sixth the home directory. -/
def accountsIn (table : String) : Accounts where
  own := none
  named := (table.splitOn "\n").filterMap fun line =>
    match line.splitOn ":" with
    | name :: _ :: _ :: _ :: _ :: home :: _ => some (name, home)
    | _ => none

/-- The machine before the launcher runs, with the files below some directories. -/
def machine (words directories : List String) : IO Machine := do
  let here := (← IO.currentDir).toString
  let own := (← IO.appPath).toString
  let values ← variableNames.filterMapM fun name => return (← IO.getEnv name).map (name, ·)
  let accounts ← try pure (accountsIn (← IO.FS.readFile usersFile)) catch _ => pure .none
  let moment ← Std.Time.DateTime.now
  let now := moment.toTimestamp.toSecondsSinceUnixEpoch.val
  let files ← (here :: own :: directories).foldlM (take depth) (Child.systemFiles now)
  let cwd := (files.find FileSystem.root here).toOption.getD FileSystem.root
  return ⟨files, cwd, ⟨values, accounts⟩, own :: words, .initial, [], ByteArray.empty,
    ByteArray.empty, now, ⟨moment.format "uuuu-MM-dd'T'HH:mm:ssZ", ""⟩⟩

/-- The directories that a configuration names. -/
def directoriesOf (m : Machine) (c : Config) : List String :=
  let e := m.environment
  [c.projectDirectory e, c.binaryDirectory e, c.configDirectory e].filterMap fun p =>
    p.toOption.map Path.toString

/-- The directories that a run with some words may look at. -/
def directoriesFor (m : Machine) (words : List String) : List String :=
  let explicit := match CommandLine.Options.ofWords (CommandLine.split words).1 with
    | .ok options => options.config.join
    | .error _ => none
  match (Config.load Yaml.Document.ofText explicit).run m with
  | .ok c m => directoriesOf m c
  | .error _ m => [(Path.ofString (Config.choosePath explicit m.environment).1).parent.toString]

/-- Whether two nodes are the same to see. -/
def same : Node → Node → Bool
  | .file f, .file g => f.content.toList == g.content.toList && f.modified == g.modified
  | .directory _, .directory _ => true
  | .link a, .link b => a == b
  | .null, .null => true
  | _, _ => false

/-- Carries out what is different now. -/
def carryOut (earlier now : FileSystem) : IO Unit := do
  let entries (fs : FileSystem) := fs.below fs.nodes.size "/" FileSystem.root
  let known := entries earlier
  for (path, node) in entries now do
    if !(known.lookup path).any (same node) then
      match node with
      | .directory _ => try IO.FS.createDir path catch _ => pure ()
      | .file f => IO.FS.writeBinFile path f.content
      | _ => pure ()
  for (path, node) in known do
    if ((entries now).lookup path).isNone then
      match node with
      | .file _ => IO.FS.removeFile path
      | _ => pure ()

/-- Writes what the launcher has written, and gives the status with which it ends. -/
def finish (earlier m : Machine) (status : Int) : IO UInt32 := do
  carryOut earlier.files m.files
  (← IO.getStdout).write m.stdout
  (← IO.getStderr).write m.stderr
  return UInt32.ofNat (status % 256).toNat

/-- Runs the launcher with some words. A failure ends it with status one and is shown. -/
def run (words : List String) : IO UInt32 := do
  let first ← machine words []
  let m ← machine words (directoriesFor first words)
  match (Launch.program Yaml.Document.ofText Child.system .command words).run m with
  | .ok (.code n) m' => finish m m' n
  | .ok (.flag b) m' => finish m m' (if b then 1 else 0)
  | .error (.exit n) m' => finish m m' n
  | .error e m' => finish m (m'.printError (e.message ++ "\n")) 1

end DeviceLauncher.Outside

def main (words : List String) : IO UInt32 := DeviceLauncher.Outside.run words
