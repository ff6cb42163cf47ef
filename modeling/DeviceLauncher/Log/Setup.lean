import DeviceLauncher.FileSystem.Canonical
import DeviceLauncher.Install.Directory

/-!
# Setting up the log

`Log.configure` attaches the log's handlers, once: a file if a path is asked for, and the error
stream if that is asked for. Later calls only set the level and give the path in use. A call that
fails has set the level and attached nothing, so the next one tries again.

If the file that is asked for cannot be opened, one in the working directory takes its place.
-/

namespace DeviceLauncher.Log

/-- The name of the log file that takes the place of one that cannot be opened. -/
def fallbackName : String := "ripple-launcher.log"

/-- The failure of asking for a working directory that has been removed. -/
def lostDirectory : Failure := .os .notFound .nothing

/-- The failure of a path without canonical or absolute path. -/
def ofUnresolved : Unresolved → Failure
  | .nul => .nul
  | .lost => lostDirectory
  | .loop p => .linkLoop p.toString

/-- Opens a file to append to it, creating it if need be. -/
def openFile (p : Path) : Action Inode := do
  let m ← get
  let path ← Action.ofExcept ((m.files.absolute m.cwd p).mapError ofUnresolved)
  match m.files.openForWriting m.cwd path.toString m.now with
  | .error r => throw (.ofRefusal path.toString r)
  | .ok (files, i) =>
    set { m with files }
    return i

/-- Opens the file at a path, making the directories above it. -/
def openAt (p : Path) : Action (Inode × String) := do
  Install.makeDirectories p.parent
  return (← openFile p, p.toString)

/-- Opens the file that takes the place of another. -/
def openFallback : Action (Inode × String) := do
  let m ← get
  match m.files.pathOf? m.cwd with
  | none => throw lostDirectory
  | some here =>
    let p := (Path.ofString here).join (Path.ofString fallbackName)
    return (← openFile p, p.toString)

/-- Opens the log file for a path: there, or in the working directory if the system refuses. -/
def openLog (path : String) : Action (Inode × String) := do
  try openAt (Path.ofString path)
  catch e =>
    match e with
    | .os _ _ => openFallback
    | e => throw e

/-- Sets the level of the log, and sets the log up if that has not been done. Gives the path of
the log file in use. -/
def configure (path : Option String) (level : Level) (console : Bool) :
    Action (Option String) := do
  modify fun m => { m with log := { m.log with level } }
  match (← get).log.setup with
  | some path => return path
  | none =>
    let file ← (
      match path with
      | some path => if path.isEmpty then pure none else some <$> openLog path
      | none => pure none)
    let handlers := (file.map fun (i, _) => Handler.file i).toList ++
      (if console then [.console] else [])
    let path := file.map Prod.snd
    modify fun m =>
      { m with log := { m.log with handlers := m.log.handlers ++ handlers, setup := some path } }
    return path

end DeviceLauncher.Log
