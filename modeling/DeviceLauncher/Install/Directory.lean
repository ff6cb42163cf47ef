import DeviceLauncher.Machine
import DeviceLauncher.Path

/-!
# Making directories

`makeAll` makes a directory and those above it that are missing, top down. A directory that is
there already is as good as a new one, anything else in its place is a failure. Directories made
on the way to a failure stay.

`ensureDirectory` is the action that the launcher takes; a dry run only tells of it.
-/

namespace DeviceLauncher.Install

/-- What becomes of a refusal to make a directory: nothing, if there is one. -/
def settle (fs : FileSystem) (cwd : Inode) (p : Path) (r : Refusal) : Option Failure :=
  match r with
  | .nul => some .nul
  | .errno _ =>
    match fs.look cwd p.toString with
    | .error e => some (.os e (.path p.toString))
    | .ok found =>
      if (found.bind fs.directory?).isSome then none else some (.ofRefusal p.toString r)

/-- Makes one directory. -/
def makeOne (fs : FileSystem) (cwd : Inode) (p : Path) : FileSystem × Option Failure :=
  match fs.makeDirectory cwd p.toString with
  | .ok made => (made, none)
  | .error (.errno .notFound) => (fs, some (.ofRefusal p.toString (.errno .notFound)))
  | .error r => (fs, settle fs cwd p r)

/-- Makes a directory and those above it. There is a call for each one that is missing, however many
they are: no limit is set to calls inside each other. -/
def makeAll (fs : FileSystem) (cwd : Inode) (p : Path) : FileSystem × Option Failure :=
  match fs.makeDirectory cwd p.toString with
  | .ok made => (made, none)
  | .error (.errno .notFound) =>
    if p.names.isEmpty then (fs, some (.ofRefusal p.toString (.errno .notFound)))
    else
      match makeAll fs cwd p.parent with
      | (fs, some e) => (fs, some e)
      | (fs, none) => makeOne fs cwd p
  | .error r => (fs, settle fs cwd p r)
termination_by p.names.length
decreasing_by
  cases h : p.names with
  | nil => simp_all
  | cons n ns => simp [Path.parent, h]

/-- Makes a directory and those above it, or fails. -/
def makeDirectories (p : Path) : Action Unit := do
  let m ← get
  let (files, failure) := makeAll m.files m.cwd p
  set { m with files }
  match failure with
  | some e => throw e
  | none => return ()

/-- Sees to it that there is a directory at a path. -/
def ensureDirectory (path : String) (dryRun : Bool) : Action Unit := do
  let p := Path.ofString path
  if dryRun then Action.report (.wouldMakeDirectory p.toString)
  else
    if let some i ← Action.look p then
      let m ← get
      if (m.files.directory? i).isSome then Action.report (.directoryExists p.toString)
    makeDirectories p

end DeviceLauncher.Install
