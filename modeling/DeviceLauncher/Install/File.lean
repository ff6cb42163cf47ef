import DeviceLauncher.Machine
import DeviceLauncher.Path

/-!
# Copying files

A copy has the bytes, the permission bits and the time of its source. It replaces what is at the
target, through symbolic links; if that is a directory, the copy goes into it under the name of
the source. A copy either succeeds or changes nothing.

`installFile` is the action that the launcher takes; a dry run only tells of it.
-/

namespace DeviceLauncher.Install

/-- The path of a name inside a directory. -/
def inside (directory : Path) (name : String) : String :=
  let text := directory.toString
  if text.toList.getLast? = some '/' then text ++ name else text ++ "/" ++ name

/-- The target of a copy: the path given, or the source's name in the directory at that path. -/
def targetOf (fs : FileSystem) (cwd : Inode) (source target : Path) : Target :=
  if fs.hasDirectory cwd target.toString then .inside (inside target source.name)
  else .given target.toString

/-- Copies the file with an inode, which is at the path `source`, to a target. -/
def copyTo (fs : FileSystem) (cwd : Inode) (source : Path) (i : Inode) (f : File) (t : Target)
    (now : Int) : Except Failure FileSystem :=
  if (fs.find cwd t.path).toOption = some i then .error (.sameFile source.toString t)
  else
    match fs.openForWriting cwd t.path now with
    | .error r =>
      let isThere := (fs.find cwd t.path).toBool
      if r = .errno .isDirectory ∧ !isThere then .error (.missingDirectory t.path)
      else .error (.ofRefusal t.path r)
    | .ok (fs, j) => .ok (fs.modifyFile j fun _ => f)

/-- Copies a file over a target. -/
def installFile (source target : String) (dryRun : Bool) : Action Unit := do
  let s := Path.ofString source
  let t := Path.ofString target
  let found ← Action.look s
  let m ← get
  match found.bind fun i => (m.files.file? i).map (i, ·) with
  | none => throw (.missing source)
  | some (i, _) =>
    if dryRun then Action.report (.wouldCopy s.toString t.toString)
    else
      Action.report (.copy s.toString t.toString)
      -- The report may itself have been written into the file that is copied.
      let m ← get
      match m.files.file? i with
      | none => throw (.missing source)
      | some f =>
        let t := targetOf m.files m.cwd s t
        let files ← Action.ofExcept (copyTo m.files m.cwd s i f t m.now)
        set { m with files }

end DeviceLauncher.Install
