import DeviceLauncher.FileSystem.Basic

/-!
# Changes to a file system

The calls that make, write and remove files, directories and links. Each takes the working
directory from which its path is seen and gives the changed file system, or the refusal, and then
nothing is changed. Whoever writes a file says what time it is.
-/

namespace DeviceLauncher.FileSystem

/-- The permission bits of a file that is created by writing to it. -/
def newFileMode : Nat := 0o644

/-- The place at which something new can be put. -/
def freePlace (fs : FileSystem) (cwd : Inode) (path : String) :
    Except Refusal (Inode × String) := do
  match ← fs.locate cwd path .findLink with
  | .node _ => throw (.errno .alreadyThere)
  | .free d name =>
    if (fs.directory? d).any Directory.removed then throw (.errno .notFound) else return (d, name)

/-- Puts a node at a path where there is nothing yet. -/
def putNew (fs : FileSystem) (cwd : Inode) (path : String) (n : Inode → Node) :
    Except Refusal FileSystem := do
  let (d, name) ← fs.freePlace cwd path
  return fs.add d name (n d)

/-- A path without slashes at its end, apart from a leading one. -/
def withoutLastSlash (path : String) : String :=
  match (path.toList.reverse.dropWhile (· == '/')).reverse with
  | [] => path
  | kept => String.ofList kept

/-- Makes a directory. -/
def makeDirectory (fs : FileSystem) (cwd : Inode) (path : String) : Except Refusal FileSystem :=
  fs.putNew cwd (withoutLastSlash path) fun parent => .directory ⟨parent, [], false⟩

/-- Makes a symbolic link. -/
def makeLink (fs : FileSystem) (cwd : Inode) (path target : String) : Except Refusal FileSystem :=
  fs.putNew cwd path fun _ => .link target

/-- Gives a node a name in a directory. -/
def enter (fs : FileSystem) (directory : Inode) (name : String) (i : Inode) : FileSystem :=
  match fs.directory? directory with
  | some d => fs.set directory (.directory { d with entries := d.entries ++ [(name, i)] })
  | none => fs

/-- Gives a file a second name. -/
def makeHardLink (fs : FileSystem) (cwd : Inode) (path existing : String) :
    Except Refusal FileSystem := do
  let i ← fs.findLink cwd existing
  let (d, name) ← fs.freePlace cwd path
  return fs.enter d name i

/-- The node that is written to at a path. A file that is not there is created, also where a link
leads; a directory cannot be written. -/
def openForWriting (fs : FileSystem) (cwd : Inode) (path : String) (now : Int) :
    Except Refusal (FileSystem × Inode) := do
  match ← fs.locate cwd path .create with
  | .node i => if (fs.directory? i).isSome then throw (.errno .isDirectory) else return (fs, i)
  | .free d name =>
    if (fs.directory? d).any Directory.removed then throw (.errno .notFound)
    else return (fs.add d name (.file ⟨ByteArray.empty, newFileMode, now⟩), fs.nodes.size)

/-- Changes a file; what is no file stays as it is. -/
def modifyFile (fs : FileSystem) (i : Inode) (change : File → File) : FileSystem :=
  match fs.file? i with
  | some f => fs.set i (.file (change f))
  | none => fs

theorem modifyFile_of_file? {fs : FileSystem} {i : Inode} {f : File} (change : File → File)
    (h : fs.file? i = some f) : fs.modifyFile i change = fs.set i (.file (change f)) := by
  simp [modifyFile, h]

theorem modifyFile_of_not_file {fs : FileSystem} {i : Inode} (change : File → File)
    (h : fs.file? i = none) : fs.modifyFile i change = fs := by
  simp [modifyFile, h]

@[simp]
theorem file?_modifyFile_self (fs : FileSystem) (i : Inode) (change : File → File) :
    (fs.modifyFile i change).file? i = (fs.file? i).map change := by
  cases h : fs.file? i with
  | none => rw [modifyFile_of_not_file change h, h]; rfl
  | some f =>
    have hi := lt_size_of_node? (node?_of_file? h)
    rw [modifyFile_of_file? change h, file?, node?_set_self fs _ hi]
    rfl

/-- Changing a file leaves the other nodes as they are. -/
theorem node?_modifyFile_of_ne (fs : FileSystem) {i j : Inode} (change : File → File)
    (h : j ≠ i) : (fs.modifyFile i change).node? j = fs.node? j := by
  unfold modifyFile
  split
  · exact node?_set_of_ne fs _ h
  · rfl

/-- Changing a file leaves all directories as they are. -/
@[simp]
theorem directory?_modifyFile (fs : FileSystem) (i j : Inode) (change : File → File) :
    (fs.modifyFile i change).directory? j = fs.directory? j := by
  by_cases hj : j = i
  · subst hj
    cases h : fs.file? j with
    | none => rw [modifyFile_of_not_file change h]
    | some f =>
      have hn := node?_of_file? h
      rw [modifyFile_of_file? change h, directory?, directory?, hn,
        node?_set_self fs _ (lt_size_of_node? hn)]
  · rw [directory?, directory?, node?_modifyFile_of_ne fs change hj]

/-- Replaces the bytes of a file. -/
def overwrite (fs : FileSystem) (i : Inode) (content : ByteArray) (now : Int) : FileSystem :=
  fs.modifyFile i fun f => { f with content, modified := now }

/-- Adds bytes at the end of a file. -/
def append (fs : FileSystem) (i : Inode) (bytes : ByteArray) (now : Int) : FileSystem :=
  fs.modifyFile i fun f => { f with content := f.content ++ bytes, modified := now }

/-- The bytes that reading a node gives. -/
def read (fs : FileSystem) (i : Inode) : Except Errno ByteArray :=
  match fs.node? i with
  | some (.file f) => .ok f.content
  | some (.directory _) => .error .isDirectory
  | _ => .ok ByteArray.empty

/-- Takes a name out of a directory. -/
def unname (fs : FileSystem) (directory : Inode) (name : String) : FileSystem :=
  match fs.directory? directory with
  | some d => fs.set directory (.directory { d with entries := d.entries.filter (·.1 != name) })
  | none => fs

/-- Marks a directory and all below it as removed. -/
def markRemoved : Nat → FileSystem → Inode → FileSystem
  | 0, fs, _ => fs
  | fuel + 1, fs, i =>
    match fs.directory? i with
    | none => fs
    | some d =>
      let fs := fs.set i (.directory { d with entries := [], removed := true })
      d.entries.foldl (fun fs entry => markRemoved fuel fs entry.2) fs

/-- The directory and the name by which a path is known there. -/
def named (fs : FileSystem) (cwd : Inode) (path : String) :
    Except Refusal (Inode × String × Inode) := do
  let path := withoutLastSlash path
  let route := Route.ofString path
  let i ← fs.findLink cwd path
  match route.names.getLast? with
  | none => throw (.errno .isDirectory)
  | some name =>
    let above := route.names.dropLast
    let start := if route.absolute then root else cwd
    match fs.walk .find mostLinks start above with
    | .ok (.node d) => return (d, name, i)
    | .ok (.free _ _) => throw (.errno .notFound)
    | .error e => throw (.errno e)

/-- Removes a file or link, or a directory with all below it. -/
def remove (fs : FileSystem) (cwd : Inode) (path : String) : Except Refusal FileSystem := do
  let (d, name, i) ← fs.named cwd path
  return markRemoved fs.nodes.size (fs.unname d name) i

/-- All entries below a directory, with their paths from it. -/
def below (fs : FileSystem) : Nat → String → Inode → List (String × Node)
  | 0, _, _ => []
  | fuel + 1, path, i =>
    match fs.directory? i with
    | none => []
    | some d => d.entries.flatMap fun (name, j) =>
      match fs.node? j with
      | none => []
      | some n => (path ++ name, n) :: below fs fuel (path ++ name ++ "/") j

end DeviceLauncher.FileSystem
