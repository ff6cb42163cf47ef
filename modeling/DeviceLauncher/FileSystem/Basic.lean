import DeviceLauncher.FileSystem.Refusal

/-!
# File systems

A file system is an array of nodes; the index of a node is its inode, and node 0 is the root.
Directories name inodes, so a file can have several names (hard links), and a node whose last name
is gone stays in the array without being reached. Owners, and times of directories, are left out;
so are pipes and sockets with a name, and that a program cannot be written while it runs.

`FileSystem.walk` follows the names of a path as the operating system does: through symbolic
links, forty at most, and up at `..` from wherever a link has led. It ends at a `Place`: a node,
or a name that is free in a directory. All access by path goes through `locate`.
-/

namespace DeviceLauncher

abbrev Inode := Nat

/-- A regular file. -/
structure File where
  content : ByteArray
  /-- Permission bits. -/
  mode : Nat
  /-- The time of the last change, in seconds. -/
  modified : Int

/-- A directory: where `..` leads, and the names in it. A removed directory may still be someone's
working directory, but takes no new names. -/
structure Directory where
  parent : Inode
  entries : List (String × Inode)
  removed : Bool
  deriving DecidableEq

/-- What an inode is. These kinds are all that there is. -/
inductive Node where
  | file (f : File)
  | directory (d : Directory)
  | link (target : String)
  /-- The device that is always empty and forgets what is written to it. -/
  | null

structure FileSystem where
  nodes : Array Node

/-- A path as the system reads it: from the root or not, and the names. `.` and `..` are names;
a slash at the end counts as an empty name after it. -/
structure Route where
  absolute : Bool
  names : List String
  deriving DecidableEq

/-- The parts of a text between its slashes, empty ones among them. -/
def textParts (text : String) : List String := (text.toList.splitOn '/').map String.ofList

def Route.ofString (path : String) : Route :=
  let names := (textParts path).filter (· != "")
  let slashLast := path.toList.getLast? = some '/' && !names.isEmpty
  ⟨path.toList.head? = some '/', if slashLast then names ++ [""] else names⟩

/-- What a path is followed for. -/
inductive Purpose where
  /-- For what is there. -/
  | find
  /-- For what is there, be it a link. -/
  | findLink
  /-- To create a file if there is none. No slash may follow its name. -/
  | create
  deriving DecidableEq

/-- Where a path leads. -/
inductive Place where
  | node (i : Inode)
  /-- A name that is free in a directory. -/
  | free (directory : Inode) (name : String)
  deriving DecidableEq

/-- The name that a directory has for an inode. -/
def Directory.nameOf? (d : Directory) (i : Inode) : Option String :=
  (d.entries.find? (·.2 == i)).map Prod.fst

namespace FileSystem

/-- The inode of the root directory. -/
def root : Inode := 0

/-- The most symbolic links on the way of one path. -/
def mostLinks : Nat := 40

/-- The longest name, and the length that a path stays below, in bytes. -/
def longestName : Nat := 255

def pathLimit : Nat := 4096

/-- The file system with nothing but the root directory. -/
def empty : FileSystem := ⟨#[.directory ⟨root, [], false⟩]⟩

def node? (fs : FileSystem) (i : Inode) : Option Node := fs.nodes[i]?

def directory? (fs : FileSystem) (i : Inode) : Option Directory :=
  match fs.node? i with
  | some (.directory d) => some d
  | _ => none

def file? (fs : FileSystem) (i : Inode) : Option File :=
  match fs.node? i with
  | some (.file f) => some f
  | _ => none

def link? (fs : FileSystem) (i : Inode) : Option String :=
  match fs.node? i with
  | some (.link target) => some target
  | _ => none

theorem directory?_eq_some_iff {fs : FileSystem} {i : Inode} {d : Directory} :
    fs.directory? i = some d ↔ fs.node? i = some (.directory d) := by
  unfold directory?
  split <;> simp_all

theorem file?_eq_some_iff {fs : FileSystem} {i : Inode} {f : File} :
    fs.file? i = some f ↔ fs.node? i = some (.file f) := by
  unfold file?
  split <;> simp_all

theorem link?_eq_some_iff {fs : FileSystem} {i : Inode} {target : String} :
    fs.link? i = some target ↔ fs.node? i = some (.link target) := by
  unfold link?
  split <;> simp_all

theorem lt_size_of_node? {fs : FileSystem} {i : Inode} {n : Node} (h : fs.node? i = some n) :
    i < fs.nodes.size := by
  obtain ⟨hi, -⟩ := Array.getElem?_eq_some_iff.1 h
  exact hi

theorem node?_of_file? {fs : FileSystem} {i : Inode} {f : File} (h : fs.file? i = some f) :
    fs.node? i = some (.file f) := file?_eq_some_iff.1 h

/-- There is a node at an inode if and only if it is below the size. -/
theorem exists_node?_iff {fs : FileSystem} {i : Inode} :
    (∃ n, fs.node? i = some n) ↔ i < fs.nodes.size := by
  constructor
  · rintro ⟨n, h⟩
    exact lt_size_of_node? h
  · intro h
    exact ⟨fs.nodes[i], Array.getElem?_eq_getElem h⟩

/-- Replaces a node. -/
def set (fs : FileSystem) (i : Inode) (n : Node) : FileSystem := ⟨fs.nodes.setIfInBounds i n⟩

@[simp]
theorem size_set (fs : FileSystem) (i : Inode) (n : Node) :
    (fs.set i n).nodes.size = fs.nodes.size := by
  simp [set]

theorem node?_set_self (fs : FileSystem) {i : Inode} (n : Node) (h : i < fs.nodes.size) :
    (fs.set i n).node? i = some n := by
  simp [node?, set, h]

/-- Replacing a node leaves the others as they are. -/
theorem node?_set_of_ne (fs : FileSystem) {i j : Inode} (n : Node) (h : j ≠ i) :
    (fs.set i n).node? j = fs.node? j := by
  simp [node?, set, Array.getElem?_setIfInBounds_ne h.symm]

/-- Adds a node under a name of a directory. -/
def add (fs : FileSystem) (directory : Inode) (name : String) (n : Node) : FileSystem :=
  match fs.directory? directory with
  | none => fs
  | some d =>
    let named := { d with entries := d.entries ++ [(name, fs.nodes.size)] }
    ⟨(fs.nodes.setIfInBounds directory (.directory named)).push n⟩

section Add

variable {fs : FileSystem} {directory : Inode} {d : Directory}

theorem add_of_directory? (name : String) (n : Node) (h : fs.directory? directory = some d) :
    fs.add directory name n =
      ⟨(fs.nodes.setIfInBounds directory
        (.directory { d with entries := d.entries ++ [(name, fs.nodes.size)] })).push n⟩ := by
  simp [add, h]

theorem size_add (name : String) (n : Node) (h : fs.directory? directory = some d) :
    (fs.add directory name n).nodes.size = fs.nodes.size + 1 := by
  simp [add_of_directory? name n h]

/-- The node that is added has the next inode. -/
theorem node?_add_size (name : String) (n : Node) (h : fs.directory? directory = some d) :
    (fs.add directory name n).node? fs.nodes.size = some n := by
  rw [add_of_directory? name n h, node?, Array.getElem?_push]
  simp

/-- The directory in which a node is added gets the name. -/
theorem node?_add_directory (name : String) (n : Node) (h : fs.directory? directory = some d) :
    (fs.add directory name n).node? directory =
      some (.directory { d with entries := d.entries ++ [(name, fs.nodes.size)] }) := by
  have hi := lt_size_of_node? (directory?_eq_some_iff.1 h)
  rw [add_of_directory? name n h, node?, Array.getElem?_push]
  simp [hi, Nat.ne_of_lt hi]

/-- Adding a node leaves the nodes as they are, apart from the directory. -/
theorem node?_add_of_ne (name : String) (n : Node) (h : fs.directory? directory = some d)
    {i : Inode} (hi : i ≠ directory) (hs : i ≠ fs.nodes.size) :
    (fs.add directory name n).node? i = fs.node? i := by
  rw [add_of_directory? name n h, node?, Array.getElem?_push]
  simp [hs, Array.getElem?_setIfInBounds_ne hi.symm, node?]

end Add

/-- Follows names from a directory. -/
def walk (fs : FileSystem) (purpose : Purpose) (links : Nat) (here : Inode)
    (names : List String) : Except Errno Place :=
  match names with
  | [] => .ok (.node here)
  | name :: rest =>
    match fs.directory? here with
    | none => .error .notDirectory
    | some d =>
      if name = "" ∨ name = "." then walk fs purpose links here rest
      else if name = ".." then walk fs purpose links d.parent rest
      else if purpose = .create ∧ rest = [""] then .error .isDirectory
      else if longestName < name.utf8ByteSize then .error .nameTooLong
      else
        match d.entries.lookup name with
        | none => if rest.isEmpty then .ok (.free here name) else .error .notFound
        | some i =>
          match fs.link? i with
          | none => walk fs purpose links i rest
          | some target =>
            if rest.isEmpty ∧ purpose = .findLink then .ok (.node i)
            else
              match links with
              | 0 => .error .linkLoop
              | links + 1 =>
                let route := Route.ofString target
                let start := if route.absolute then root else here
                walk fs purpose links start (route.names ++ rest)
termination_by (links, names.length)

/-- Where a path leads, seen from a working directory. -/
def locate (fs : FileSystem) (cwd : Inode) (path : String) (purpose : Purpose) :
    Except Refusal Place :=
  if path.toList.contains '\x00' then .error .nul
  else if path.isEmpty then .error (.errno .notFound)
  else if pathLimit ≤ path.utf8ByteSize then .error (.errno .nameTooLong)
  else
    let route := Route.ofString path
    let start := if route.absolute then root else cwd
    (fs.walk purpose mostLinks start route.names).mapError .errno

/-- The node that a place has to hold. -/
def Place.inode : Place → Except Refusal Inode
  | .node i => .ok i
  | .free _ _ => .error (.errno .notFound)

/-- The node at a path, links followed. -/
def find (fs : FileSystem) (cwd : Inode) (path : String) : Except Refusal Inode := do
  Place.inode (← fs.locate cwd path .find)

/-- The node at a path, the last name not followed. -/
def findLink (fs : FileSystem) (cwd : Inode) (path : String) : Except Refusal Inode := do
  Place.inode (← fs.locate cwd path .findLink)

/-- The node at a path if there is one. Only a path that the system will not look at is refused. -/
def look (fs : FileSystem) (cwd : Inode) (path : String) : Except Errno (Option Inode) :=
  match fs.find cwd path with
  | .ok i => .ok (some i)
  | .error .nul => .ok none
  | .error (.errno e) => if e.meansAbsent then .ok none else .error e

/-- Whether there is a directory at a path. -/
def hasDirectory (fs : FileSystem) (cwd : Inode) (path : String) : Bool :=
  match fs.find cwd path with
  | .ok i => (fs.directory? i).isSome
  | .error _ => false

/-- The names from the root down to a directory, in front of names below it. A removed directory
has none. -/
def namesTo (fs : FileSystem) : Nat → Inode → List String → Option (List String)
  | 0, _, _ => none
  | fuel + 1, i, below =>
    if i = root then some below
    else do
      let d ← fs.directory? i
      if d.removed then none
      let above ← fs.directory? d.parent
      namesTo fs fuel d.parent ((← above.nameOf? i) :: below)

/-- The path of a directory from the root, if it still has one. -/
def pathOf? (fs : FileSystem) (i : Inode) : Option String :=
  (fs.namesTo (fs.nodes.size + 1) i []).map fun names => "/" ++ "/".intercalate names

end FileSystem

end DeviceLauncher
