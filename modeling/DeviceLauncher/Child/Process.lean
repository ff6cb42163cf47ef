import DeviceLauncher.Child.Run

/-!
# Processes

A `Process` is a child at work: what it finds, what it can read, where its two outputs go, and what
has been written so far. `Image` is what the bytes of a program file say about how to run it: a
script names the program that reads it, and a program of the system is known by its name after a
mark that no text starts with.

`Process.load` goes from a program file to the program of the system that runs in the end, through
the interpreters of scripts.

Processes make up `Child.system`. No theorem rests on them.
-/

namespace DeviceLauncher.Child

/-- Where an output of a process goes. -/
inductive Sink where
  | stdout
  | stderr
  /-- To the process that reads what this one writes. -/
  | pipe
  | file (i : Inode)
  deriving DecidableEq

/-- A child at work. -/
structure Process where
  site : Site
  environment : Environment
  /-- What it can still read. -/
  input : ByteArray
  out : Sink
  err : Sink
  stdout : ByteArray
  stderr : ByteArray
  piped : ByteArray

namespace Process

def files (p : Process) : FileSystem := p.site.files

def setFiles (p : Process) (files : FileSystem) : Process :=
  { p with site := { p.site with files } }

/-- Sends bytes to a sink. -/
def deliver (p : Process) (bytes : ByteArray) : Sink → Process
  | .stdout => { p with stdout := p.stdout ++ bytes }
  | .stderr => { p with stderr := p.stderr ++ bytes }
  | .pipe => { p with piped := p.piped ++ bytes }
  | .file i =>
    if bytes.isEmpty then p else p.setFiles (p.files.append i bytes p.site.now)

def write (p : Process) (text : String) : Process := p.deliver text.toUTF8 p.out

def complain (p : Process) (text : String) : Process := p.deliver text.toUTF8 p.err

/-- The node at a path, links followed, or the answer of the system. -/
def find (p : Process) (path : String) : Except Errno Inode :=
  match p.files.find p.site.cwd path with
  | .ok i => .ok i
  | .error (.errno e) => .error e
  | .error .nul => .error .notFound

end Process

/-- How a program file is run. -/
inductive Image where
  | utility (name : String)
  | script (interpreter : String) (argument : Option String)
  deriving DecidableEq

namespace Image

/-- The bytes at the front of a program of the system. -/
def mark : List UInt8 := [0x7f, 0x45, 0x4c, 0x46]

/-- The longest first line of a script that is looked at. -/
def longestLine : Nat := 253

/-- The bytes of a program of the system. -/
def utilityBytes (name : String) : ByteArray := ⟨mark.toArray⟩ ++ name.toUTF8

def isBlank (c : Char) : Bool := c == ' ' || c == '\t'

/-- The interpreter in the first line of a script, and one argument for it. -/
def ofLine (line : List Char) : Option Image :=
  let words := ((line.dropWhile isBlank).reverse.dropWhile isBlank).reverse
  let interpreter := words.takeWhile (!isBlank ·)
  let argument := (words.dropWhile (!isBlank ·)).dropWhile isBlank
  if interpreter.isEmpty then none
  else some (script (String.ofList interpreter)
    (if argument.isEmpty then none else some (String.ofList argument)))

/-- How the bytes of a file are run, if they are a program at all. -/
def ofBytes (bytes : ByteArray) : Option Image :=
  match bytes.toList with
  | 0x23 :: 0x21 :: rest =>
    ofLine (((rest.take longestLine).takeWhile (· != 0x0a)).map fun b => Char.ofNat b.toNat)
  | bytes =>
    if mark.isPrefixOf bytes then
      (String.fromUTF8? ⟨(bytes.drop mark.length).toArray⟩).map utility
    else none

end Image

/-- A program of the system, and the words with which it is started. -/
structure Loaded where
  name : String
  argv : List String
  deriving DecidableEq

namespace Process

/-- The program file at a path, if it may be run. -/
def image (p : Process) (path : String) : Except Errno Image := do
  let i ← p.find path
  match p.files.file? i with
  | none => throw .accessDenied
  | some f =>
    if f.mode &&& 0o111 = 0 then throw .accessDenied
    else match Image.ofBytes f.content with
      | none => throw .notRunnable
      | some image => return image

/-- What runs in the end for the program file at a path, where so many files are looked at. -/
def loadWithin (p : Process) : Nat → String → List String → Except Errno Loaded
  | 0, _, _ => .error .linkLoop
  | files + 1, path, argv => do
    match ← p.image path with
    | .utility name => return ⟨name, argv⟩
    | .script interpreter argument =>
      p.loadWithin files interpreter ([interpreter] ++ argument.toList ++ [path] ++ argv.tail)

/-- The most program files that are looked at: scripts, each the interpreter of the one before, and
a program of the system. -/
def mostFiles : Nat := 6

/-- What runs in the end for the program file at a path. -/
def load (p : Process) (path : String) (argv : List String) : Except Errno Loaded :=
  p.loadWithin mostFiles path argv

end Process

/-- Where a program of a name may be: at the path that it is, or in the directories listed in the
environment. -/
def candidates (e : Environment) (name : String) : List String :=
  if name.toList.contains '/' then [name]
  else
    let list := (e.get? "PATH").getD "/bin:/usr/bin"
    (list.toList.splitOn ':').map fun directory =>
      if directory.isEmpty then name
      else if directory.getLast? = some '/' then String.ofList directory ++ name
      else String.ofList directory ++ "/" ++ name

/-- What the first candidate that can be run comes to. Otherwise the first refusal that says more
than that nothing is there, else the last one. -/
def firstLoaded (p : Process) (argv : List String) (earlier : Option Errno) (last : Errno) :
    List String → Except Errno Loaded
  | [] => .error (earlier.getD last)
  | path :: rest =>
    match p.load path argv with
    | .ok loaded => .ok loaded
    | .error e =>
      let absent := e = .notFound || e = .notDirectory
      firstLoaded p argv (earlier.or (if absent then none else some e)) e rest

/-- What running some words comes to, the first of which names the program. -/
def loadWords (p : Process) (argv : List String) : Except Errno Loaded :=
  firstLoaded p argv none .notFound (candidates p.environment (argv.head?.getD ""))

end DeviceLauncher.Child
