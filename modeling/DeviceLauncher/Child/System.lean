import DeviceLauncher.Child.Shell.Run

/-!
# Children on the system

`system` is how children behave on a machine with a shell and the small programs of
`Child.Utility`. A child is not started if one of its words or variables cannot be handed over,
its directory is not there, or no program of its name may be run.

`systemFiles` is a file system with these programs in it.

All this is for the command line, where there have to be some children. What is proved about the
launcher holds for any `Child.Behaviour`, and no theorem rests on this one, on `Child.Process`, or
on the modules of `Child.Shell` and `Child.Utility`.
-/

namespace DeviceLauncher.Child

/-- The longest word or variable that can be handed to a program, in bytes. -/
def longestWord : Nat := 131071

/-- How deep programs can start each other, and how long scripts can be. -/
def systemFuel : Nat := 10000

/-- Why what a child is started with cannot be handed over at all. -/
def checkStart (start : Start) : Except Failure Unit :=
  let texts := start.argv ++ start.directory.toList ++
    start.environment.entries.flatMap fun (name, value) => [name, value]
  if start.argv.isEmpty then .error .emptyCommand
  else if start.environment.entries.any fun (name, _) => name.toList.contains '=' then
    .error .variableName
  else if texts.any fun s => s.toList.contains '\x00' then .error .nul
  else .ok ()

/-- The directory that a child runs in. -/
def startDirectory (start : Start) (site : Site) : Except Failure Inode :=
  match start.directory with
  | none => .ok site.cwd
  | some path =>
    match site.files.find site.cwd path with
    | .error r => .error (.ofRefusal path r)
    | .ok i =>
      if (site.files.directory? i).isSome then .ok i
      else .error (.os .notDirectory (.path path))

/-- Whether some word or variable is too long for a program. -/
def isTooLong (start : Start) : Bool :=
  let texts := start.argv ++ start.environment.entries.map fun (name, value) => name ++ "=" ++ value
  texts.any fun s => longestWord < s.utf8ByteSize

/-- The program that a process is to run, which is where the child starts. -/
def startProgram (start : Start) (p : Process) : Except Failure Loaded :=
  let name := start.argv.head?.getD ""
  match loadWords p start.argv with
  | .error e => .error (.os e (.path name))
  | .ok program =>
    if isTooLong start then .error (.os .listTooLong (.path name)) else .ok program

/-- How children behave on a machine with the programs of the system. -/
def system : Behaviour := fun start site =>
  let started : Except Failure (Process × Loaded) := do
    checkStart start
    let cwd ← startDirectory start site
    let none := ByteArray.empty
    let p : Process :=
      ⟨{ site with cwd }, start.environment, none, .stdout, .stderr, none, none, none⟩
    return (p, ← startProgram start p)
  match started with
  | .error e => (.error e, site.files)
  | .ok (p, program) =>
    let (p, code) := Shell.runLoaded systemFuel program p
    (.ok ⟨code, p.stdout, p.stderr⟩, p.files)

/-- Makes a directory where that is possible. -/
def withDirectory (fs : FileSystem) (path : String) : FileSystem :=
  (fs.makeDirectory FileSystem.root path).toOption.getD fs

/-- A file system that holds the programs of the system and nothing else. -/
def systemFiles (now : Int) : FileSystem :=
  let fs := ["/usr", "/usr/bin", "/dev", "/tmp"].foldl withDirectory FileSystem.empty
  let fs := (fs.makeLink FileSystem.root "/bin" "usr/bin").toOption.getD fs
  let fs := match fs.find FileSystem.root "/dev" with
    | .ok i => fs.add i "null" .null
    | .error _ => fs
  match fs.find FileSystem.root "/usr/bin" with
  | .ok i => Utility.names.foldl (fun fs name =>
      fs.add i name (.file ⟨Image.utilityBytes name, 0o755, now⟩)) fs
  | .error _ => fs

end DeviceLauncher.Child
