import DeviceLauncher.Child.Process

/-!
# Programs that work on files

Each takes its words without its name and the process that it runs in, and gives the process
afterwards and a status.
-/

namespace DeviceLauncher.Child.Utility

/-- A program: its words without its name, and the process that it runs in. -/
abbrev Body := List String → Process → Process × Nat

/-- The answer of the system in a refusal. -/
def answerOf : Refusal → Errno
  | .errno e => e
  | .nul => .notFound

/-- A complaint of a program about one of its words, with the answer of the system. -/
def refuse (program what path : String) (e : Errno) (p : Process) : Process :=
  p.complain s!"{program}: {what}{path}: {e.text}\n"

/-- A path between quotes, as complaints show it. -/
def shown (path : String) : String := "'" ++ path ++ "'"

/-- Does something for each word, with status 1 if it fails for any. -/
def forEach (words : List String) (act : String → Process → Process × Bool) (p : Process) :
    Process × Nat :=
  words.foldl (fun (p, status) word =>
    let (p, good) := act word p
    (p, if good then status else 1)) (p, 0)

/-- Words that start with a hyphen, as letters, and the others. -/
def letters (words : List String) : List Char × List String :=
  let isOption (w : String) : Bool := w.toList.head? == some '-' && w != "-"
  ((words.filter isOption).flatMap fun w => w.toList.drop 1, words.filter (!isOption ·))

/-- The bytes of a file, or, for `-`, what can be read. -/
def bytesOf (p : Process) (word : String) : Except Errno (ByteArray × Process) :=
  if word == "-" then .ok (p.input, { p with input := ByteArray.empty })
  else do
    let i ← p.find word
    return (← p.files.read i, p)

def cat : Body := fun words p =>
  forEach (if words.isEmpty then ["-"] else words) (fun word p =>
    match bytesOf p word with
    | .error e => (refuse "cat" "" word e p, false)
    | .ok (bytes, p) => (p.deliver bytes p.out, true)) p

/-- The names in a directory in order, without those that start with a dot. -/
def namesIn (d : Directory) (hidden : Bool) : List String :=
  let names := d.entries.map Prod.fst
  (if hidden then names else names.filter fun n => n.toList.head? != some '.').mergeSort (· ≤ ·)

/-- The lines for the names in a directory. -/
def listing (options : List Char) (d : Directory) : String :=
  let own := if options.contains 'a' then [".", ".."] else []
  let names := own ++ namesIn d (options.contains 'a' || options.contains 'A')
  String.join (names.map (· ++ "\n"))

/-- Lists files first and directories after them, each directory under its name if there are
several words. -/
def ls : Body := fun words p =>
  let (options, words) := letters words
  let words := if words.isEmpty then ["."] else words.mergeSort (· ≤ ·)
  let found := words.map fun word => (word, p.find word)
  let p := found.foldl (fun (p : Process) (word, place) => match place with
    | .error e => p.complain s!"ls: cannot access {shown word}: {e.text}\n"
    | .ok _ => p) p
  let there := found.filterMap fun (word, place) => place.toOption.map (word, ·)
  let isDirectory (i : Inode) : Bool := (p.files.directory? i).isSome && !options.contains 'd'
  let files := there.filter fun (_, i) => !isDirectory i
  let directories := there.filterMap fun (word, i) =>
    if isDirectory i then (p.files.directory? i).map (word, ·) else none
  let blocks := (if files.isEmpty then [] else [String.join (files.map fun f => f.1 ++ "\n")]) ++
    directories.map fun (word, d) =>
      (if words.length = 1 then "" else word ++ ":\n") ++ listing options d
  (p.write ("\n".intercalate blocks), if there.length = found.length then 0 else 2)

def rm : Body := fun words p =>
  let (options, words) := letters words
  let deep := options.contains 'r' || options.contains 'R'
  forEach words (fun word p =>
    let last := ((Route.ofString word).names.filter (· != "")).getLast?
    if last = some "." ∨ last = some ".." then
      (p.complain s!"rm: refusing to remove '.' or '..' directory: skipping {shown word}\n", false)
    else match p.files.findLink p.site.cwd word with
      | .error r =>
        let e := answerOf r
        if options.contains 'f' && (e = .notFound || e = .notDirectory) then (p, true)
        else (refuse "rm" "cannot remove " (shown word) e p, false)
      | .ok i =>
        if (p.files.directory? i).isSome && !deep then
          (refuse "rm" "cannot remove " (shown word) .isDirectory p, false)
        else match p.files.remove p.site.cwd word with
          | .ok files => (p.setFiles files, true)
          | .error _ => (refuse "rm" "cannot remove " (shown word) .accessDenied p, false)) p

/-- The paths to a path, the shortest one first. -/
def pathsTo (path : String) : List String :=
  let absolute := path.toList.head? == some '/'
  let names := (Route.ofString path).names.filter (· != "")
  (List.range names.length).map fun n =>
    (if absolute then "/" else "") ++ "/".intercalate (names.take (n + 1))

def mkdir : Body := fun words p =>
  let (options, words) := letters words
  let make (path : String) (p : Process) : Process × Option Errno :=
    match p.files.makeDirectory p.site.cwd path with
    | .ok files => (p.setFiles files, none)
    | .error r => (p, some (answerOf r))
  forEach words (fun word p =>
    let (p, error) :=
      if options.contains 'p' then (pathsTo word).foldl (fun (p, error) path =>
        match error with
        | some e => (p, some e)
        | none =>
          let (p, error) := make path p
          (p, if p.files.hasDirectory p.site.cwd path then none else error)) (p, none)
      else make word p
    match error with
    | none => (p, true)
    | some e => (p.complain s!"mkdir: cannot create directory ‘{word}’: {e.text}\n", false)) p

def touch : Body := fun words p =>
  forEach words (fun word p =>
    match p.find word with
    | .ok i => (p.setFiles (p.files.modifyFile i fun f => { f with modified := p.site.now }), true)
    | .error _ =>
      match p.files.openForWriting p.site.cwd word p.site.now with
      | .ok (files, _) => (p.setFiles files, true)
      | .error r => (refuse "touch" "cannot touch " (shown word) (answerOf r) p, false)) p

/-- The path itself, or, if there is a directory, that of a name in it. -/
def intoDirectory (p : Process) (path name : String) : String :=
  if p.files.hasDirectory p.site.cwd path then path ++ "/" ++ name else path

/-- The last name of a path. -/
def lastName (path : String) : String :=
  ((Route.ofString path).names.filter (· != "")).getLast?.getD "/"

/-- Copies one file; with `-p` its permission bits and its time too. -/
def cp : Body := fun words p =>
  let (options, words) := letters words
  match words with
  | [source, target] =>
    match p.find source with
    | .error e => (refuse "cp" "cannot stat " (shown source) e p, 1)
    | .ok i =>
      match p.files.file? i with
      | none =>
        (p.complain s!"cp: -r not specified; omitting directory {shown source}\n", 1)
      | some f =>
        let path := intoDirectory p target (lastName source)
        let isNew := (p.find path).toOption.isNone
        match p.files.openForWriting p.site.cwd path p.site.now with
        | .error r =>
          (refuse "cp" "cannot create regular file " (shown path) (answerOf r) p, 1)
        | .ok (files, j) =>
          if i = j then (p.complain s!"cp: {shown source} and {shown path} are the same file\n", 1)
          else
            let mode (g : File) : Nat := if isNew then f.mode &&& 0o755 else g.mode
            let keep := options.contains 'p'
            (p.setFiles (files.modifyFile j fun g =>
              if keep then f else ⟨f.content, mode g, p.site.now⟩), 0)
  | _ => (p.complain "cp: missing file operand\n", 1)

/-- Gives one file another name. -/
def mv : Body := fun words p =>
  match (letters words).2 with
  | [source, target] =>
    let path := intoDirectory p target (lastName source)
    let moved : Except Refusal FileSystem := do
      let (d, name, i) ← p.files.named p.site.cwd source
      let files := match p.files.remove p.site.cwd path with
        | .ok files => files
        | .error _ => p.files
      let (d', name') ← files.freePlace p.site.cwd path
      let files := match files.directory? i with
        | some found => files.set i (.directory { found with parent := d' })
        | none => files
      return (files.unname d name).enter d' name' i
    match moved with
    | .ok files => (p.setFiles files, 0)
    | .error r => (refuse "mv" "cannot stat " (shown source) (answerOf r) p, 1)
  | _ => (p.complain "mv: missing file operand\n", 1)

/-- Makes a symbolic link with `-s`, else a second name of a file. -/
def ln : Body := fun words p =>
  let (options, words) := letters words
  match words with
  | [source, target] =>
    let path := intoDirectory p target (lastName source)
    let files := if options.contains 'f' then
      (p.files.remove p.site.cwd path).toOption.getD p.files else p.files
    let isSymbolic := options.contains 's'
    let made := if isSymbolic then files.makeLink p.site.cwd path source
      else files.makeHardLink p.site.cwd path source
    match made with
    | .ok files => (p.setFiles files, 0)
    | .error r =>
      let what := if isSymbolic then "failed to create symbolic link " else
        "failed to create hard link "
      (refuse "ln" what (shown path) (answerOf r) p, 1)
  | _ => (p.complain "ln: missing file operand\n", 1)

/-- The permission bits that a mode gives in place of some: octal digits, or `+x` and the like for
everyone. -/
def newMode? (mode : String) (bits : Nat) : Option Nat :=
  let letters (cs : List Char) : Nat :=
    cs.foldl (fun n c => n ||| (([('r', 0o444), ('w', 0o200), ('x', 0o111)].lookup c).getD 0)) 0
  let cs := mode.toList
  if !cs.isEmpty && cs.all fun c => '0' ≤ c && c ≤ '7' then
    some (cs.foldl (fun n c => 8 * n + (c.toNat - '0'.toNat)) 0)
  else match cs.dropWhile fun c => c == 'a' || c == 'u' with
    | '+' :: more => some (bits ||| letters more)
    | '-' :: less => some (bits &&& (0o7777 ^^^ letters less))
    | _ => none

def chmod : Body := fun words p =>
  match words with
  | mode :: paths =>
    forEach paths (fun path p =>
      match p.find path with
      | .error e => (refuse "chmod" "cannot access " (shown path) e p, false)
      | .ok i =>
        (p.setFiles (p.files.modifyFile i fun f =>
          { f with mode := (newMode? mode f.mode).getD f.mode }), true)) p
  | [] => (p.complain "chmod: missing operand\n", 1)

end DeviceLauncher.Child.Utility
