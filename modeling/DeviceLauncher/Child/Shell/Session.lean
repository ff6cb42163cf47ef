import DeviceLauncher.Child.Shell.Command
import DeviceLauncher.Child.Utility

/-!
# A shell at work

A `Session` is a shell at work on a process: its variables, its own words, and how the last command
ended. This module holds what needs no other program: the values of parameters, the fields that
words become, the commands of the shell itself, and redirections.
-/

namespace DeviceLauncher.Child.Shell

/-- A shell at work. -/
structure Session where
  process : Process
  /-- Variables that programs started from here do not see. -/
  own : Environment
  /-- The name of the shell or script, and its words. -/
  name : String
  words : List String
  /-- The path by which the shell knows its working directory. -/
  directory : String
  /-- The line of the command that runs. -/
  line : Nat
  /-- The status of the last command. -/
  status : Nat
  /-- Whether a bad status ends the shell. -/
  strict : Bool
  /-- How the shell has ended, once it has: a status, or a signal, negated. -/
  ended : Option Int

namespace Session

/-- The number by which a process is known to itself. -/
def processId : Nat := 4242

/-! ## Parameters -/

def value? (s : Session) (name : String) : Option String :=
  match name with
  | "@" | "*" => some (" ".intercalate s.words)
  | "#" => some (toString s.words.length)
  | "?" => some (toString s.status)
  | "$" => some (toString processId)
  | "0" => some s.name
  | "IFS" => some ((s.own.get? name).getD " \t\n")
  | name =>
    match name.toList with
    | c :: _ =>
      if c.isDigit then s.words[c.toNat - '1'.toNat]?
      else (s.own.get? name).or (s.process.environment.get? name)
    | [] => none

/-- The value of a parameter, or what takes its place. -/
def parameter (s : Session) (name : String) (alternative : Alternative) : String :=
  match s.value? name, alternative with
  | none, .absent t | none, .empty t => t
  | none, _ => ""
  | some v, .empty t => if v.isEmpty then t else v
  | some _, .present t => t
  | some v, _ => v

/-- Sets a variable for programs too. -/
def setExported (s : Session) (name value : String) : Session :=
  { s with
    process := { s.process with environment := s.process.environment.set name value }
    own := s.own.unset name }

/-- Sets a variable: for programs too if it is already set for them. -/
def setVariable (s : Session) (name value : String) : Session :=
  if (s.process.environment.get? name).isSome then s.setExported name value
  else { s with own := s.own.set name value }

/-- A complaint of the shell. -/
def complain (s : Session) (text : String) : Session :=
  { s with process := s.process.complain s!"{s.name}: {s.line}: {text}\n" }

/-! ## Fields -/

/-- Whether an expansion is split at the character. -/
def isSeparator (c : Char) : Bool := c == ' ' || c == '\t' || c == '\n'

/-- Adds a text to the field that is being built. -/
def extend (field : Option String) (text : String) : Option String := some (field.getD "" ++ text)

/-- Adds an unquoted value, which ends fields where it has separators. -/
def addSplit : List Char → List String → Option String → List String × Option String
  | [], done, field => (done, field)
  | c :: rest, done, field =>
    if isSeparator c then addSplit rest (done ++ field.toList) none
    else addSplit rest done (extend field (String.singleton c))

/-- The fields that the parts of a word become, after some and one that is being built. All words of
the shell between quotes become no field if there are none. -/
def fieldsAfter (s : Session) : Word → List String → Option String → List String
  | [], done, field => done ++ field.toList
  | .text true "" :: .parameter true "@" alternative :: rest, done, field =>
    let field := if s.words.isEmpty then field else extend field ""
    fieldsAfter s (.parameter true "@" alternative :: rest) done field
  | .text _ t :: rest, done, field | .value true t :: rest, done, field =>
    fieldsAfter s rest done (extend field t)
  | .value false t :: rest, done, field =>
    let (done, field) := addSplit t.toList done field
    fieldsAfter s rest done field
  | .output _ _ :: rest, done, field => fieldsAfter s rest done field
  | .parameter true "@" _ :: rest, done, field =>
    match s.words with
    | [] => fieldsAfter s rest done field
    | [w] => fieldsAfter s rest done (extend field w)
    | first :: more =>
      fieldsAfter s rest (done ++ (extend field first).toList ++ more.dropLast) more.getLast?
  | .parameter true name alternative :: rest, done, field =>
    fieldsAfter s rest done (extend field (s.parameter name alternative))
  | .parameter false name alternative :: rest, done, field =>
    let (done, field) := addSplit (s.parameter name alternative).toList done field
    fieldsAfter s rest done field

/-- A word with the home directory in place of `~` at its front. -/
def withHome (s : Session) : Word → Word
  | .text false "~" :: rest =>
    let isAlone := match rest with
      | [] | .text false "/" :: _ => true
      | _ => false
    if isAlone then .text true (s.parameter "HOME" .none) :: rest else .text false "~" :: rest
  | w => w

/-- The fields that a word becomes. -/
def fieldsOf (s : Session) (w : Word) : List String := s.fieldsAfter (s.withHome w) [] none

/-- The text of a word that is not split. -/
def textOf (s : Session) (w : Word) : String :=
  String.join ((s.withHome w).map fun part => match part with
    | .text _ t | .value _ t => t
    | .output _ _ => ""
    | .parameter _ name alternative => s.parameter name alternative)

/-- The variable and its value, if the word sets one. -/
def assignment? (s : Session) (w : Word) : Option (String × String) :=
  let isBefore (part : Part) : Bool := match part with
    | .text false t => t != "="
    | _ => false
  match w.dropWhile isBefore with
  | .text false "=" :: value =>
    let name := s.textOf (w.takeWhile isBefore)
    if isName name.toList then some (name, s.textOf value) else none
  | _ => none

/-! ## Signals -/

/-- The signals with their names, and what is said of a program that one has ended. -/
def signals : List (String × Nat × String) := [
  ("HUP", 1, "Hangup"), ("INT", 2, ""), ("QUIT", 3, "Quit"), ("ILL", 4, "Illegal instruction"),
  ("TRAP", 5, "Trace/breakpoint trap"), ("ABRT", 6, "Aborted"), ("BUS", 7, "Bus error"),
  ("FPE", 8, "Floating point exception"), ("KILL", 9, "Killed"),
  ("USR1", 10, "User defined signal 1"), ("SEGV", 11, "Segmentation fault"),
  ("USR2", 12, "User defined signal 2"), ("PIPE", 13, ""), ("ALRM", 14, "Alarm clock"),
  ("TERM", 15, "Terminated"), ("CHLD", 17, ""), ("CONT", 18, ""), ("URG", 23, ""),
  ("WINCH", 28, "")]

/-- A number written in decimal digits alone. -/
def number? (s : String) : Option Nat :=
  if s.isEmpty || !s.toList.all Char.isDigit then none
  else some (s.toList.foldl (fun n d => 10 * n + (d.toNat - '0'.toNat)) 0)

/-- The signal that a text names, in any case. -/
def signal? (s : String) : Option Nat :=
  (number? s).or ((signals.lookup (s.map Char.toUpper)).map Prod.fst)

/-- Whether a signal ends a process that does nothing about it. -/
def endsProcess (signal : Nat) : Bool := !([0, 17, 18, 23, 28].contains signal)

/-- What is said of a program that a signal has ended. -/
def lastWords (signal : Nat) : String :=
  ((signals.find? (·.2.1 == signal)).map (·.2.2)).getD ""

/-! ## Commands of the shell itself -/

/-- Sends a signal to the processes named by some words. -/
def send (s : Session) (signal : Nat) (targets : List String) : Session :=
  if targets.contains (toString processId) then
    if endsProcess signal then { s with ended := some (-(signal : Int)) }
    else { s with status := 0 }
  else { s.complain "kill: No such process\n" with status := 1 }

def kill (s : Session) (words : List String) : Session :=
  let refuse (name : List Char) : Session :=
    { s.complain ("kill: Illegal option -" ++ String.ofList (name.take 1)) with status := 2 }
  match words with
  | "-s" :: name :: rest =>
    match signal? name with
    | some signal => s.send signal rest
    | none => { s.complain s!"kill: invalid signal number or name: {name}" with status := 2 }
  | word :: rest =>
    match word.toList with
    | '-' :: name =>
      match signal? (String.ofList name) with
      | some signal => s.send signal rest
      | none => refuse name
    | _ => s.send 15 words
  | [] => { s.complain "kill: Usage: kill [-s sigspec | -signum | -sigspec] [pid]..." with
      status := 2 }

def exit (s : Session) (words : List String) : Session :=
  match words with
  | [] => { s with ended := some (s.status : Int) }
  | word :: _ =>
    match number? word with
    | some n => { s with ended := some ((n % 256 : Nat) : Int) }
    | none => { s.complain s!"exit: Illegal number: {word}" with ended := some 2 }

/-- A path without `.`, and without the names that `..` takes back. -/
def tidy (path : String) : String :=
  let names := (Route.ofString path).names.foldl (fun kept name =>
    if name = "" ∨ name = "." then kept
    else if name = ".." then kept.dropLast
    else kept ++ [name]) []
  "/" ++ "/".intercalate names

def cd (s : Session) (words : List String) : Session :=
  let path := words.head?.getD (s.parameter "HOME" .none)
  let full := if path.toList.head? = some '/' then path else s.directory ++ "/" ++ path
  let refused : Session := { s.complain s!"cd: can't cd to {path}" with status := 2 }
  match s.process.find (tidy full) with
  | .ok i =>
    if (s.process.files.directory? i).isSome then
      let process := { s.process with site := { s.process.site with cwd := i } }
      let s := { s with process, directory := tidy full, status := 0 }
      s.setExported "PWD" s.directory
    else refused
  | .error _ => refused

def pwd (s : Session) (words : List String) : Session :=
  if words = ["-P"] then
    let (process, status) := Utility.pwd [] s.process
    { s with process, status }
  else { s with process := s.process.write (s.directory ++ "\n"), status := 0 }

/-- Lets the programs started from here on see variables. -/
def exportNames (s : Session) (words : List String) : Session :=
  words.foldl (fun s word =>
    let name := String.ofList (word.toList.takeWhile (· != '='))
    let value := match (word.toList.dropWhile (· != '=')).tail? with
      | some value => some (String.ofList value)
      | none => s.own.get? name
    match value with
    | some value => s.setExported name value
    | none => s) { s with status := 0 }

def unset (s : Session) (words : List String) : Session :=
  words.foldl (fun (s : Session) name =>
    { s with
      own := s.own.unset name
      process := { s.process with environment := s.process.environment.unset name } })
    { s with status := 0 }

def shift (s : Session) (words : List String) : Session :=
  let n := (words.head?.bind number?).getD 1
  if s.words.length < n then
    { s.complain "shift: can't shift that many" with ended := some 2 }
  else { s with words := s.words.drop n, status := 0 }

/-- Changes how the shell works, or gives it new words. -/
def setOptions (s : Session) (words : List String) : Session :=
  let s := { s with status := 0 }
  match words with
  | "--" :: words => { s with words }
  | option :: rest =>
    match option.toList with
    | '-' :: letters => { s with strict := s.strict || letters.contains 'e' }
    | '+' :: letters => { s with strict := s.strict && !letters.contains 'e' }
    | _ => { s with words := option :: rest }
  | [] => s

/-- The fields of a line, the last one taking the rest. -/
def splitLine : Nat → List Char → List (List Char)
  | 0, _ => []
  | 1, line => [(line.reverse.dropWhile isSeparator).reverse]
  | n + 1, line =>
    let field := line.takeWhile (!isSeparator ·)
    field :: splitLine n ((line.drop field.length).dropWhile isSeparator)

/-- Reads a line into variables. -/
def read (s : Session) (words : List String) : Session :=
  let names := words.filter fun w => w.toList.head? != some '-'
  let bytes := s.process.input.toList
  let line := bytes.takeWhile (· != 0x0a)
  let rest := bytes.drop line.length
  let text := ((String.fromUTF8? ⟨line.toArray⟩).getD "").toList.dropWhile isSeparator
  let process := { s.process with input := ⟨rest.tail.toArray⟩ }
  let s := { s with process, status := if rest.isEmpty then 1 else 0 }
  (names.zip (splitLine names.length text)).foldl (fun (s : Session) (name, field) =>
    s.setVariable name (String.ofList field)) s

/-- A program of the system that the shell has itself. -/
def within (body : Utility.Body) (s : Session) (words : List String) : Session :=
  let (process, status) := body words s.process
  { s with process, status }

/-- The commands of the shell itself. -/
def builtins : List (String × (Session → List String → Session)) := [
  (":", fun s _ => { s with status := 0 }),
  ("true", fun s _ => { s with status := 0 }),
  ("false", fun s _ => { s with status := 1 }),
  ("wait", fun s _ => { s with status := 0 }),
  ("echo", within (Utility.echo true)),
  ("printf", within Utility.printf),
  ("test", within Utility.test),
  ("[", within Utility.bracket),
  ("pwd", pwd),
  ("exit", exit),
  ("kill", kill),
  ("cd", cd),
  ("export", exportNames),
  ("unset", unset),
  ("shift", shift),
  ("set", setOptions),
  ("read", read)]

/-! ## Redirections -/

/-- What a shell says of a refusal, where `absent` stands for what is not there. -/
def reason (absent : String) (e : Errno) : String :=
  if e = .notFound ∨ e = .notDirectory then absent else e.text

/-- Redirects what a process reads and writes, or says why not. -/
def redirect (s : Session) (p : Process) (r : Redirect) : Except String Process :=
  let path := s.textOf r.target
  let put (sink : Sink) : Process :=
    if r.fd = 1 then { p with out := sink }
    else if r.fd = 2 then { p with err := sink }
    else p
  match r.kind with
  | .duplicate =>
    match path with
    | "1" => .ok (put p.out)
    | "2" => .ok (put p.err)
    | _ => .error s!"{path}: Bad file descriptor"
  | .input =>
    match Utility.bytesOf p path with
    | .ok (bytes, _) => .ok { p with input := bytes }
    | .error e => .error (s!"cannot open {path}: " ++ reason "No such file" e)
  | kind =>
    match p.files.openForWriting p.site.cwd path p.site.now with
    | .error r =>
      .error (s!"cannot create {path}: " ++ reason "Directory nonexistent" (Utility.answerOf r))
    | .ok (files, i) =>
      let files := if kind = .truncate then files.overwrite i ByteArray.empty p.site.now else files
      .ok { p.setFiles files with out := (put (.file i)).out, err := (put (.file i)).err }

/-- Follows redirections one after the other. -/
def redirectAll (s : Session) (redirects : List Redirect) : Session × Except String Process :=
  redirects.foldl (fun (s, found) r =>
    match found with
    | .error e => (s, .error e)
    | .ok p => (s, s.redirect p r)) (s, .ok s.process)

/-! ## Shells within shells -/

/-- A shell that takes the place of another one for a command. -/
def inner (s : Session) (p : Process) : Session := { s with process := p, ended := none }

/-- The status of a shell that has come to its end. -/
def lastStatus (s : Session) : Nat :=
  match s.ended with
  | some n => (exitStatus n).toNat
  | none => s.status

/-- The shell after one that took its place has ended: it keeps its own variables and directory. A
signal ends both. -/
def after (s : Session) (ended : Session) : Session :=
  let p := ended.process
  let process :=
    { s.process with
      site := { p.site with cwd := s.process.site.cwd }
      input := p.input, stdout := p.stdout, stderr := p.stderr }
  { s with process, status := ended.lastStatus, ended := ended.ended.filter (· < 0) }

/-! ## Environments of programs -/

/-- The place of a variable in the order in which a shell hands variables to programs: by a sum of
its name's bytes, the first one counting sixteen times more, in the table's 39 places. -/
def slot (name : String) : Nat :=
  let bytes := name.toUTF8.toList.map UInt8.toNat
  ((bytes.head?.getD 0) * 16 + bytes.foldl (· + ·) 0) % 39

/-- The variables that a program started from here sees. -/
def environmentFor (s : Session) (settings : List (String × String)) : Environment :=
  let e := s.process.environment.overlay settings
  { e with entries := e.entries.mergeSort fun a b => slot a.1 ≤ slot b.1 }

end Session

end DeviceLauncher.Child.Shell
