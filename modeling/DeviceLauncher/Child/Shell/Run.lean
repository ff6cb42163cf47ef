import DeviceLauncher.Child.Shell.Session

/-!
# Running scripts

`runLoaded` runs a program of the system in a process; the shell, which is one of them, runs the
commands of a script and starts further programs. A program ends with a status, or by a signal, as
a negated number.

Loops need not end and programs can start programs, so the runners take an amount of fuel. What uses
it up ends with the status of a program that cannot be run.

The shell stands in for that of the system in `Child.system`. No theorem rests on it.
-/

namespace DeviceLauncher.Child.Shell

open Session

/-- The status of a program that cannot be run. -/
def cannotRun : Nat := 126

/-- The status of a program that is not there. -/
def notThere : Nat := 127

mutual

/-- Runs a program in a process. -/
def runLoaded (fuel : Nat) (program : Loaded) (p : Process) : Process × Int :=
  match fuel with
  | 0 => (p, cannotRun)
  | fuel + 1 =>
    if program.name = "sh" then runShell fuel program.argv p
    else match Utility.find? program.name with
      | some body =>
        let (p, status) := body program.argv.tail p
        (p, (status : Int))
      | none => (p, 0)

/-- Runs a shell: a script in its words after `-c`, or in a file. -/
def runShell (fuel : Nat) (argv : List String) (p : Process) : Process × Int :=
  match fuel with
  | 0 => (p, cannotRun)
  | fuel + 1 =>
    let options := argv.tail.takeWhile fun w => w.toList.head? = some '-' && w.length ≤ 3
    let letters := options.flatMap fun w => w.toList.tail
    let strict := letters.contains 'e'
    let run (script name : String) (words : List String) : Process × Int :=
      let directory := (p.files.pathOf? p.site.cwd).getD ""
      let known := p.environment.entries.filter fun entry => isName entry.1.toList
      let p := { p with environment := { p.environment with entries := known } }
      let s : Session := ⟨p, Environment.empty, name, words, directory, 1, 0, strict, none⟩
      let s := s.setExported "PWD" directory
      let s := runScript fuel s script
      (s.process, s.ended.getD s.status)
    match letters.contains 'c', argv.drop (options.length + 1) with
    | true, script :: rest => run script (rest.head?.getD (argv.head?.getD "")) rest.tail
    | true, [] => (p.complain "sh: 0: -c requires an argument\n", 2)
    | false, path :: rest =>
      match p.find path with
      | .error _ =>
        let name := argv.head?.getD ""
        (p.complain s!"{name}: 0: cannot open {path}: No such file\n", 2)
      | .ok i =>
        match (p.files.read i).toOption.bind String.fromUTF8? with
        | some script => run script path rest
        | none => (p, 0)
    | false, [] =>
      match String.fromUTF8? p.input with
      | some script => run script (argv.head?.getD "") []
      | none => (p, 0)

/-- Runs the commands of a script in a shell. -/
def runScript (fuel : Nat) (s : Session) (script : String) : Session :=
  match fuel with
  | 0 => { s with status := cannotRun }
  | fuel + 1 =>
    match Command.ofText script with
    | .ok c => run fuel false s c
    | .error (text, line) =>
      { { s with line }.complain s!"Syntax error: {text}" with ended := some 2 }

/-- Runs a command. A bad status of a `guarded` one is looked at by another command. -/
def run (fuel : Nat) (guarded : Bool) (s : Session) (c : Command) : Session :=
  match fuel with
  | 0 => { s with status := cannotRun }
  | fuel + 1 =>
    if s.ended.isSome then s
    else
      let checked (s : Session) : Session :=
        if s.strict && !guarded && s.status != 0 && s.ended.isNone then
          { s with ended := some (s.status : Int) }
        else s
      match c with
      | .nothing => s
      | .simple line words redirects =>
        checked (runSimple fuel { s with line } words redirects)
      | .redirected c redirects =>
        let (s, redirects) := fillRedirects fuel s redirects
        match s.redirectAll redirects with
        | (s, .error e) => { s.complain e with status := 2 }
        | (s, .ok p) =>
          let done := run fuel guarded { s with process := p } c
          { done with process :=
            { done.process with out := s.process.out, err := s.process.err } }
      | .pipe first second =>
        let p := s.process
        let before := p.piped
        let left := run fuel true
          (s.inner { p with out := .pipe, piped := ByteArray.empty }) first
        let s := s.after left
        let right := run fuel true
          (s.inner { s.process with input := left.process.piped, piped := before }) second
        let done := s.after right
        checked { done with process :=
          { done.process with input := p.input, piped := right.process.piped } }
      | .background c =>
        let p := s.process
        let done := s.after (run fuel true (s.inner { p with input := ByteArray.empty }) c)
        { done with process := { done.process with input := p.input }, status := 0 }
      | .negated c =>
        let s := run fuel true s c
        { s with status := if s.status = 0 then 1 else 0 }
      | .both first second =>
        let s := run fuel true s first
        if s.status = 0 then run fuel guarded s second else s
      | .either first second =>
        let s := run fuel true s first
        if s.status = 0 then s else run fuel guarded s second
      | .sequence first second => run fuel guarded (run fuel guarded s first) second
      | .subshell c =>
        let inner := run fuel guarded (s.inner s.process) c
        let s := s.after inner
        checked { s with process := { s.process with piped := inner.process.piped } }
      | .conditional test good bad =>
        let s := run fuel true s test
        if s.ended.isSome then s
        else if s.status = 0 then run fuel guarded s good
        else run fuel guarded { s with status := 0 } bad
      | .loop isUntil test body => runLoop fuel guarded isUntil 0 s test body
      | .each name items body =>
        let (s, items) := match items with
          | some words => fillAll fuel s words
          | none => (s, [[.parameter true "@" .none]])
        runEach fuel guarded name { s with status := 0 } (items.flatMap s.fieldsOf) body

/-- Runs the rounds of a loop. -/
def runLoop (fuel : Nat) (guarded isUntil : Bool) (status : Nat) (s : Session)
    (test body : Command) : Session :=
  match fuel with
  | 0 => { s with status := cannotRun }
  | fuel + 1 =>
    let s := run fuel true s test
    if s.ended.isSome then s
    else if (s.status = 0) = isUntil then { s with status }
    else
      let s := run fuel guarded s body
      runLoop fuel guarded isUntil s.status s test body

/-- Runs a command once for each of some values. -/
def runEach (fuel : Nat) (guarded : Bool) (name : String) (s : Session) (values : List String)
    (body : Command) : Session :=
  match fuel, values with
  | 0, _ => { s with status := cannotRun }
  | _ + 1, [] => s
  | fuel + 1, value :: rest =>
    runEach fuel guarded name (run fuel guarded (s.setVariable name value) body) rest body

/-- Puts the outputs of scripts into a word. -/
def fill (fuel : Nat) (s : Session) (w : Word) : Session × Word :=
  match fuel, w with
  | 0, w => (s, w)
  | _ + 1, [] => (s, [])
  | fuel + 1, .output quoted script :: rest =>
    let p := s.process
    let inner := runScript fuel
      (s.inner { p with out := .pipe, piped := ByteArray.empty }) script
    let text := (String.fromUTF8? inner.process.piped).getD ""
    let text := String.ofList (text.toList.reverse.dropWhile (· == '\n')).reverse
    let (s, rest) := fill fuel (s.after inner) rest
    (s, .value quoted text :: rest)
  | fuel + 1, part :: rest =>
    let (s, rest) := fill fuel s rest
    (s, part :: rest)

/-- Puts the outputs of scripts into words. -/
def fillAll (fuel : Nat) (s : Session) (words : List Word) : Session × List Word :=
  match fuel, words with
  | 0, words => (s, words)
  | _ + 1, [] => (s, [])
  | fuel + 1, w :: rest =>
    let (s, w) := fill fuel s w
    let (s, rest) := fillAll fuel s rest
    (s, w :: rest)

/-- Puts the outputs of scripts into the targets of redirections. -/
def fillRedirects (fuel : Nat) (s : Session) (redirects : List Redirect) :
    Session × List Redirect :=
  match fuel, redirects with
  | 0, redirects => (s, redirects)
  | _ + 1, [] => (s, [])
  | fuel + 1, r :: rest =>
    let (s, target) := fill fuel s r.target
    let (s, rest) := fillRedirects fuel s rest
    (s, { r with target } :: rest)

/-- Runs a simple command, with its input and output redirected. -/
def runSimple (fuel : Nat) (s : Session) (words : List Word) (redirects : List Redirect) :
    Session :=
  match fuel with
  | 0 => { s with status := cannotRun }
  | fuel + 1 =>
    let hasOutput := words.any fun w => w.any fun part => match part with
      | .output _ _ => true
      | _ => false
    let (s, words) := fillAll fuel s words
    let (s, redirects) := fillRedirects fuel s redirects
    let settings := (words.map s.assignment?).takeWhile Option.isSome |>.filterMap id
    let fields := (words.drop settings.length).flatMap s.fieldsOf
    match s.redirectAll redirects with
    | (s, .error e) => { s.complain e with status := 2 }
    | (s, .ok p) =>
      match fields with
      | [] =>
        let s := { s with
          process := s.process.setFiles p.files
          status := if hasOutput then s.status else 0 }
        settings.foldl (fun (s : Session) (name, value) => s.setVariable name value) s
      | ["exec"] => { s with process := p, status := 0 }
      | name :: rest =>
        let done := runNamed fuel { s with process := p } settings name rest
        let readsFile := redirects.any fun r => r.kind == .input
        { done with process :=
          { done.process with
            out := s.process.out, err := s.process.err
            input := if readsFile then s.process.input else done.process.input } }

/-- Runs the command of a name with words, with some variables set for it. -/
def runNamed (fuel : Nat) (s : Session) (settings : List (String × String)) (name : String)
    (words : List String) : Session :=
  match fuel with
  | 0 => { s with status := cannotRun }
  | fuel + 1 =>
    match name, words with
    | "eval", words => runScript fuel s (" ".intercalate words)
    | ".", path :: _ =>
      match (Utility.bytesOf s.process path).toOption.bind fun found =>
          String.fromUTF8? found.1 with
      | some script => runScript fuel s script
      | none => { s.complain s!".: cannot open {path}: No such file" with ended := some 2 }
    | "exec", name :: words =>
      let (s, code) := runProgram fuel s settings "exec: " name words
      { s with ended := some code }
    | name, words =>
      match builtins.lookup name with
      | some builtin => builtin s words
      | none =>
        let (s, code) := runProgram fuel s settings "" name words
        let text := if code < 0 then lastWords (-code).toNat else ""
        let process := if text.isEmpty then s.process else s.process.complain (text ++ "\n")
        { s with process, status := (exitStatus code).toNat }

/-- Runs a program. One that the system cannot run itself is read as a script. -/
def runProgram (fuel : Nat) (s : Session) (settings : List (String × String)) (what name : String)
    (words : List String) : Session × Int :=
  match fuel with
  | 0 => (s, cannotRun)
  | fuel + 1 =>
    let outer := s.process
    let environment := s.environmentFor settings
    let p := { outer with environment }
    let loaded : Except Errno Loaded := match loadWords p (name :: words) with
      | .error .notRunnable => .ok ⟨"sh", "sh" :: name :: words⟩
      | loaded => loaded
    match loaded with
    | .error e =>
      let absent := [Errno.notFound, .notDirectory, .linkLoop, .nameTooLong].contains e
      (s.complain (what ++ name ++ ": " ++ reason "not found" e),
        if absent then notThere else cannotRun)
    | .ok loaded =>
      let (p, code) := runLoaded fuel loaded p
      let process :=
        { p with
          site := { p.site with cwd := outer.site.cwd }, environment := outer.environment
          out := outer.out, err := outer.err, piped := p.piped }
      ({ s with process }, code)

end

end DeviceLauncher.Child.Shell
