import DeviceLauncher.Machine

/-!
# Running children

What a child does is left open: `Child.Behaviour` says, for what a child is started with and what
the machine is like, how it ends and what files it leaves behind, or why it could not be started.

`Child.run` starts one child and waits for it. It tells the log of the command before and of a
status other than zero after; a dry run only tells of the command.
-/

namespace DeviceLauncher.Child

/-- How a child ends: its status, or the negated number of a signal, and what it has written. -/
structure End where
  code : Int
  stdout : ByteArray
  stderr : ByteArray

/-- What a child finds: files, the launcher's working directory, the time. -/
structure Site where
  files : FileSystem
  cwd : Inode
  now : Int

/-- How children behave. -/
abbrev Behaviour := Start → Site → Except Failure End × FileSystem

/-- A command that has been run, and what a shell would report for it. -/
structure Outcome where
  argv : List String
  status : Int
  deriving DecidableEq

/-- Starts a child and waits for its end. Whether or not it can be started, it counts as one of
the children of the machine. -/
def await (children : Behaviour) (start : Start) : Action Int := do
  let m ← get
  let (result, files) := children start ⟨m.files, m.cwd, m.now⟩
  set { m with files, children := m.children ++ [start] }
  match result with
  | .error e => throw e
  | .ok e =>
    modify fun m => { m with stdout := m.stdout ++ e.stdout, stderr := m.stderr ++ e.stderr }
    return e.code

/-- Runs a command, with more variables and perhaps in another directory. -/
def run (children : Behaviour) (argv : List String) (extra : List (String × String))
    (directory : Option String) (dryRun : Bool) : Action Outcome := do
  Action.report (.command argv)
  if !extra.isEmpty then Action.report (.environment extra)
  if dryRun then return ⟨argv, 0⟩
  let environment := (← get).environment.overlay extra
  let code ← await children ⟨argv, environment, directory⟩
  if code != 0 then Action.report (.commandFailed code argv)
  return ⟨argv, exitStatus code⟩

end DeviceLauncher.Child
