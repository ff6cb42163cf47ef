import DeviceLauncher.Environment
import DeviceLauncher.Failure
import DeviceLauncher.FileSystem.Change
import DeviceLauncher.Log.Notice
import DeviceLauncher.Path

/-!
# The machine that the launcher works on

`Machine` holds all that the launcher can see and change: files, working directory, environment,
its own words, the log, the children started so far, and what was written to the two output
streams. An `Action` is a computation on a machine that may fail; what it has changed before it
fails stays changed.

`Machine.report` is the only way into the log. A notice whose level is positive and not below that
of the log is kept and written once to each handler; while there is no handler, warnings and
errors go to the error stream as bare texts.
-/

namespace DeviceLauncher

namespace Log

/-- Where log lines are written: the error stream, or a file that stays open. -/
inductive Handler where
  | console
  | file (i : Inode)
  deriving DecidableEq

/-- The state of the log. -/
structure State where
  level : Level
  handlers : List Handler
  /-- Whether the log has been set up, and then the path of its file. -/
  setup : Option (Option String)
  /-- The notices that passed the level, the first one first. -/
  notices : List Notice
  deriving DecidableEq

/-- The log before it is set up. -/
def State.initial : State := ⟨.warning, [], none, []⟩

/-- Whether notices of a level are written. -/
def State.passes (s : State) (l : Level) : Bool := 0 < l && s.level ≤ l

end Log

namespace Child

/-- What a child is started with. -/
structure Start where
  argv : List String
  environment : Environment
  /-- The directory in which it runs, if not that of the launcher. -/
  directory : Option String
  deriving DecidableEq

end Child

/-- All that the launcher can see and change. -/
structure Machine where
  files : FileSystem
  cwd : Inode
  environment : Environment
  /-- The words that the launcher was started with, its own path first. -/
  argv : List String
  log : Log.State
  /-- The children started so far, the first one first. -/
  children : List Child.Start
  stdout : ByteArray
  stderr : ByteArray
  /-- The time, in seconds. -/
  now : Int
  marks : Log.Marks

/-- A computation on a machine that may fail. -/
abbrev Action (α : Type) := EStateM Failure Machine α

/-- States that keep a log. -/
class Reports (σ : Type) where
  report : Log.Notice → σ → σ

namespace Machine

def print (m : Machine) (text : String) : Machine := { m with stdout := m.stdout ++ text.toUTF8 }

def printError (m : Machine) (text : String) : Machine :=
  { m with stderr := m.stderr ++ text.toUTF8 }

/-- Writes a text through a handler. A text is made of characters, so it can always be written in
UTF-8, and writing to the end of a file that is open does not fail. -/
def deliver (text : String) (m : Machine) : Log.Handler → Machine
  | .console => m.printError text
  | .file i => { m with files := m.files.append i text.toUTF8 m.now }

/-- Puts a notice into the log. -/
def report (n : Log.Notice) (m : Machine) : Machine :=
  if m.log.passes n.level then
    let kept := { m with log := { m.log with notices := m.log.notices ++ [n] } }
    if m.log.handlers.isEmpty then
      if Log.Level.warning ≤ n.level then kept.printError (n.body m.marks) else kept
    else m.log.handlers.foldl (deliver (n.line m.marks)) kept
  else m

theorem log_deliver (text : String) (m : Machine) (h : Log.Handler) :
    (m.deliver text h).log = m.log := by
  cases h <;> rfl

theorem log_foldl_deliver (text : String) (hs : List Log.Handler) (m : Machine) :
    (hs.foldl (deliver text) m).log = m.log := by
  induction hs generalizing m with
  | nil => rfl
  | cons h hs ih => rw [List.foldl_cons, ih, log_deliver]

/-- The log keeps the notices that pass, in order, whatever becomes of their texts. -/
theorem notices_report (n : Log.Notice) (m : Machine) :
    (m.report n).log.notices =
      if m.log.passes n.level then m.log.notices ++ [n] else m.log.notices := by
  unfold report
  split
  · simp only
    split
    · split <;> rfl
    · rw [log_foldl_deliver]
  · rfl

instance : Reports Machine := ⟨report⟩

end Machine

namespace Action

/-- Puts a notice into the log of a state. -/
def report {ε σ : Type} [Reports σ] (n : Log.Notice) : EStateM ε σ Unit :=
  modify (Reports.report n)

/-- A result, or its failure. -/
def ofExcept {α : Type} (x : Except Failure α) : Action α :=
  match x with
  | .ok a => pure a
  | .error e => throw e

/-- The node at a path, if there is one. -/
def look (path : Path) : Action (Option Inode) := do
  let m ← get
  ofExcept ((m.files.look m.cwd path.toString).mapError fun e => .os e (.path path.toString))

end Action

end DeviceLauncher
