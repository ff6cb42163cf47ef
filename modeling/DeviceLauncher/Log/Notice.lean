import DeviceLauncher.Log.Level
import DeviceLauncher.Status
import DeviceLauncher.Text.ShellWord

/-!
# What the launcher reports

`Notice` lists everything that the launcher tells its log, with the facts it tells. Its logger, its
level and its text follow from it, so that what happened in a run can be read off its notices.
-/

namespace DeviceLauncher.Log

/-- How the program was started. The dispatcher's log records name it. -/
inductive Entry where
  | command
  | module
  deriving DecidableEq

/-- Something to report. -/
inductive Notice where
  | loadedConfig (path : String)
  | usingConfig (entry : Entry) (path : String)
  | finished (entry : Entry) (name : String) (steps : List String)
  | failed (entry : Entry) (name : String)
  | runningStep (id : String)
  | stepFailed (id : String) (status : Status)
  | command (argv : List String)
  | environment (extra : List (String × String))
  | commandFailed (code : Int) (argv : List String)
  | copy (source target : String)
  | wouldCopy (source target : String)
  | wouldMakeDirectory (path : String)
  | directoryExists (path : String)
  | alreadyInstalled (path : String)
  | installed (path : String)
  | manifestsInstalled (directory : String) (count : Nat)
  | starting (name host : String)
  /-- A text from elsewhere. -/
  | said (logger : String) (level : Level) (text : String)
  deriving DecidableEq

/-- The logger of the dispatcher. -/
def Entry.logger : Entry → String
  | .command => "ripple_launcher.main"
  | .module => "__main__"

namespace Notice

/-- The logger that a notice comes from. The one without a name of its own is the root. -/
def logger : Notice → String
  | loadedConfig _ => "ripple_launcher.launcher_config"
  | usingConfig entry _ | finished entry _ _ | failed entry _ => entry.logger
  | runningStep _ | stepFailed _ _ => "ripple_launcher.pipeline"
  | command _ | environment _ | commandFailed _ _ => "ripple_launcher.lib.command"
  | copy _ _ | wouldCopy _ _ | wouldMakeDirectory _ | directoryExists _ =>
    "ripple_launcher.lib.assets"
  | alreadyInstalled _ | installed _ => "ripple_launcher.steps.step_10_install_binary"
  | manifestsInstalled _ _ => "ripple_launcher.steps.step_30_copy_manifests"
  | starting _ _ => "ripple_launcher.steps.step_60_run"
  | said logger _ _ => if logger.isEmpty then "root" else logger

def level : Notice → Level
  | loadedConfig _ | environment _ | directoryExists _ => .debug
  | failed _ _ | stepFailed _ _ | commandFailed _ _ => .error
  | usingConfig _ _ | finished _ _ _ | runningStep _ | command _ | copy _ _ | wouldCopy _ _
  | wouldMakeDirectory _ | alreadyInstalled _ | installed _ | manifestsInstalled _ _
  | starting _ _ => .info
  | said _ level _ => level

/-- Variables as they would be set on a command line. -/
def assignments (extra : List (String × String)) : String :=
  " ".intercalate (extra.map fun (name, value) => name ++ "=" ++ Text.ShellWord.quote value)

def message : Notice → String
  | loadedConfig path => s!"Loaded launcher config from {path}"
  | usingConfig _ path => s!"Using launcher config {path}"
  | finished _ name steps => s!"ripple {name} finished (" ++ ", ".intercalate steps ++ ")"
  | failed _ name => s!"ripple {name} failed"
  | runningStep id => s!"Running step {id}"
  | stepFailed id status => s!"Step {id} failed with status " ++ status.toText ++ "; stopping"
  | command argv => "CMD " ++ Text.ShellWord.line argv
  | environment extra => "ENV " ++ assignments extra
  | commandFailed code argv => s!"Command failed ({code}): " ++ Text.ShellWord.line argv
  | copy source target => s!"Copy {source} -> {target}"
  | wouldCopy source target => s!"Would copy {source} -> {target}"
  | wouldMakeDirectory path => s!"Would create directory {path}"
  | directoryExists path => s!"Directory exists: {path}"
  | alreadyInstalled path => s!"Already running from {path}; binary left as is"
  | installed path => s!"Installed {path}"
  | manifestsInstalled directory count => s!"Manifests installed into {directory} ({count} files)"
  | starting name host => s!"Starting target with {name}={host}"
  | said _ _ text => text

/-- Whether the trace of a failure follows the text. -/
def isTraced : Notice → Bool
  | failed _ _ => true
  | _ => false

end Notice

/-- What a log line says of the moment at which it is written: the time, and the trace of the
failure that is being reported. -/
structure Marks where
  time : String
  trace : String
  deriving DecidableEq

namespace Notice

/-- The text of a notice, and the trace if there is one, each with its line end. -/
def body (marks : Marks) (n : Notice) : String :=
  n.message ++ "\n" ++ (if n.isTraced then marks.trace ++ "\n" else "")

/-- The line of a notice in a log. -/
def line (marks : Marks) (n : Notice) : String :=
  marks.time ++ " " ++ n.level.name ++ " " ++ n.logger ++ ": " ++ n.body marks

end Notice

end DeviceLauncher.Log
