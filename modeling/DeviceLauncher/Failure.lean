import DeviceLauncher.FileSystem.Refusal
import DeviceLauncher.Text.Literal
import DeviceLauncher.Yaml.Fault

/-!
# Why the launcher fails

A `Failure` is the cause for which a command, a step or a call is given up, with what the user
needs to know to mend it. `Failure.message` is what the user is told.
-/

namespace DeviceLauncher

/-- What a call on the operating system was about. -/
inductive Subject where
  | nothing
  | path (p : String)
  | paths (p q : String)
  deriving DecidableEq

namespace Subject

def toText : Subject → String
  | nothing => ""
  | path p => ": " ++ Text.literal p
  | paths p q => ": " ++ Text.literal p ++ " -> " ++ Text.literal q

end Subject

/-- A file as the target of a copy: the path given, or a name inside the directory given. -/
inductive Target where
  | given (path : String)
  | inside (path : String)
  deriving DecidableEq

namespace Target

def path : Target → String
  | given path | inside path => path

/-- A target as it is shown in a message. -/
def literal : Target → String
  | given path => "PosixPath(" ++ Text.literal path ++ ")"
  | inside path => Text.literal path

end Target

/-- Why something is given up. -/
inductive Failure where
  /-- The operating system refused. -/
  | os (errno : Errno) (subject : Subject)
  /-- A text for the operating system holds NUL. -/
  | nul
  /-- A file that has to be there is not, or is no regular file. -/
  | missing (path : String)
  /-- A file is to be written where only a directory could be, and there is none. -/
  | missingDirectory (path : String)
  /-- A copy would overwrite its own source. -/
  | sameFile (source : String) (target : Target)
  /-- Symbolic links on the way of a path lead back to themselves. -/
  | linkLoop (path : String)
  /-- What runs is a script that cannot run on its own, so it cannot be installed. -/
  | scriptOnly (path : String)
  /-- An entry of the manifest list, as it is shown, lacks its source or its target. -/
  | incompleteManifest (entry : String)
  | commandIsText (text : String)
  | unknownLevel (name : String)
  | configNotYaml
  | configNotMapping (path : String)
  /-- The configuration is no text in UTF-8. -/
  | configNotText
  | config (fault : Yaml.Fault)
  | unknownCommand (name : String)
  /-- A variable for a child has `=` in its name. -/
  | variableName
  /-- A command to run has no words. -/
  | emptyCommand
  /-- There is no word at which the program's own path would stand. -/
  | noProgramPath
  /-- A section of the configuration has no fields. -/
  | noFields
  /-- A list of the configuration has no items. -/
  | noItems
  /-- A whole number has too many digits to be written. -/
  | longNumber
  /-- The program ends with a status. -/
  | exit (status : Int)

namespace Failure

/-- What the user is told. Where the wrong shape of a value is the cause there is nothing to add. -/
def message : Failure → String
  | os errno subject => s!"[Errno {errno.number}] " ++ errno.text ++ subject.toText
  | nul => "embedded null byte"
  | missing path => path
  | missingDirectory path => s!"Directory does not exist: {path}"
  | sameFile source target =>
    (Target.given source).literal ++ " and " ++ target.literal ++ " are the same file"
  | linkLoop path => "Symlink loop from " ++ Text.literal path
  | scriptOnly path =>
    s!"Refusing to install {path}: run init through the \x60ripple\x60 console script"
  | incompleteManifest entry => "manifest entry needs source and dest: " ++ entry
  | commandIsText text =>
    "command must be a list of arguments, got string: " ++ Text.literal text
  | unknownLevel name => "Unknown log level: " ++ name
  | configNotYaml => "launcher config must be YAML"
  | configNotMapping path => s!"{path} must contain a mapping/object"
  | config fault => fault.message
  | unknownCommand name => Text.literal name
  | variableName => "illegal environment variable name"
  | longNumber =>
    s!"Exceeds the limit ({Yaml.mostDigits} digits) for integer string conversion; " ++
      "use sys.set_int_max_str_digits() to increase the limit"
  | exit status => toString status
  | configNotText | emptyCommand | noProgramPath | noFields | noItems => ""

/-- The failure of a call on one path. -/
def ofRefusal (path : String) : Refusal → Failure
  | .errno e => os e (.path path)
  | .nul => nul

end Failure

end DeviceLauncher
