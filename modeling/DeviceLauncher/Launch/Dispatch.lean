import DeviceLauncher.CommandLine.Options
import DeviceLauncher.CommandLine.Split
import DeviceLauncher.Config.Load
import DeviceLauncher.Launch.Init
import DeviceLauncher.Launch.Run

/-!
# From the command line to a command

`program` reads the words that the program was started with. If they name no command, or ask for
help, it shows the banner. Else it loads the configuration, sets up the log as that says, and runs
the steps of the command; the status of the last step is the status of the program.
-/

namespace DeviceLauncher.Launch

/-- What is shown to those who ask for help, or for anything that is no command. -/
def banner : String :=
  "Ripple Help\n" ++
  "ripple init - Initializes the manifests and other Device configurations\n" ++
  "ripple run \x7bDevice IP\x7d - Starts Ripple in the local PC\n" ++
  "Example: ripple run 10.0.0.1\n" ++
  "ripple -h for help\n"

/-- The steps of a command, if there is one of that name. -/
def stepsOf? (children : Child.Behaviour) (command : String) : Option (List Step) :=
  if command = "init" then some initSteps
  else if command = "run" then some (runSteps children)
  else none

/-- Runs the steps of a command. The log gets one last word on how it went. -/
def runCommand (children : Child.Behaviour) (entry : Log.Entry) (command : String)
    (config : Config) (host : Option String) (dryRun : Bool) : Action Pipeline.Result := do
  match stepsOf? children command with
  | none => throw (.unknownCommand command)
  | some steps =>
    let result ← (
      try Pipeline.run ⟨config, host.getD "", dryRun⟩ steps
      catch e => do
        Action.report (.failed entry command)
        throw e)
    if result.ok then Action.report (.finished entry command result.ranSteps)
    return result

/-- Runs the program with some words, to its status. -/
def program (reader : Yaml.Reader) (children : Child.Behaviour) (entry : Log.Entry)
    (words : List String) : Action Status := do
  let (leading, rest) := CommandLine.split words
  match CommandLine.Options.ofWords leading with
  | .error e =>
    modify (·.printError e.usage)
    throw (.exit 2)
  | .ok options =>
    match rest.head?.filter fun command => (stepsOf? children command).isSome with
    | some command =>
      if options.showHelp then
        modify (·.print banner)
        return .code 0
      let config ← Config.load reader options.config.join
      let environment := (← get).environment
      let path ← Action.ofExcept (config.logPath environment)
      let level ← Action.ofExcept (config.logLevel environment)
      let _ ← Log.configure path level true
      if let some source := config.source then Action.report (.usingConfig entry source)
      let host := if command = "run" then rest[1]? else none
      let result ← runCommand children entry command config host options.dryRun
      return result.returncode
    | none =>
      modify (·.print banner)
      return .code 0

end DeviceLauncher.Launch
