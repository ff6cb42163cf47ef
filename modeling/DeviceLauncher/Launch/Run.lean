import DeviceLauncher.Child.Run
import DeviceLauncher.Launch.Context

/-!
# The steps of `run`

`run` builds the target program and, if that went well, starts it. Both children run in the
project directory and see the host in their environment.
-/

namespace DeviceLauncher.Launch

/-- Runs a command of the configuration as a child. -/
def runChild (children : Child.Behaviour) (context : Context)
    (command : Config → Except Failure (List String)) : Action Status := do
  let argv ← Action.ofExcept (command context.config)
  let extra ← Action.ofExcept (context.config.childVariables context.host)
  let directory ← setting context Config.projectDirectory
  let outcome ← Child.run children argv extra directory.toString context.dryRun
  return .code outcome.status

/-- Builds the target program. -/
def build (children : Child.Behaviour) : Step where
  id := "50_build"
  run context := runChild children context Config.buildCommand

/-- Runs the target program. -/
def runTarget (children : Child.Behaviour) : Step where
  id := "60_run"
  run context := do
    let name ← Action.ofExcept context.config.hostVariable
    Action.report (.starting name context.host)
    runChild children context Config.runCommand

/-- The steps of `run`. -/
def runSteps (children : Child.Behaviour) : List Step := [build children, runTarget children]

end DeviceLauncher.Launch
