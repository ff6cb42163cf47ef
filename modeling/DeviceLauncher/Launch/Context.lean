import DeviceLauncher.Config
import DeviceLauncher.Pipeline

/-!
# What the steps of a command share

A command runs its steps in one context: the configuration, the host that was named, and whether
to act or only to tell.
-/

namespace DeviceLauncher.Launch

/-- The context of a command. -/
structure Context where
  config : Config
  host : String
  dryRun : Bool

/-- A step of one of the launcher's commands. -/
abbrev Step := Pipeline.Step Context Failure Machine

/-- A setting of the context's configuration, in the environment of the machine. -/
def setting {α : Type} (context : Context) (f : Config → Environment → Except Failure α) :
    Action α := do
  Action.ofExcept (f context.config (← get).environment)

end DeviceLauncher.Launch
