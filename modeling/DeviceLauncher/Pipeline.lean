import DeviceLauncher.Machine

/-!
# Pipelines

A pipeline runs steps in order and stops at the first one whose status is not zero. A step that
fails altogether ends the pipeline with its failure. The steps run on any state that keeps a log.

`Result.returncode` is the status of the last step entered; a pipeline without steps has status
zero.
-/

namespace DeviceLauncher.Pipeline

/-- A step: its name, and what it does in a context. -/
structure Step (κ ε σ : Type) where
  id : String
  run : κ → EStateM ε σ Status

/-- What a pipeline comes to when no step fails altogether. -/
structure Result where
  returncode : Status
  /-- The steps entered, in order. -/
  ranSteps : List String
  /-- The step that stopped the pipeline. -/
  failedStep : Option String
  deriving DecidableEq

/-- Whether all went well. -/
def Result.ok (r : Result) : Bool := r.returncode.isZero

variable {κ ε σ : Type} [Reports σ]

/-- Runs steps after others, whose names and last status are given. -/
def runFrom (context : κ) (ran : List String) (status : Status) :
    List (Step κ ε σ) → EStateM ε σ Result
  | [] => return ⟨status, ran, none⟩
  | step :: rest => do
    Action.report (.runningStep step.id)
    let status ← step.run context
    let ran := ran ++ [step.id]
    if status.isZero then runFrom context ran status rest
    else
      Action.report (.stepFailed step.id status)
      return ⟨status, ran, some step.id⟩

/-- Runs steps in order. -/
def run (context : κ) (steps : List (Step κ ε σ)) : EStateM ε σ Result :=
  runFrom context [] (.code 0) steps

end DeviceLauncher.Pipeline
