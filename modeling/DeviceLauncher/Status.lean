/-!
# Exit statuses

A child that ends by itself has a status, and one that a signal ends has the number of the signal,
negated. `exitStatus` maps both to what a shell reports: a signal counts from 128 on.

A step of a pipeline has a status, or the truth value `false` or `true` in place of zero or one.
-/

namespace DeviceLauncher

/-- What a shell reports for a child. -/
def exitStatus (code : Int) : Int := if code < 0 then 128 - code else code

/-- A child counts as good if and only if it ended by itself with zero. -/
theorem exitStatus_eq_zero_iff {code : Int} : exitStatus code = 0 ↔ code = 0 := by
  unfold exitStatus
  omega

theorem exitStatus_nonneg (code : Int) : 0 ≤ exitStatus code := by
  unfold exitStatus
  omega

/-- What a step comes to. -/
inductive Status where
  | code (n : Int)
  | flag (b : Bool)
  deriving DecidableEq

namespace Status

def isZero : Status → Bool
  | code n => n == 0
  | flag b => !b

def toText : Status → String
  | code n => toString n
  | flag b => if b then "True" else "False"

end Status

end DeviceLauncher
