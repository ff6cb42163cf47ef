import DeviceLauncher.Text.Base64
import DeviceLauncher.Yaml.Kind
import DeviceLauncher.Yaml.Number

/-!
# The values of YAML scalars

`Kind.read` reads the text of a scalar as a value of its kind.
-/

namespace DeviceLauncher.Yaml

/-- A scalar of kind `bool`. -/
def readBool (s : String) : Except Fault Bool :=
  let small := Text.lowerCase s
  if truths.contains small then .ok true
  else if falsehoods.contains small then .ok false
  else .error (.truthValue small)

/-- A text read as a value of a kind. Collections have no text. -/
def Kind.read (kind : Kind) (s : String) : Except Fault Value :=
  match kind with
  | null => .ok .null
  | bool => (readBool s).map .bool
  | int => (readInt s.toList).map .int
  | float => (readFloat s).map .float
  | bytes =>
    match if s.toList.all (·.toNat < 128) then Text.Base64.decode? s.toList else none with
    | some b => .ok (.bytes b)
    | none => .error .malformed
  | time => readMoment s.toList
  | text => .ok (.text s)
  | sequence | mapping | orderedMap | pairs | set | merge | default | unknown => .error .malformed

end DeviceLauncher.Yaml
