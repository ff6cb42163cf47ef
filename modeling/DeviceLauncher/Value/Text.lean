import DeviceLauncher.Failure
import DeviceLauncher.Value.Basic

/-!
# Values as texts

A value has two texts. `Value.literal` shows it as a part of another value or of a message, so
that texts stand between quotes; `Value.toText` is what it means as an argument or a name, where
a text is itself. They differ for texts, dates and times only.

A collection inside itself is shown as three dots between its brackets. Whole numbers with too
many digits have no text.
-/

namespace DeviceLauncher.Value

/-- Floating-point numbers are written without exponent from `0.0001` up to 16 places. -/
def numberFormat : Decimal.Format := ⟨-4, 16, "nan", "inf", 2⟩

/-- The whole numbers from here on have too many digits to be written. -/
def wholeLimit : Nat := Nat.pow 10 Yaml.mostDigits

/-- A whole number in decimal digits. -/
def wholeText (n : Int) : Except Failure String :=
  if n.natAbs < wholeLimit then .ok (toString n) else .error .longNumber

/-- A collection where it stands inside itself. -/
def ellipsis : Value → String
  | list _ => "[...]"
  | map _ => "\x7b...\x7d"
  | pair _ _ => "(...)"
  | _ => "..."

mutual

/-- The value as it is shown inside another one, given how knots are shown. -/
def literalWith (knotText : Nat → Except Failure String) : Value → Except Failure String
  | null => .ok "None"
  | bool b => .ok (if b then "True" else "False")
  | int n => wholeText n
  | float x => .ok (numberFormat.write x)
  | text s => .ok (Text.literal s)
  | bytes b => .ok (Text.bytesLiteral b)
  | date d => .ok d.literal
  | moment m => .ok m.literal
  | list items => do return "[" ++ ", ".intercalate (← literalsWith knotText items) ++ "]"
  | map entries => do
    return "\x7b" ++ ", ".intercalate (← entryLiteralsWith knotText entries) ++ "\x7d"
  | set [] => .ok "set()"
  | set items => do return "\x7b" ++ ", ".intercalate (← literalsWith knotText items) ++ "\x7d"
  | pair first second => do
    return "(" ++ (← literalWith knotText first) ++ ", " ++ (← literalWith knotText second) ++ ")"
  | knot n => knotText n

/-- Each of some values as it is shown inside another one. -/
def literalsWith (knotText : Nat → Except Failure String) :
    List Value → Except Failure (List String)
  | [] => .ok []
  | v :: rest => do return (← literalWith knotText v) :: (← literalsWith knotText rest)

/-- Each entry of a map as it is shown. -/
def entryLiteralsWith (knotText : Nat → Except Failure String) :
    List (Value × Value) → Except Failure (List String)
  | [] => .ok []
  | (k, v) :: rest => do
    let shown := (← literalWith knotText k) ++ ": " ++ (← literalWith knotText v)
    return shown :: (← entryLiteralsWith knotText rest)

end

/-- The value as it is shown inside some knots, where at most `closed` others can be met. -/
def literalInside (ks : Knots) : Nat → List Nat → Value → Except Failure String
  | 0, _, v => v.literalWith fun n => .ok (ks.untie (knot n)).ellipsis
  | closed + 1, opened, v =>
    v.literalWith fun n =>
      if opened.contains n then .ok (ks.untie (knot n)).ellipsis
      else literalInside ks closed (n :: opened) (ks.untie (knot n))

/-- The value as it is shown inside another one. -/
def literal (ks : Knots) (v : Value) : Except Failure String := literalInside ks ks.length [] v

/-- The value as an argument, a path or a name. -/
def toText (ks : Knots) : Value → Except Failure String
  | text s => .ok s
  | date d => .ok d.toString
  | moment m => .ok m.toString
  | v => v.literal ks

end DeviceLauncher.Value
