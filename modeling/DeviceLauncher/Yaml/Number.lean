import DeviceLauncher.Text.Blank
import DeviceLauncher.Text.Digit
import DeviceLauncher.Text.LowerCase
import DeviceLauncher.Yaml.Kind

/-!
# Numbers in YAML 1.1

`readInt` and `readFloat` read a scalar as a number. Digits may be those of any script, `_` may
stand anywhere, and `:` stands between sexagesimal places.
-/

namespace DeviceLauncher.Yaml

/-- The value of a digit in a base up to 16, of any script. -/
def digitIn? (base : Nat) (c : Char) : Option Nat :=
  ((hexDigit? c).or (Text.digit? c)).filter (· < base)

/-- The letter that a number may carry after a zero, to say that its digits are those of a base. -/
def baseLetter? : Nat → Option Char
  | 2 => some 'b'
  | 8 => some 'o'
  | 16 => some 'x'
  | _ => none

/-- The digits of a number without the zero and the letter that name its base. -/
def dropBase (base : Nat) : List Char → List Char
  | zero :: letter :: rest =>
    if Text.digit? zero = some 0 ∧ baseLetter? base = some letter.toLower then rest
    else zero :: letter :: rest
  | cs => cs

/-- A whole number, with or without sign, in a base. Bases other than two, eight and sixteen are
read up to a limit of digits. -/
def readWhole (base : Nat) (cs : List Char) : Except Fault Int :=
  let body := Text.trimmed cs
  let (digits, rest) := (dropBase base (dropSign body)).span fun c => (digitIn? base c).isSome
  if base = 10 ∧ mostDigits < digits.length then .error (.longNumber digits.length)
  else if digits.isEmpty || !rest.isEmpty then .error (.wholeNumber base (String.ofList cs))
  else
    let n := digits.foldl (fun n c => base * n + (digitIn? base c).getD 0) 0
    .ok (if body.head? = some '-' then -(n : Int) else n)

/-- The number with the places given, the first one counting most. -/
def sexagesimal (places : List Int) : Int := places.foldl (fun n p => 60 * n + p) 0

/-- The text of a number without `_` and sign, and the sign. -/
def signAndBody (cs : List Char) : Except Fault (Int × List Char) :=
  match cs.filter (· != '_') with
  | [] => .error .emptyNumber
  | '-' :: rest => .ok (-1, rest)
  | '+' :: rest => .ok (1, rest)
  | cs => .ok (1, cs)

/-- A scalar of kind `int`. -/
def readInt (cs : List Char) : Except Fault Int := do
  let (sign, body) ← signAndBody cs
  let n ← (
    match body with
    | [] => .error .emptyNumber
    | ['0'] => .ok 0
    | '0' :: 'b' :: rest => readWhole 2 rest
    | '0' :: 'x' :: rest => readWhole 16 rest
    | '0' :: _ => readWhole 8 body
    | _ =>
      if body.contains ':' then ((body.splitOn ':').mapM (readWhole 10)).map sexagesimal
      else readWhole 10 body)
  return sign * n

/-- The number `digits * 10 ^ exponent`, rounded to the nearest floating-point number. Beyond all
such numbers it is infinite, below the least it is zero. -/
def floatOf (digits : Nat) (exponent : Int) : Float :=
  let places : Int := (Nat.toDigits 10 digits).length + exponent
  if digits = 0 || places < -400 then 0.0
  else if 400 < places then 1.0 / 0.0
  else Float.ofScientific digits (exponent < 0) exponent.natAbs

/-- An exponent of ten at the end of a number, or nothing. -/
def readExponent : List Char → Option Int
  | [] => some 0
  | e :: rest =>
    let digits := dropSign rest
    if (e == 'e' || e == 'E') && !digits.isEmpty && digits.all Text.isDigit then
      let n := digits.foldl (fun n c => 10 * n + (Text.digit? c).getD 0) 0
      some (if rest.head? = some '-' then -(n : Int) else n)
    else none

/-- A number without sign that may have a point and an exponent. -/
def readDecimal (cs : List Char) : Option Float := do
  let whole := cs.takeWhile Text.isDigit
  let rest := cs.dropWhile Text.isDigit
  let (fraction, rest) := match rest with
    | '.' :: rest => (rest.takeWhile Text.isDigit, rest.dropWhile Text.isDigit)
    | rest => ([], rest)
  if whole.isEmpty && fraction.isEmpty then none
  let exponent ← readExponent rest
  let digits := (whole ++ fraction).foldl (fun n c => 10 * n + (Text.digit? c).getD 0) 0
  return floatOf digits (exponent - fraction.length)

/-- A number with a point as it is written outside of YAML too, in small letters. -/
def readPoint (cs : List Char) : Except Fault Float :=
  let body := Text.trimmed cs
  let magnitude := dropSign body
  let name := String.ofList magnitude
  let x? :=
    if name = "inf" ∨ name = "infinity" then some (1.0 / 0.0)
    else if name = "nan" then some (0.0 / 0.0)
    else readDecimal magnitude
  match x? with
  | some x => .ok (if body.head? = some '-' then -x else x)
  | none => .error (.pointNumber (String.ofList cs))

/-- The whole numbers from here on are too large for a floating-point number. -/
def floatLimit : Nat := Nat.pow 2 1024 - Nat.pow 2 970

/-- The sum of sexagesimal places and a first part, the last place first, where each place counts
`unit` and sixty times as much as the one before it. -/
def addPlaces (sum : Float) (unit : Nat) : List Float → Except Fault Float
  | [] => .ok sum
  | place :: places =>
    if floatLimit ≤ unit then .error .longPlaces
    else addPlaces (sum + place * floatOf unit 0) (60 * unit) places

/-- A scalar of kind `float` without `_`, in small letters: the sign, and what follows it. -/
def signAndPoint (s : String) : Except Fault (Float × List Char) := do
  let small := Text.lowerCase (String.ofList (s.toList.filter (· != '_')))
  let (sign, body) ← signAndBody small.toList
  return (if sign < 0 then -1.0 else 1.0, body)

/-- Whether a scalar of kind `float` is the number that is none, by its name in YAML. -/
def isNamedNaN (s : String) : Bool :=
  match signAndPoint s with
  | .ok (_, body) => body == ".nan".toList
  | .error _ => false

/-- A scalar of kind `float`. -/
def readFloat (s : String) : Except Fault Float := do
  let (sign, body) ← signAndPoint s
  if body == ".inf".toList then return sign * (1.0 / 0.0)
  if body == ".nan".toList then return 0.0 / 0.0
  if body.contains ':' then
    let places ← (body.splitOn ':').mapM readPoint
    return sign * (← addPlaces 0.0 1 places.reverse)
  return sign * (← readPoint body)

end DeviceLauncher.Yaml
