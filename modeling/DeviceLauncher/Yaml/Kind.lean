import DeviceLauncher.Yaml.Cursor
import DeviceLauncher.Yaml.Time

/-!
# What the scalars and collections of YAML 1.1 are

A tag gives the kind of a scalar or collection; without one, the form of a plain scalar does.
`Kind.ofForm` knows the forms of YAML 1.1, where `yes` and `off` are truth values, `010` is eight,
`1:30` is ninety and `1e3` is a text.
-/

namespace DeviceLauncher.Yaml

/-- What a tag says that a scalar or collection is. -/
inductive Kind where
  | null
  | bool
  | int
  | float
  | bytes
  | time
  | text
  | sequence
  | mapping
  | orderedMap
  | pairs
  | set
  /-- The key `<<`, under which a mapping takes in others. -/
  | merge
  /-- The scalar `=`, which is a text as a key and means nothing elsewhere. -/
  | default
  | unknown
  deriving DecidableEq

/-- The kind that a tag in full names. -/
def Kind.ofTag (tag : String) : Kind :=
  let known := [("null", null), ("bool", bool), ("int", int), ("float", float),
    ("binary", bytes), ("timestamp", time), ("str", text), ("seq", sequence), ("map", mapping),
    ("omap", orderedMap), ("pairs", pairs), ("set", set), ("merge", merge), ("value", default)]
  ((known.map fun (name, kind) => ("tag:yaml.org,2002:" ++ name, kind)).lookup tag).getD unknown

/-! ## Forms -/

def isBinaryDigit (c : Char) : Bool := c == '0' || c == '1'

def isOctalDigit (c : Char) : Bool := '0' ≤ c && c ≤ '7'

def isHexDigit (c : Char) : Bool := (hexDigit? c).isSome

/-- Whether all characters pass a test or are the `_` that may stand between digits. -/
def allOr (test : Char → Bool) (cs : List Char) : Bool := cs.all fun c => test c || c == '_'

def dropSign : List Char → List Char
  | '-' :: rest | '+' :: rest => rest
  | cs => cs

/-- Whether the text is a number of a sexagesimal place: one or two digits, below sixty. -/
def isSixty : List Char → Bool
  | [d] => d.isDigit
  | [a, d] => '0' ≤ a && a ≤ '5' && d.isDigit
  | _ => false

/-- Whether the text is a whole number with sexagesimal places after the first. -/
def isSexagesimal (first : List Char → Bool) (cs : List Char) : Bool :=
  match cs.splitOn ':' with
  | whole :: place :: places => first whole && (place :: places).all isSixty
  | _ => false

/-- Whether the text is a digit and more digits, which `_` may stand between. -/
def isDigits : List Char → Bool
  | [] => false
  | c :: rest => c.isDigit && allOr Char.isDigit rest

/-- Whether the text is `isDigits` and does not start with zero. -/
def isNatural (cs : List Char) : Bool := isDigits cs && cs.head? != some '0'

/-- Whether the text has the form of a whole number. -/
def isWhole (cs : List Char) : Bool :=
  match dropSign cs with
  | '0' :: 'b' :: rest => !rest.isEmpty && allOr isBinaryDigit rest
  | '0' :: 'x' :: rest => !rest.isEmpty && allOr isHexDigit rest
  | '0' :: rest => allOr isOctalDigit rest
  | cs => isNatural cs || isSexagesimal isNatural cs

/-- Whether the text is nothing, or an exponent with its sign. -/
def isExponent : List Char → Bool
  | [] => true
  | e :: sign :: digits =>
    (e == 'e' || e == 'E') && (sign == '-' || sign == '+') && !digits.isEmpty &&
      digits.all Char.isDigit
  | _ => false

/-- Whether the text is digits, as after a point, and an exponent. -/
def isFraction (cs : List Char) : Bool := isExponent (cs.dropWhile fun c => c.isDigit || c == '_')

/-- Whether the text has the form of a number with a point. -/
def isPoint (cs : List Char) : Bool :=
  let body := dropSign cs
  let whole := body.takeWhile (· != '.')
  match body.dropWhile (· != '.') with
  | _ :: rest =>
    if whole.isEmpty then
      ["inf", "Inf", "INF"].contains (String.ofList rest) ||
        (body == cs && ((rest.headD ' ').isDigit && isFraction rest ||
          ["nan", "NaN", "NAN"].contains (String.ofList rest)))
    else
      isDigits whole && isFraction rest || isSexagesimal isDigits whole && allOr Char.isDigit rest
  | [] => false

/-- The spellings of the two truth values. -/
def truths : List String := ["yes", "Yes", "YES", "true", "True", "TRUE", "on", "On", "ON"]

def falsehoods : List String := ["no", "No", "NO", "false", "False", "FALSE", "off", "Off", "OFF"]

/-- The kind of a scalar by its form, which a newline may end. A newline alone is a text. -/
def Kind.ofForm (s : String) : Kind :=
  let cs := if s == "\n" then s.toList else withoutNewline s.toList
  let s := String.ofList cs
  if truths.contains s || falsehoods.contains s then bool
  else if isPoint cs then float
  else if isWhole cs then int
  else if s == "<<" then merge
  else if ["", "~", "null", "Null", "NULL"].contains s then null
  else if isTime cs then time
  else if s == "=" then default
  else if ["!", "&", "*"].contains s then unknown
  else text

end DeviceLauncher.Yaml
