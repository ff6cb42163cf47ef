/-!
# The words of a shell command

A word is made of parts: texts, quoted or not, parameters, and scripts whose output is put in. What
parameters and scripts stand for is put in when the command runs. `Word.read?` takes a word from
the front of a text.
-/

namespace DeviceLauncher.Child.Shell

/-- What takes the place of the value of a parameter. -/
inductive Alternative where
  | none
  /-- A text, if the parameter has no value. -/
  | absent (s : String)
  /-- A text, if the parameter has no value or an empty one. -/
  | empty (s : String)
  /-- A text, if the parameter has a value. -/
  | present (s : String)
  deriving DecidableEq

/-- A part of a word. -/
inductive Part where
  | text (quoted : Bool) (s : String)
  | parameter (quoted : Bool) (name : String) (alternative : Alternative)
  /-- What a script writes. -/
  | output (quoted : Bool) (script : String)
  /-- A value that has been put in. -/
  | value (quoted : Bool) (s : String)
  deriving DecidableEq

abbrev Word := List Part

def isBlank (c : Char) : Bool := c == ' ' || c == '\t'

/-- Whether the character ends a word that is not quoted. -/
def endsWord (c : Char) : Bool :=
  isBlank c || ['\n', ';', '&', '|', '<', '>', '(', ')'].contains c

def isNameStart (c : Char) : Bool := c.isAlpha || c == '_'

def isNameChar (c : Char) : Bool := c.isAlphanum || c == '_'

/-- Whether the text is the name of a variable. -/
def isName (cs : List Char) : Bool :=
  match cs with
  | [] => false
  | c :: _ => isNameStart c && cs.all isNameChar

/-- The parameters that are named by one sign. -/
def isSpecial (c : Char) : Bool := ['@', '*', '#', '?', '$', '!'].contains c || c.isDigit

namespace Word

/-- The parameter between braces. -/
def bracedPart (quoted : Bool) (body : List Char) : Part :=
  let name := match body with
    | c :: _ => if isSpecial c then [c] else body.takeWhile isNameChar
    | [] => []
  let alternative : Alternative := match body.drop name.length with
    | '-' :: text => .absent (String.ofList text)
    | ':' :: '-' :: text => .empty (String.ofList text)
    | '+' :: text | ':' :: '+' :: text => .present (String.ofList text)
    | _ => .none
  .parameter quoted (String.ofList name) alternative

/-- The script up to the parenthesis that closes it, of which `depth` more are open. -/
def scriptIn : Nat → List Char → Option (List Char)
  | _, [] => none
  | 0, ')' :: _ => some []
  | depth + 1, ')' :: rest => (scriptIn depth rest).map (')' :: ·)
  | depth, '(' :: rest => (scriptIn (depth + 1) rest).map ('(' :: ·)
  | depth, c :: rest => (scriptIn depth rest).map (c :: ·)

/-- The part after a `$`, and how many characters it takes. -/
def dollarPart (quoted : Bool) (cs : List Char) : Part × Nat :=
  match cs with
  | '\x7b' :: rest =>
    let body := rest.takeWhile (· != '\x7d')
    (bracedPart quoted body, body.length + 2)
  | '(' :: rest =>
    match scriptIn 0 rest with
    | some body => (.output quoted (String.ofList body), body.length + 2)
    | none => (.text quoted "$", 0)
  | c :: _ =>
    if isNameStart c then
      let name := cs.takeWhile isNameChar
      (.parameter quoted (String.ofList name) .none, name.length)
    else if isSpecial c then (.parameter quoted (String.singleton c) .none, 1)
    else (.text quoted "$", 0)
  | [] => (.text quoted "$", 0)

/-- The script between backquotes, and how many characters it takes with the last one. -/
def backquoted (quoted : Bool) (cs : List Char) : Part × Nat :=
  let body := cs.takeWhile (· != '\x60')
  (.output quoted (String.ofList body), body.length + 1)

/-- Whether a backslash between double quotes takes the meaning from the character. -/
def isEscapable (c : Char) : Bool := ['$', '\x60', '"', '\\'].contains c

/-- The parts between double quotes, and what follows; nothing if the quotes are not closed. -/
def doubleQuoted : Nat → List Char → Option (Word × List Char)
  | 0, _ => none
  | _ + 1, [] => none
  | _ + 1, '"' :: rest => some ([], rest)
  | fuel + 1, '\\' :: c :: rest =>
    let kept := if isEscapable c then [c] else if c == '\n' then [] else ['\\', c]
    (doubleQuoted fuel rest).map fun (parts, rest) =>
      (.text true (String.ofList kept) :: parts, rest)
  | fuel + 1, '$' :: rest =>
    let (part, n) := dollarPart true rest
    (doubleQuoted fuel (rest.drop n)).map fun (parts, rest) => (part :: parts, rest)
  | fuel + 1, '\x60' :: rest =>
    let (part, n) := backquoted true rest
    (doubleQuoted fuel (rest.drop n)).map fun (parts, rest) => (part :: parts, rest)
  | fuel + 1, c :: rest =>
    (doubleQuoted fuel rest).map fun (parts, rest) =>
      (.text true (String.singleton c) :: parts, rest)

/-- The parts of a word, and what follows. -/
def readWithin : Nat → List Char → Option (Word × List Char)
  | 0, _ => none
  | _ + 1, [] => some ([], [])
  | fuel + 1, '\'' :: rest =>
    let body := rest.takeWhile (· != '\'')
    match rest.drop body.length with
    | [] => none
    | _ :: rest =>
      (readWithin fuel rest).map fun (parts, rest) =>
        (.text true (String.ofList body) :: parts, rest)
  | fuel + 1, '"' :: rest => do
    let (quoted, rest) ← doubleQuoted (rest.length + 1) rest
    let (parts, rest) ← readWithin fuel rest
    return (.text true "" :: quoted ++ parts, rest)
  | fuel + 1, '\\' :: c :: rest =>
    let part := if c == '\n' then [] else [Part.text true (String.singleton c)]
    (readWithin fuel rest).map fun (parts, rest) => (part ++ parts, rest)
  | fuel + 1, '$' :: rest =>
    let (part, n) := dollarPart false rest
    (readWithin fuel (rest.drop n)).map fun (parts, rest) => (part :: parts, rest)
  | fuel + 1, '\x60' :: rest =>
    let (part, n) := backquoted false rest
    (readWithin fuel (rest.drop n)).map fun (parts, rest) => (part :: parts, rest)
  | fuel + 1, c :: rest =>
    if endsWord c then some ([], c :: rest)
    else
      (readWithin fuel rest).map fun (parts, rest) =>
        (.text false (String.singleton c) :: parts, rest)

/-- The word at the front of a text, and what follows; nothing if a quote is not closed. -/
def read? (cs : List Char) : Option (Word × List Char) := readWithin (cs.length + 1) cs

/-- The text of a word without quotes and parameters. -/
def plain? (w : Word) : Option String :=
  (w.mapM fun (part : Part) => match part with
    | .text false s => some s
    | _ => none).map String.join

end Word

end DeviceLauncher.Child.Shell
