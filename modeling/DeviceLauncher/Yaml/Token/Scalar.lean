import DeviceLauncher.Yaml.Cursor
import DeviceLauncher.Yaml.Fault

/-!
# Scalars in a YAML text

A scalar is written plain, between quotes, or as an indented block. Each reader here starts at a
cursor and gives the text that the scalar denotes and the place after it. Line breaks inside a
plain or quoted scalar are folded: one becomes a space, and more become one less.

The readers take an amount of fuel that bounds their rounds. Each round consumes a character, so
the number of characters of the text, plus one, is enough.
-/

namespace DeviceLauncher.Yaml

namespace Cursor

/-- Enough rounds for a reader that starts here. -/
def fuel (c : Cursor) : Nat := c.size + 1

/-- A break followed by more breaks, as the text between two lines of a scalar. -/
def folded (first more : String) : String :=
  if first != "\n" then first ++ more else if more.isEmpty then " " else more

/-! ## Plain scalars -/

/-- Whether a plain scalar ends at a character, given the next one. -/
def endsPlain (flow : Bool) (x next : Char) : Bool :=
  isBlankOrEnd x ||
    (x == ':' && (isBlankOrEnd next || (flow && [',', '[', ']', '\x7b', '\x7d'].contains next))) ||
    (flow && [',', '?', '[', ']', '\x7b', '\x7d'].contains x)

/-- The part of a plain scalar up to the next blank. -/
def plainPart (flow : Bool) : List Char → List Char
  | [] => []
  | x :: rest => if endsPlain flow x (rest.headD '\x00') then [] else x :: plainPart flow rest

/-- The breaks and spaces from here on, as a text of the breaks; no text if the line after a
break is a document marker. -/
def plainBreaks : Nat → Cursor → String → Option String × Cursor
  | 0, c, text => (some text, c)
  | fuel + 1, c, text =>
    if c.peek == ' ' then plainBreaks fuel c.step text
    else if isBreak c.peek then
      let (br, c) := c.lineBreak
      if c.atDocumentMarker then (none, c) else plainBreaks fuel c (text ++ br)
    else (some text, c)

/-- What stands between two parts of a plain scalar: the text for it, none at a document marker;
the place after it; and whether a line ended. -/
def plainGap (c : Cursor) : Option String × Cursor × Bool :=
  let (spaces, c) := c.span (· == ' ')
  if isBreak c.peek then
    let (br, c) := c.lineBreak
    if c.atDocumentMarker then (none, c, true)
    else
      let (more, c) := plainBreaks c.fuel c ""
      (more.map (folded br), c, true)
  else (some (String.ofList spaces), c, false)

/-- The parts of a plain scalar that stand at least at an indentation. -/
def plainParts (flow : Bool) (indent : Int) :
    Nat → Cursor → String → String → Bool → String × Cursor × Bool
  | 0, c, text, _, newLine => (text, c, newLine)
  | fuel + 1, c, text, gap, newLine =>
    let part := if c.peek == '#' then [] else plainPart flow c.rest
    if part.isEmpty then (text, c, newLine)
    else
      let text := text ++ gap ++ String.ofList part
      match plainGap (c.steps part.length) with
      | (none, c, newLine) => (text, c, newLine)
      | (some gap, c, newLine) =>
        if gap.isEmpty || c.peek == '#' || (!flow && (c.column : Int) < indent) then
          (text, c, newLine)
        else plainParts flow indent fuel c text gap newLine

/-- A plain scalar: its text, the place after it, and whether a line ended at the last. -/
def plain (c : Cursor) (flow : Bool) (indent : Int) : String × Cursor × Bool :=
  plainParts flow indent c.fuel c "" "" false

/-! ## Quoted scalars -/

/-- The character that an escape letter stands for. -/
def escape? (x : Char) : Option Char :=
  [('0', '\x00'), ('a', '\x07'), ('b', '\x08'), ('t', '\t'), ('\t', '\t'), ('n', '\n'),
    ('v', '\x0b'), ('f', '\x0c'), ('r', '\r'), ('e', '\x1b'), (' ', ' '), ('"', '"'),
    ('\\', '\\'), ('/', '/'), ('N', '\u0085'), ('_', '\u00a0'), ('L', '\u2028'),
    ('P', '\u2029')].lookup x

/-- The number of hexadecimal digits after an escape letter. -/
def escapeWidth? (x : Char) : Option Nat := [('x', 2), ('u', 4), ('U', 8)].lookup x

/-- The breaks between two lines of a quoted scalar. Document markers may not stand there. -/
def quotedBreaks : Nat → Cursor → String → Except Fault (String × Cursor)
  | 0, _, _ => .error .malformed
  | fuel + 1, c, text =>
    if c.atDocumentMarker then .error .malformed
    else
      let c := c.skip fun x => x == ' ' || x == '\t'
      if isBreak c.peek then
        let (br, c) := c.lineBreak
        quotedBreaks fuel c (text ++ br)
      else .ok (text, c)

/-- The blanks and breaks inside a quoted scalar, as text. -/
def quotedGap (c : Cursor) : Except Fault (String × Cursor) :=
  let (blanks, c) := c.span fun x => x == ' ' || x == '\t'
  if c.peek == '\x00' then .error .malformed
  else if isBreak c.peek then do
    let (br, c) := c.lineBreak
    let (more, c) ← quotedBreaks c.fuel c ""
    return (folded br more, c)
  else .ok (String.ofList blanks, c)

/-- The text of one character, by its number. -/
def numbered (code : Nat) : Except Fault String :=
  if 0x7FFFFFFF < code then .error .longCharacterNumber
  else if 0x10FFFF < code then .error .characterNumber
  else if code.isValidChar then .ok (String.singleton (Char.ofNat code))
  else .error .surrogate

/-- An escape in a scalar between double quotes, from the letter on. -/
def escaped (c : Cursor) : Except Fault (String × Cursor) :=
  match escape? c.peek, escapeWidth? c.peek with
  | some x, _ => .ok (String.singleton x, c.step)
  | none, some width =>
    let digits := c.step.rest.take width
    if digits.length < width || digits.any fun x => (hexDigit? x).isNone then .error .malformed
    else do return (← numbered (hexValue digits), c.step.steps width)
  | none, none =>
    if isBreak c.peek then quotedBreaks c.fuel c.lineBreak.2 "" else .error .malformed

/-- A scalar from after its opening quote to after the closing one. -/
def quotedParts (quote : Char) : Nat → Cursor → String → Except Fault (String × Cursor)
  | 0, _, _ => .error .malformed
  | fuel + 1, c, text =>
    let x := c.peek
    if x == quote then
      if quote == '\'' && c.peekAt 1 == '\'' then
        quotedParts quote fuel (c.steps 2) (text.push '\'')
      else .ok (text, c.step)
    else if isBlankOrEnd x then do
      let (gap, c) ← quotedGap c
      quotedParts quote fuel c (text ++ gap)
    else if quote == '"' && x == '\\' then do
      let (escaped, c) ← escaped c.step
      quotedParts quote fuel c (text ++ escaped)
    else quotedParts quote fuel c.step (text.push x)

/-- The scalar between quotes that starts here. -/
def quoted (c : Cursor) : Except Fault (String × Cursor) := quotedParts c.peek c.fuel c.step ""

/-! ## Block scalars -/

/-- What becomes of the breaks at the end of a block scalar. -/
inductive Chomping where
  | strip
  | clip
  | keep
  deriving DecidableEq

/-- The sign that says what becomes of the last breaks. -/
def chomping? (x : Char) : Option Chomping :=
  if x == '+' then some .keep else if x == '-' then some .strip else none

/-- The digit that gives the indentation of a block scalar. -/
def indentDigit? (x : Char) : Except Fault (Option Nat) :=
  if x == '0' then .error .malformed
  else .ok (if x.isDigit then some (x.toNat - '0'.toNat) else none)

/-- The signs after the indicator of a block scalar, in either order. -/
def blockHeader (c : Cursor) : Except Fault (Chomping × Option Nat × Cursor) := do
  let (chomping, increment, c) ← (
    match chomping? c.peek with
    | some chomping => do
      let increment ← indentDigit? c.step.peek
      return (some chomping, increment, c.steps (if increment.isSome then 2 else 1))
    | none => do
      let increment ← indentDigit? c.peek
      match increment with
      | none => return (none, none, c)
      | some n =>
        let chomping := chomping? c.step.peek
        return (chomping, some n, c.steps (if chomping.isSome then 2 else 1)))
  if !isSpaceOrEnd c.peek then throw .malformed
  match c.restOfLine? with
  | none => throw .malformed
  | some c => return (chomping.getD .clip, increment, c)

/-- The empty lines before a block scalar, and the deepest column that their spaces reach. -/
def blockIndentation : Nat → Cursor → String → Nat → String × Nat × Cursor
  | 0, c, text, deepest => (text, deepest, c)
  | fuel + 1, c, text, deepest =>
    if c.peek == ' ' then blockIndentation fuel c.step text (max deepest c.step.column)
    else if isBreak c.peek then
      let (br, c) := c.lineBreak
      blockIndentation fuel c (text ++ br) deepest
    else (text, deepest, c)

/-- The place after the spaces up to an indentation. -/
def upTo (c : Cursor) (indent : Nat) : Cursor :=
  c.steps (min (indent - c.column) (c.rest.takeWhile (· == ' ')).length)

/-- The empty lines between lines of a block scalar, up to its indentation on the next line. -/
def blockBreaks (indent : Nat) : Nat → Cursor → String → String × Cursor
  | 0, c, text => (text, c)
  | fuel + 1, c, text =>
    let c := c.upTo indent
    if isBreak c.peek then
      let (br, c) := c.lineBreak
      blockBreaks indent fuel c (text ++ br)
    else (text, c)

/-- The lines of a block scalar: the text, the last break, the empty lines after it. In a folded
scalar a single break between two lines that do not start with a blank is a space. -/
def blockLines (fold : Bool) (indent : Nat) :
    Nat → Cursor → String → String → String × String × String × Cursor
  | 0, c, text, breaks => (text, "", breaks, c)
  | fuel + 1, c, text, breaks =>
    let leading := c.peek != ' ' && c.peek != '\t'
    let (line, c) := c.span (!isEnd ·)
    let text := text ++ breaks ++ String.ofList line
    let (br, c) := c.lineBreak
    let (breaks, c) := blockBreaks indent c.fuel c ""
    if c.column = indent && c.peek != '\x00' then
      let joined :=
        if fold && br == "\n" && leading && c.peek != ' ' && c.peek != '\t' then
          if breaks.isEmpty then " " else ""
        else br
      blockLines fold indent fuel c (text ++ joined) breaks
    else (text, br, breaks, c)

/-- The block scalar that starts here, inside a collection at an indentation. -/
def block (c : Cursor) (outer : Int) : Except Fault (String × Cursor) := do
  let fold := c.peek == '>'
  let (chomping, increment, c) ← c.step.blockHeader
  let least := (max (outer + 1) 1).toNat
  let (breaks, indent, c) := match increment with
    | some n =>
      let indent := least + n - 1
      let (breaks, c) := blockBreaks indent c.fuel c ""
      (breaks, indent, c)
    | none =>
      let (breaks, deepest, c) := blockIndentation c.fuel c "" 0
      (breaks, max least deepest, c)
  let (text, last, breaks, c) :=
    if c.column = indent && c.peek != '\x00' then blockLines fold indent c.fuel c "" breaks
    else ("", "", breaks, c)
  match chomping with
  | .strip => return (text, c)
  | .clip => return (text ++ last, c)
  | .keep => return (text ++ last ++ breaks, c)

end Cursor

end DeviceLauncher.Yaml
