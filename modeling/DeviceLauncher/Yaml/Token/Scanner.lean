import DeviceLauncher.Yaml.Token
import DeviceLauncher.Yaml.Token.Scalar

/-!
# Reading the tokens of a YAML text

`Token.ofText` reads a whole text. What makes YAML awkward is that a mapping key is known as one
only by the `:` after it. So each token that could begin a key is remembered as a `Candidate`
together with its position among the tokens, and when the `:` comes the tokens for the key, and
for the mapping if it begins one, are put in front of it. A candidate lasts to the end of its
line, and at most 1024 characters.

If the text is not well formed, the tokens up to the fault are given together with the fault, as
far as nothing after them can change what they mean.
-/

namespace DeviceLauncher.Yaml

/-- A place where a key may have begun. -/
structure Candidate where
  /-- How many tokens came before. -/
  position : Nat
  /-- Whether the layout leaves nothing but a key to be there. -/
  required : Bool
  place : Cursor

/-- The state of reading tokens. -/
structure Scanner where
  cursor : Cursor
  /-- How many flow collections are open. -/
  flow : Int
  /-- The column of the innermost block collection, `-1` outside of all. -/
  indent : Int
  /-- The columns of the block collections around it. -/
  outer : List Int
  /-- Whether a key may begin here. -/
  keyAllowed : Bool
  /-- The candidates by the number of flow collections open where they stand. -/
  candidates : List (Int × Candidate)
  tokens : Array Token

namespace Scanner

/-- The state before the first character. -/
def start (text : List Char) : Scanner :=
  { cursor := Cursor.start text, flow := 0, indent := -1, outer := [], keyAllowed := true
    candidates := [], tokens := #[] }

def push (r : Scanner) (t : Token) : Scanner := { r with tokens := r.tokens.push t }

/-- Whether no flow collection is open. -/
def inBlock (r : Scanner) : Bool := r.flow == 0

/-- The candidate of the present collection. -/
def candidate? (r : Scanner) : Option Candidate := r.candidates.lookup r.flow

/-- Whether the line or the distance rules a candidate out. -/
def isStale (r : Scanner) (k : Candidate) : Bool :=
  k.place.line != r.cursor.line || 1024 < r.cursor.index - k.place.index

/-- Drops candidates that are ruled out. -/
def expire (r : Scanner) : Except Fault Scanner :=
  if r.candidates.any fun (_, k) => r.isStale k && k.required then .error .malformed
  else .ok { r with candidates := r.candidates.filter fun (_, k) => !r.isStale k }

/-- The tokens up to the first that may still become a key. What comes after it hangs on that. -/
def settled (r : Scanner) : List Token :=
  let positions := (r.candidates.filter fun (_, k) => !r.isStale k).map fun (_, k) => k.position
  match positions.min? with
  | some position => r.tokens.toList.take position
  | none => r.tokens.toList

/-- Drops the candidate of the present collection. -/
def dropCandidate (r : Scanner) : Except Fault Scanner :=
  match r.candidate? with
  | some k =>
    if k.required then .error .malformed
    else .ok { r with candidates := r.candidates.filter fun k => k.1 != r.flow }
  | none => .ok r

/-- Remembers that a key may begin here. -/
def remember (r : Scanner) : Except Fault Scanner :=
  if r.keyAllowed then do
    let required := r.inBlock && r.indent == r.cursor.column
    let r ← r.dropCandidate
    return { r with candidates := (r.flow, ⟨r.tokens.size, required, r.cursor⟩) :: r.candidates }
  else .ok r

/-- Closes the block collections deeper than a column. -/
def unwind (r : Scanner) (column : Int) : Scanner :=
  if !r.inBlock then r
  else
    let columns := r.indent :: r.outer
    let closed := (columns.takeWhile (column < ·)).length
    let kept := columns.drop closed
    { r with
      indent := kept.headD (-1), outer := kept.tail
      tokens := r.tokens ++ Array.replicate closed Token.blockEnd }

/-- Opens a block collection at a column, unless one is open there: the state, and whether. -/
def deepen (r : Scanner) (column : Nat) : Scanner × Bool :=
  if r.indent < column then ({ r with indent := column, outer := r.indent :: r.outer }, true)
  else (r, false)

/-- The place of the next token, past blanks, comments and breaks. A new line allows a key. -/
def skipBlanks : Nat → Scanner → Scanner
  | 0, r => r
  | fuel + 1, r =>
    let c := r.cursor.skip (· == ' ')
    let c := if c.peek == '#' then c.skip (!isEnd ·) else c
    if isBreak c.peek then
      skipBlanks fuel
        { r with cursor := c.lineBreak.2, keyAllowed := r.keyAllowed || r.inBlock }
    else { r with cursor := c }

/-! ## Marks -/

/-- A token of `n` characters that starts or ends a document. -/
def documentMark (r : Scanner) (t : Token) : Except Fault Scanner := do
  let r ← (r.unwind (-1)).dropCandidate
  return { r with keyAllowed := false, cursor := r.cursor.steps 3 }.push t

def openFlow (r : Scanner) (t : Token) : Except Fault Scanner := do
  let r ← r.remember
  return { r with flow := r.flow + 1, keyAllowed := true, cursor := r.cursor.step }.push t

def closeFlow (r : Scanner) (t : Token) : Except Fault Scanner := do
  let r ← r.dropCandidate
  return { r with flow := r.flow - 1, keyAllowed := false, cursor := r.cursor.step }.push t

def comma (r : Scanner) : Except Fault Scanner := do
  let r ← { r with keyAllowed := true }.dropCandidate
  return { r with cursor := r.cursor.step }.push .comma

/-- Makes sure that a block collection is open here, where a key may begin. -/
def openBlock (r : Scanner) (t : Token) : Except Fault Scanner :=
  if !r.inBlock then .ok r
  else if !r.keyAllowed then .error .malformed
  else
    let (r, opened) := r.deepen r.cursor.column
    .ok (if opened then r.push t else r)

def dash (r : Scanner) : Except Fault Scanner := do
  let r ← r.openBlock .blockSequence
  let r ← { r with keyAllowed := true }.dropCandidate
  return { r with cursor := r.cursor.step }.push .dash

/-- A `?` before a key. -/
def key (r : Scanner) : Except Fault Scanner := do
  let r ← r.openBlock .blockMapping
  let r ← { r with keyAllowed := r.inBlock }.dropCandidate
  return { r with cursor := r.cursor.step }.push .key

/-- A `:` before a value. What came before becomes a key if it is a candidate. -/
def value (r : Scanner) : Except Fault Scanner := do
  let r ← (
    match r.candidate? with
    | some k =>
      let r := { r with candidates := r.candidates.filter fun k => k.1 != r.flow }
      let (r, opened) := if r.inBlock then r.deepen k.place.column else (r, false)
      let insert (t : Token) (ts : Array Token) := ts.insertIdxIfInBounds k.position t
      .ok { r with
        keyAllowed := false
        tokens := (if opened then insert .blockMapping else id) (insert .key r.tokens) }
    | none => do
      let r ← r.openBlock .blockMapping
      { r with keyAllowed := r.inBlock }.dropCandidate)
  return { r with cursor := r.cursor.step }.push .value

/-! ## Directives, names and tags -/

/-- Characters of a tag from here on, with `%` and two digits for a byte of UTF-8. -/
def uriBytes (c : Cursor) : Nat → List UInt8 → List UInt8 × Cursor × Bool
  | 0, bytes => (bytes.reverse, c, false)
  | fuel + 1, bytes =>
    if c.peek != '%' then (bytes.reverse, c, true)
    else match hexDigit? (c.peekAt 1), hexDigit? (c.peekAt 2) with
      | some high, some low =>
        uriBytes (c.steps 3) fuel (UInt8.ofNat (16 * high + low) :: bytes)
      | _, _ => (bytes.reverse, c, false)

/-- Whether the character can stand in a tag. -/
def isUriChar (c : Char) : Bool :=
  c.isAlphanum || "-;/?:@&=+$,_.!~*'()[]".toList.contains c

/-- The characters of a tag. -/
def uri : Nat → Cursor → String → Except Fault (String × Cursor)
  | 0, _, _ => .error .malformed
  | fuel + 1, c, text =>
    if isUriChar c.peek then
      let (part, c) := c.span isUriChar
      uri fuel c (text ++ String.ofList part)
    else if c.peek == '%' then
      match uriBytes c c.fuel [] with
      | (bytes, c, true) =>
        match String.fromUTF8? ⟨bytes.toArray⟩ with
        | some part => uri fuel c (text ++ part)
        | none => .error .malformed
      | _ => .error .malformed
    else if text.isEmpty then .error .malformed
    else .ok (text, c)

/-- A handle of tags: `!`, `!!`, or a name between two `!`. -/
def handle (c : Cursor) : Except Fault (String × Cursor) :=
  if c.peek != '!' then .error .malformed
  else if c.peekAt 1 == ' ' then .ok ("!", c.step)
  else
    let (name, after) := c.step.span isNameChar
    if after.peek != '!' then .error .malformed
    else .ok ("!" ++ String.ofList name ++ "!", after.step)

/-- A number of a version. -/
def versionNumber (c : Cursor) : Except Fault (Nat × Cursor) :=
  let (digits, c) := c.span Char.isDigit
  if digits.isEmpty then .error .malformed
  else if mostDigits < digits.length then .error (.longNumber digits.length)
  else .ok (digits.foldl (fun n d => 10 * n + (d.toNat - '0'.toNat)) 0, c)

/-- A directive, from its `%` to the end of its line. -/
def readDirective (c : Cursor) : Except Fault (Directive × Cursor) := do
  let (name, c) := c.step.span isNameChar
  if name.isEmpty || !isSpaceOrEnd c.peek then throw .malformed
  let (d, c) ← (
    if name == "YAML".toList then do
      let (major, c) ← versionNumber (c.skip (· == ' '))
      if c.peek != '.' then throw .malformed
      let (minor, c) ← versionNumber c.step
      if !isSpaceOrEnd c.peek then throw .malformed
      return (Directive.version major minor, c)
    else if name == "TAG".toList then do
      let (handle, c) ← handle (c.skip (· == ' '))
      if c.peek != ' ' then throw .malformed
      let c := c.skip (· == ' ')
      let (leading, c) ← uri c.fuel c ""
      if !isSpaceOrEnd c.peek then throw .malformed
      return (Directive.tag handle leading, c)
    else return (Directive.unknown, c.skip (!isEnd ·)))
  match c.restOfLine? with
  | none => throw .malformed
  | some c => return (d, c)

def directive (r : Scanner) : Except Fault Scanner := do
  let r ← (r.unwind (-1)).dropCandidate
  let (d, c) ← readDirective r.cursor
  return { r with keyAllowed := false, cursor := c }.push (.directive d)

/-- The name after `&` or `*`. -/
def readName (c : Cursor) : Except Fault (String × Cursor) :=
  let (name, c) := c.step.span isNameChar
  let ends := isBlankOrEnd c.peek || ['?', ':', ',', ']', '\x7d', '%', '@', '\x60'].contains c.peek
  if name.isEmpty || !ends then .error .malformed else .ok (String.ofList name, c)

/-- The handle and the rest of a tag. -/
def readTag (c : Cursor) : Except Fault (Option String × String × Cursor) := do
  let next := c.peekAt 1
  let (handle, suffix, c) ← (
    if next == '<' then do
      let c := c.steps 2
      let (suffix, c) ← uri c.fuel c ""
      if c.peek != '>' then throw .malformed
      return ((none : Option String), suffix, c.step)
    else if isBlankOrEnd next then return (none, "!", c.step)
    else do
      let word := c.step.rest.takeWhile (!isSpaceOrEnd ·)
      let (handle, c) ← if word.contains '!' then handle c else .ok ("!", c.step)
      let (suffix, c) ← uri c.fuel c ""
      return (some handle, suffix, c))
  if isSpaceOrEnd c.peek then return (handle, suffix, c) else throw .malformed

/-! ## The next token -/

/-- Reads a token before which a key may begin. -/
def node (r : Scanner) (read : Cursor → Except Fault (Token × Cursor)) : Except Fault Scanner := do
  let r ← r.remember
  let (t, c) ← read r.cursor
  return { r with keyAllowed := false, cursor := c }.push t

/-- A plain scalar. After a line end inside it a key may begin again. -/
def plain (r : Scanner) : Except Fault Scanner := do
  let r ← r.remember
  let (text, c, newLine) := r.cursor.plain (!r.inBlock) (r.indent + 1)
  return { r with keyAllowed := newLine, cursor := c }.push (.scalar text true)

/-- A block scalar. After it a new line begins. -/
def blockScalar (r : Scanner) : Except Fault Scanner := do
  let r ← { r with keyAllowed := true }.dropCandidate
  let (text, c) ← r.cursor.block r.indent
  return { r with cursor := c }.push (.scalar text false)

/-- Whether a plain scalar can begin at a character, given the next one. -/
def beginsPlain (inBlock : Bool) (x next : Char) : Bool :=
  let indicators :=
    ['-', '?', ':', ',', '[', ']', '\x7b', '\x7d', '#', '&', '*', '!', '|', '>', '\'', '"', '%',
      '@', '\x60']
  (!isBlankOrEnd x && !indicators.contains x) ||
    (!isBlankOrEnd next && (x == '-' || (inBlock && (x == '?' || x == ':'))))

/-- Reads one token, or ends the text. -/
def next (r : Scanner) : Except Fault (Scanner × Bool) := do
  let r ← (skipBlanks r.cursor.fuel r).expire
  let r := r.unwind r.cursor.column
  let c := r.cursor
  let x := c.peek
  let blankNext := isBlankOrEnd (c.peekAt 1)
  if x == '\x00' then
    let r ← (r.unwind (-1)).dropCandidate
    return (r, true)
  let r ← (
    if x == '%' && c.column == 0 then r.directive
    else if c.column == 0 && c.atMarker '-' then r.documentMark .documentStart
    else if c.column == 0 && c.atMarker '.' then r.documentMark .documentEnd
    else if x == '[' then r.openFlow .flowSequence
    else if x == '\x7b' then r.openFlow .flowMapping
    else if x == ']' then r.closeFlow .flowSequenceEnd
    else if x == '\x7d' then r.closeFlow .flowMappingEnd
    else if x == ',' then r.comma
    else if x == '-' && blankNext then r.dash
    else if x == '?' && (!r.inBlock || blankNext) then r.key
    else if x == ':' && (!r.inBlock || blankNext) then r.value
    else if x == '*' then r.node fun c => (readName c).map fun (name, c) => (.alias name, c)
    else if x == '&' then r.node fun c => (readName c).map fun (name, c) => (.anchor name, c)
    else if x == '!' then
      r.node fun c => (readTag c).map fun (handle, suffix, c) => (.tag handle suffix, c)
    else if (x == '|' || x == '>') && r.inBlock then r.blockScalar
    else if x == '\'' || x == '"' then
      r.node fun c => c.quoted.map fun (text, c) => (.scalar text false, c)
    else if beginsPlain r.inBlock x (c.peekAt 1) then r.plain
    else throw .malformed)
  return (r, false)

/-- Reads tokens until the text ends or is found to be malformed. -/
def run : Nat → Scanner → List Token × Option Fault
  | 0, r => (r.tokens.toList, some .malformed)
  | fuel + 1, r =>
    match r.next with
    | .ok (r, true) => (r.tokens.toList, none)
    | .ok (r, false) => run fuel r
    | .error fault => (r.settled, some fault)

end Scanner

/-- Whether a name is set twice, or used before it is set. A name is set by an anchor with
something after it. -/
def Token.misnamed (names : List String) : List Token → Bool
  | [] => false
  | .alias name :: rest => !names.contains name || misnamed names rest
  | .anchor name :: rest =>
    let content := match rest with
      | .tag _ _ :: content => content
      | content => content
    names.contains name && !content.isEmpty || misnamed (name :: names) rest
  | _ :: rest => misnamed names rest

/-- The tokens of a text, and the fault at which they end, if any. A wrong name before that is a
fault of its own. A byte order mark may stand at the start. -/
def Token.ofText (text : List Char) : List Token × Option Fault :=
  if !text.all isAllowed then ([], some .malformed)
  else
    let text := if text.head? = some '\uFEFF' then text.tail else text
    let (tokens, fault) := Scanner.run (text.length + 2) (Scanner.start text)
    (tokens, fault.map fun fault => if Token.misnamed [] tokens then .malformed else fault)

end DeviceLauncher.Yaml
