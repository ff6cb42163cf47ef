/-!
# A place in a YAML text

`Cursor` is what is left of a text, with the line and column of its first character. Past the end
stands the character NUL, which no document may hold. The classes of characters that the tokens
are told apart by are here too.
-/

namespace DeviceLauncher.Yaml

/-- Whether the character ends a line. -/
def isBreak (c : Char) : Bool :=
  c == '\n' || c == '\r' || c == '\u0085' || c == '\u2028' || c == '\u2029'

/-- Whether the character ends a line or the text. -/
def isEnd (c : Char) : Bool := c == '\x00' || isBreak c

/-- Whether the character is a space or ends a line or the text. -/
def isSpaceOrEnd (c : Char) : Bool := c == ' ' || isEnd c

/-- Whether the character is a space or tab or ends a line or the text. -/
def isBlankOrEnd (c : Char) : Bool := c == ' ' || c == '\t' || isEnd c

/-- Whether the character can stand in the name of an anchor, handle or directive. -/
def isNameChar (c : Char) : Bool := c.isAlphanum || c == '-' || c == '_'

/-- The value of a hexadecimal digit. -/
def hexDigit? (c : Char) : Option Nat :=
  if c.isDigit then some (c.toNat - '0'.toNat)
  else if 'a' ≤ c && c ≤ 'f' then some (c.toNat - 'a'.toNat + 10)
  else if 'A' ≤ c && c ≤ 'F' then some (c.toNat - 'A'.toNat + 10)
  else none

/-- The value of a run of hexadecimal digits. -/
def hexValue (digits : List Char) : Nat :=
  digits.foldl (fun n c => 16 * n + (hexDigit? c).getD 0) 0

/-- Whether a document may hold the character. -/
def isAllowed (c : Char) : Bool :=
  c == '\t' || c == '\n' || c == '\r' || c == '\u0085' || (' ' ≤ c && c ≤ '~') ||
    (0xA0 ≤ c.toNat && c.toNat ≤ 0xFFFD) || 0x10000 ≤ c.toNat

/-- What is left of a text, how many characters came before, and the line and column reached. -/
structure Cursor where
  rest : List Char
  /-- How many characters the whole text has. -/
  size : Nat
  index : Nat
  line : Nat
  column : Nat

namespace Cursor

/-- The start of a text. -/
def start (text : List Char) : Cursor := ⟨text, text.length, 0, 0, 0⟩

/-- The next character; NUL at the end. -/
def peek (c : Cursor) : Char := c.rest.headD '\x00'

/-- The character after `n` others; NUL beyond the end. -/
def peekAt (c : Cursor) (n : Nat) : Char := (c.rest.drop n).headD '\x00'

/-- The place after the next character. A byte order mark takes no column. -/
def step (c : Cursor) : Cursor :=
  match c.rest with
  | [] => c
  | x :: rest =>
    if x == '\n' || x == '\u0085' || x == '\u2028' || x == '\u2029' ||
        (x == '\r' && rest.headD '\x00' != '\n') then
      { c with rest, index := c.index + 1, line := c.line + 1, column := 0 }
    else if x == '\uFEFF' then { c with rest, index := c.index + 1 }
    else { c with rest, index := c.index + 1, column := c.column + 1 }

/-- The place after `n` characters. -/
def steps (c : Cursor) : Nat → Cursor
  | 0 => c
  | n + 1 => c.step.steps n

/-- The characters from here on that pass a test, and the place after them. -/
def span (c : Cursor) (test : Char → Bool) : List Char × Cursor :=
  let taken := c.rest.takeWhile test
  (taken, c.steps taken.length)

/-- The place after the characters that pass a test. -/
def skip (c : Cursor) (test : Char → Bool) : Cursor := (c.span test).2

/-- The line break here as it counts in a text, and the place after it. Breaks of one kind are
read as a newline; the line and paragraph separators are kept. -/
def lineBreak (c : Cursor) : String × Cursor :=
  let x := c.peek
  if x == '\r' && c.peekAt 1 == '\n' then ("\n", c.steps 2)
  else if x == '\n' || x == '\r' || x == '\u0085' then ("\n", c.step)
  else if x == '\u2028' || x == '\u2029' then (String.singleton x, c.step)
  else ("", c)

/-- Whether a line that starts here is the marker made of three of the character. -/
def atMarker (c : Cursor) (x : Char) : Bool :=
  c.rest.take 3 == [x, x, x] && isBlankOrEnd (c.peekAt 3)

/-- Whether a line that starts here begins or ends a document. -/
def atDocumentMarker (c : Cursor) : Bool := c.atMarker '-' || c.atMarker '.'

/-- The place at the end of the line, past spaces and a comment; `none` if anything else is on
the line. -/
def restOfLine? (c : Cursor) : Option Cursor :=
  let c := c.skip (· == ' ')
  let c := if c.peek == '#' then c.skip (!isEnd ·) else c
  if isEnd c.peek then some c.lineBreak.2 else none

end Cursor

end DeviceLauncher.Yaml
