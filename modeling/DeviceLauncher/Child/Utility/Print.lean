/-!
# Printing words

The texts of the two programs that print their words: `echoText` puts them on a line, and
`printfText` puts them into a format, which it uses again while words are left.
-/

namespace DeviceLauncher.Child.Utility

/-- The value of a run of octal digits. -/
def octal (digits : List Char) : Nat :=
  digits.foldl (fun n d => 8 * n + (d.toNat - '0'.toNat)) 0

def isOctal (c : Char) : Bool := '0' ≤ c && c ≤ '7'

/-- The character that an escape letter stands for in printed text. -/
def escape? (c : Char) : Option Char :=
  [('a', '\x07'), ('b', '\x08'), ('f', '\x0c'), ('n', '\n'), ('r', '\r'), ('t', '\t'),
    ('v', '\x0b'), ('\\', '\\')].lookup c

/-- A text with its escapes replaced, and whether `\c` cut it short. An octal number follows a
zero. -/
def unescape : Nat → List Char → List Char × Bool
  | 0, _ => ([], false)
  | _ + 1, [] => ([], false)
  | fuel + 1, '\\' :: c :: rest =>
    let more (cs : List Char) (rest : List Char) :=
      let (text, cut) := unescape fuel rest
      (cs ++ text, cut)
    if c == 'c' then ([], true)
    else if c == '0' then
      let digits := (rest.takeWhile isOctal).take 3
      more [Char.ofNat (octal digits)] (rest.drop digits.length)
    else match escape? c with
      | some x => more [x] rest
      | none => more ['\\', c] rest
  | fuel + 1, c :: rest =>
    let (text, cut) := unescape fuel rest
    (c :: text, cut)

/-- Words with spaces between and a line end, unless the first word is `-n`. -/
def echoText (escapes : Bool) (words : List String) : String :=
  let (line, words) := match words with
    | "-n" :: words => (false, words)
    | words => (true, words)
  let text := (" ".intercalate words).toList
  let (text, cut) := if escapes then unescape (text.length + 1) text else (text, false)
  String.ofList (if line && !cut then text ++ ['\n'] else text)

/-! ## Formats -/

/-- What a format says about one word: the side on which it stands, what fills the width, how much
of it is shown, and as what. -/
structure Directive where
  left : Bool
  fill : Char
  width : Nat
  precision : Option Nat
  kind : Char

namespace Directive

/-- The number at the front of a text. -/
def number (cs : List Char) : Nat × List Char :=
  let digits := cs.takeWhile Char.isDigit
  (digits.foldl (fun n d => 10 * n + (d.toNat - '0'.toNat)) 0, cs.drop digits.length)

/-- The directive after a `%`, and what follows. -/
def read? (cs : List Char) : Option (Directive × List Char) :=
  let flags := cs.takeWhile fun c => c == '-' || c == '0'
  let (width, rest) := number (cs.drop flags.length)
  let (precision, rest) := match rest with
    | '.' :: rest => let (n, rest) := number rest; (some n, rest)
    | rest => (none, rest)
  match rest with
  | kind :: rest =>
    let left := flags.contains '-'
    let fill := if flags.contains '0' && !left then '0' else ' '
    some (⟨left, fill, width, precision, kind⟩, rest)
  | [] => none

/-- A text filled up to the width. -/
def pad (d : Directive) (text : List Char) : List Char :=
  let fill := List.replicate (d.width - text.length) d.fill
  if d.left then text ++ fill
  else match text with
    | '-' :: digits => if d.fill = '0' then '-' :: fill ++ digits else fill ++ text
    | _ => fill ++ text

/-- The number that a word means. -/
def value (word : List Char) : Int :=
  match word with
  | '-' :: digits => -((number digits).1 : Int)
  | '+' :: digits => ((number digits).1 : Int)
  | digits => ((number digits).1 : Int)

/-- A word as the directive shows it. -/
def render (d : Directive) (word : String) : List Char :=
  let word := word.toList
  let cut (text : List Char) : List Char := match d.precision with
    | some n => text.take n
    | none => text
  let digits (base : Nat) : List Char := Nat.toDigits base (value word).toNat
  match d.kind with
  | 's' => d.pad (cut word)
  | 'b' => d.pad (cut (unescape (word.length + 1) word).1)
  | 'c' => d.pad (word.take 1)
  | 'd' | 'i' => d.pad (toString (value word)).toList
  | 'u' => d.pad (digits 10)
  | 'o' => d.pad (digits 8)
  | 'x' => d.pad (digits 16)
  | 'X' => d.pad ((digits 16).map Char.toUpper)
  | kind => ['%', kind]

end Directive

/-- One pass over a format: the text, and the words that are left. -/
def formatOnce : Nat → List Char → List String → List Char × List String
  | 0, _, words => ([], words)
  | _ + 1, [], words => ([], words)
  | fuel + 1, '%' :: '%' :: rest, words =>
    let (text, words) := formatOnce fuel rest words
    ('%' :: text, words)
  | fuel + 1, '%' :: rest, words =>
    match Directive.read? rest with
    | some (d, rest) =>
      let (text, left) := formatOnce fuel rest words.tail
      (d.render (words.head?.getD "") ++ text, left)
    | none => (['%'], words)
  | fuel + 1, '\\' :: c :: rest, words =>
    let digits := ((c :: rest).takeWhile isOctal).take 3
    let (shown, rest) :=
      if !digits.isEmpty then ([Char.ofNat (octal digits)], (c :: rest).drop digits.length)
      else match escape? c with
        | some x => ([x], rest)
        | none => (['\\', c], rest)
    let (text, words) := formatOnce fuel rest words
    (shown ++ text, words)
  | fuel + 1, c :: rest, words =>
    let (text, words) := formatOnce fuel rest words
    (c :: text, words)

/-- Passes over a format until no word is left, or a pass uses none. -/
def formatAll (format : List Char) : Nat → List String → List Char
  | 0, _ => []
  | fuel + 1, words =>
    let (text, left) := formatOnce (format.length + 1) format words
    if left.isEmpty || left.length == words.length then text
    else text ++ formatAll format fuel left

/-- Words put into a format, which is used again while words are left. -/
def printfText (format : String) (words : List String) : String :=
  String.ofList (formatAll format.toList (words.length + 1) words)

end DeviceLauncher.Child.Utility
