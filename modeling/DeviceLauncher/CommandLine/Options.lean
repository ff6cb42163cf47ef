import DeviceLauncher.Text.Digit
import DeviceLauncher.Text.Literal

/-!
# The launcher's options

`Options.ofWords` reads the launcher's three options from words. Long options can be shortened as
far as they stay unlike the others, `--config` takes the next word or what follows a `=`, and what
is no option of the launcher is kept aside. After the word `--` nothing is an option.

Each word is first read on its own (`Reading.ofWord`). A word that could be several options is an
error wherever it stands; of the other errors the first one is reported.

Options are read by a library, and these are the rules of one release of it. Later ones take some
words otherwise: `-h` with something behind it in the same word, and `--config=--`.
-/

namespace DeviceLauncher.CommandLine

/-- The options that the launcher knows. -/
inductive Flag where
  | help
  | config
  | dryRun
  deriving DecidableEq

namespace Flag

def all : List Flag := [help, config, dryRun]

/-- The name of an option after two hyphens. -/
def longName : Flag → String
  | help => "help"
  | config => "config"
  | dryRun => "dry-run"

/-- An option as error texts name it. -/
def title : Flag → String
  | help => "-h/--help"
  | config => "--config"
  | dryRun => "--dry-run"

/-- The options whose long name starts with a text. -/
def startingWith (text : List Char) : List Flag :=
  all.filter fun f => text.isPrefixOf f.longName.toList

end Flag

/-- What a word before `--` can be. -/
inductive Reading where
  /-- No option, so it can be the value of one. -/
  | word
  | help
  | dryRun
  | config (value : Option String)
  /-- An option that takes no value, with one. -/
  | refused (flag : Flag) (value : String)
  /-- The start of several options. -/
  | ambiguous
  /-- An option of someone else. -/
  | unknown
  deriving DecidableEq

/-- Whether the text after a hyphen is digits, perhaps with a point before the last ones, so that
the word is a negative number. A line end may follow. -/
def isNumber (text : List Char) : Bool :=
  let text := if text.getLast? = some '\n' then text.dropLast else text
  let rest := text.dropWhile Text.isDigit
  match rest with
  | [] => !text.isEmpty
  | '.' :: fraction => !fraction.isEmpty && fraction.all Text.isDigit
  | _ => false

namespace Reading

/-- A long option with what follows its `=`. -/
def ofFlag : Flag → Option String → Reading
  | .config, value => config value
  | .help, none => help
  | .dryRun, none => dryRun
  | flag, some value => refused flag value

/-- The letters after `-h`, which may repeat it and nothing else. A `=` before them is passed
over. -/
def ofLetters (letters : List Char) : Reading :=
  match letters with
  | [] => help
  | ['='] => refused .help ""
  | first :: more =>
    let others := (if first = '=' then more else letters).dropWhile (· == 'h')
    if others.isEmpty then help else refused .help (String.ofList others)

/-- A word that starts with a hyphen and is no option of the launcher. Numbers, and words with a
space inside, are not meant as options. -/
def ofOther (text : List Char) : Reading :=
  if isNumber (text.drop 1) || text.contains ' ' then word else unknown

/-- What a word is. -/
def ofWord (w : String) : Reading :=
  match w.toList with
  | '-' :: '-' :: text =>
    let name := text.takeWhile (· != '=')
    let value := (text.dropWhile (· != '=')).tail?.map String.ofList
    match Flag.startingWith name with
    | [] => ofOther w.toList
    | [flag] => ofFlag flag value
    | _ => ambiguous
  | '-' :: 'h' :: letters => ofLetters letters
  | ['-'] => word
  | '-' :: _ => ofOther w.toList
  | _ => word

end Reading

/-- What the options of a command line say. -/
structure Options where
  showHelp : Bool
  /-- What `--config` names, if it is there. It names nothing if the word `--` follows its `=`. -/
  config : Option (Option String)
  dryRun : Bool
  /-- The words that are no options of the launcher, in order. -/
  unknown : List String
  deriving DecidableEq

/-- What is wrong with the options. -/
inductive UsageError where
  | ambiguous (word : String)
  | valueExpected (flag : Flag)
  | valueRefused (flag : Flag) (value : String)
  deriving DecidableEq

namespace UsageError

def message : UsageError → String
  | ambiguous word =>
    s!"ambiguous option: {word} could match " ++
      ", ".intercalate (Flag.all.map fun f => "--" ++ f.longName)
  | valueExpected flag => "argument " ++ flag.title ++ ": expected one argument"
  | valueRefused flag value =>
    "argument " ++ flag.title ++ ": ignored explicit argument " ++ Text.literal value

/-- What the user is shown: how the program is used, and what is wrong. On a terminal that is too
narrow for the first line it would be broken into more. -/
def usage (e : UsageError) : String :=
  "usage: ripple [-h] [--config CONFIG] [--dry-run]\nripple: error: " ++ e.message ++ "\n"

end UsageError

namespace Options

/-- The options that are set before any word is read. -/
def initial : Options := ⟨false, none, false, []⟩

/-- Keeps words aside. -/
def keep (o : Options) (words : List String) : Options := { o with unknown := o.unknown ++ words }

/-- Reads words one after the other. -/
def read (o : Options) : List String → Except UsageError Options
  | [] => .ok o
  | w :: rest =>
    if w = "--" then .ok (o.keep (w :: rest))
    else
      match Reading.ofWord w with
      | .word | .unknown => read (o.keep [w]) rest
      | .help => read { o with showHelp := true } rest
      | .dryRun => read { o with dryRun := true } rest
      | .config (some value) =>
        read { o with config := some (if value = "--" then none else some value) } rest
      | .config none =>
        match rest with
        | value :: rest =>
          if value ≠ "--" ∧ Reading.ofWord value = .word then
            read { o with config := some (some value) } rest
          else .error (.valueExpected .config)
        | [] => .error (.valueExpected .config)
      | .refused flag value => .error (.valueRefused flag value)
      | .ambiguous => .error (.ambiguous w)

/-- What words say as options, by the rules of the release that is followed here. -/
def ofWords (words : List String) : Except UsageError Options :=
  match (words.takeWhile (· != "--")).find? (Reading.ofWord · = .ambiguous) with
  | some w => .error (.ambiguous w)
  | none => initial.read words

end Options

end DeviceLauncher.CommandLine
