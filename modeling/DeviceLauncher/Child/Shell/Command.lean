import DeviceLauncher.Child.Shell.Token

/-!
# The commands of a script

`Command` is what a script says, as a tree, and `Command.ofText` reads it from the script's text.
Each kind of command is read by a function from the tokens at which it starts to the command and
the tokens after it.
-/

namespace DeviceLauncher.Child.Shell

/-- A redirection, with the word after its sign. -/
structure Redirect where
  fd : Nat
  kind : Redirection
  target : Word

/-- A command. -/
inductive Command where
  | nothing
  | simple (line : Nat) (words : List Word) (redirects : List Redirect)
  | redirected (c : Command) (redirects : List Redirect)
  /-- The output of the first command is what the second one reads. -/
  | pipe (first second : Command)
  | background (c : Command)
  | negated (c : Command)
  /-- The second command runs if the first one is good. -/
  | both (first second : Command)
  /-- The second command runs if the first one is not good. -/
  | either (first second : Command)
  | sequence (first second : Command)
  | subshell (c : Command)
  | conditional (test good bad : Command)
  /-- Runs a command while another one is good, or until it is. -/
  | loop (isUntil : Bool) (test body : Command)
  /-- Runs a command once for each of some words, or of the words of the shell. -/
  | each (name : String) (items : Option (List Word)) (body : Command)

/-- What is out of place in a script, and what should stand there if only one thing can. -/
structure SyntaxError where
  line : Nat
  what : String
  expected : Option String

namespace SyntaxError

def message (e : SyntaxError) : String :=
  e.what ++ " unexpected" ++ match e.expected with
    | some s => s!" (expecting \"{s}\")"
    | none => ""

end SyntaxError

namespace Command

/-- A command that has been read, with the tokens after it. -/
abbrev Read := Except SyntaxError (Command × List Lexeme)

/-- The words that end a list of commands or a part of one. -/
def closers : List String := ["then", "else", "elif", "fi", "do", "done", "\x7d", "esac"]

/-- The words with a meaning of their own at the start of a command. -/
def openers : List String := ["if", "while", "until", "for", "\x7b", "!"]

/-- The word at the front, if it is one with a meaning of its own. -/
def reserved? : List Lexeme → Option String
  | ⟨_, .word w⟩ :: _ => w.plain?.filter fun s => (closers ++ openers).contains s
  | _ => none

/-- A token as error texts name it. Of a redirection without a word, that is what follows it. -/
def describe (tokens : List Lexeme) : String :=
  match tokens with
  | [] => "end of file"
  | ⟨_, .sign "\n"⟩ :: _ => "newline"
  | ⟨_, .sign s⟩ :: _ => s!"\"{s}\""
  | ⟨_, .redirect _ _⟩ :: rest => describe rest
  | ⟨_, .word _⟩ :: _ => match reserved? tokens with
    | some s => s!"\"{s}\""
    | none => "word"

/-- The error that the first token is out of place. -/
def unexpected {α : Type} (last : Nat) (tokens : List Lexeme) (expected : Option String) :
    Except SyntaxError α :=
  .error ⟨(tokens.head?.map Lexeme.line).getD last, describe tokens, expected⟩

/-- Passes over the ends of lines. -/
def skipLines : List Lexeme → List Lexeme
  | ⟨_, .sign "\n"⟩ :: rest => skipLines rest
  | tokens => tokens

/-- Takes a word that has to come now. -/
def expect (last : Nat) (word : String) (tokens : List Lexeme) :
    Except SyntaxError (List Lexeme) :=
  if reserved? tokens = some word then .ok tokens.tail
  else unexpected last tokens (some word)

/-- The words and redirections at the front. -/
def readSimple (words : List Word) (redirects : List Redirect) :
    List Lexeme → List Word × List Redirect × List Lexeme
  | ⟨_, .word w⟩ :: rest => readSimple (words ++ [w]) redirects rest
  | ⟨_, .redirect fd kind⟩ :: ⟨_, .word w⟩ :: rest =>
    readSimple words (redirects ++ [⟨fd, kind, w⟩]) rest
  | rest => (words, redirects, rest)

/-- The words of a loop up to the end of their line. -/
def readItems : List Lexeme → List Word × List Lexeme
  | ⟨_, .word w⟩ :: rest =>
    let (words, rest) := readItems rest
    (w :: words, rest)
  | rest => ([], rest)

/-- The words over which a loop runs, if they are listed. -/
def readEach : List Lexeme → Option (List Word) × List Lexeme
  | ⟨line, .word w⟩ :: rest =>
    if w.plain? = some "in" then
      let (words, rest) := readItems rest
      (some words, rest)
    else (none, ⟨line, .word w⟩ :: rest)
  | rest => (none, rest)

/-- Passes over one `;` and the ends of lines. -/
def skipSeparator : List Lexeme → List Lexeme
  | ⟨_, .sign ";"⟩ :: rest => skipLines rest
  | tokens => skipLines tokens

mutual

/-- Commands up to a word or sign that ends them. -/
def readList (last : Nat) : Nat → List Lexeme → Read
  | 0, tokens => unexpected last tokens none
  | fuel + 1, tokens => do
    let tokens := skipLines tokens
    let ends := match tokens with
      | [] | ⟨_, .sign ")"⟩ :: _ => true
      | _ => (reserved? tokens).any closers.contains
    if ends then return (.nothing, tokens)
    let (c, rest) ← readAnd last fuel tokens
    match rest with
    | ⟨_, .sign "&"⟩ :: rest =>
      let (more, rest) ← readList last fuel rest
      return (.sequence (.background c) more, rest)
    | ⟨_, .sign ";"⟩ :: rest | ⟨_, .sign "\n"⟩ :: rest =>
      let (more, rest) ← readList last fuel rest
      return (.sequence c more, rest)
    | rest => return (c, rest)

/-- Commands that have to be there, unless the script ends. -/
def readSome (last : Nat) : Nat → List Lexeme → Read
  | 0, tokens => unexpected last tokens none
  | fuel + 1, tokens => do
    match ← readList last fuel tokens with
    | (.nothing, lexeme :: rest) => unexpected last (lexeme :: rest) none
    | found => return found

/-- Commands with `&&` and `||` between. -/
def readAnd (last : Nat) : Nat → List Lexeme → Read
  | 0, tokens => unexpected last tokens none
  | fuel + 1, tokens => do
    let (c, rest) ← readPipe last fuel tokens
    readMore last fuel c rest

/-- What follows a command after `&&` or `||`. -/
def readMore (last : Nat) : Nat → Command → List Lexeme → Read
  | 0, _, tokens => unexpected last tokens none
  | fuel + 1, c, tokens => do
    match tokens with
    | ⟨_, .sign "&&"⟩ :: rest =>
      let (next, rest) ← readPipe last fuel (skipLines rest)
      readMore last fuel (.both c next) rest
    | ⟨_, .sign "||"⟩ :: rest =>
      let (next, rest) ← readPipe last fuel (skipLines rest)
      readMore last fuel (.either c next) rest
    | rest => return (c, rest)

/-- Commands that read each other's output. -/
def readPipe (last : Nat) : Nat → List Lexeme → Read
  | 0, tokens => unexpected last tokens none
  | fuel + 1, tokens => do
    if reserved? tokens = some "!" then
      let (c, rest) ← readPipe last fuel tokens.tail
      return (.negated c, rest)
    else
      let (c, rest) ← readOne last fuel tokens
      match rest with
      | ⟨_, .sign "|"⟩ :: rest =>
        let (next, rest) ← readPipe last fuel (skipLines rest)
        return (.pipe c next, rest)
      | rest => return (c, rest)

/-- One command. -/
def readOne (last : Nat) : Nat → List Lexeme → Read
  | 0, tokens => unexpected last tokens none
  | fuel + 1, tokens => do
    let finish (c : Command) (tokens : List Lexeme) : Command × List Lexeme :=
      match readSimple [] [] tokens with
      | ([], [], _) => (c, tokens)
      | (_, redirects, rest) => (.redirected c redirects, rest)
    match tokens, reserved? tokens with
    | ⟨_, .sign "("⟩ :: rest, _ =>
      let (c, rest) ← readSome last fuel rest
      match rest with
      | ⟨_, .sign ")"⟩ :: rest => return finish (.subshell c) rest
      | rest => unexpected last rest (some ")")
    | _ :: rest, some "\x7b" =>
      let (c, rest) ← readSome last fuel rest
      return finish c (← expect last "\x7d" rest)
    | _ :: rest, some "if" =>
      let (c, rest) ← readIf last fuel rest
      return finish c rest
    | _ :: rest, some "while" | _ :: rest, some "until" =>
      let (test, rest) ← readSome last fuel rest
      let (body, rest) ← readSome last fuel (← expect last "do" rest)
      let isUntil := reserved? tokens == some "until"
      return finish (.loop isUntil test body) (← expect last "done" rest)
    | _ :: ⟨line, .word w⟩ :: rest, some "for" =>
      match w.plain? with
      | none => unexpected last (⟨line, .word w⟩ :: rest) none
      | some name =>
        let (items, rest) := readEach rest
        let rest ← expect last "do" (skipSeparator rest)
        let (body, rest) ← readSome last fuel rest
        return finish (.each name items body) (← expect last "done" rest)
    | _, some _ => unexpected last tokens none
    | _, none =>
      match readSimple [] [] tokens with
      | ([], [], _) => unexpected last tokens none
      | (words, redirects, rest) =>
        return (.simple ((tokens.head?.map Lexeme.line).getD last) words redirects, rest)

/-- What follows an `if` or `elif`. -/
def readIf (last : Nat) : Nat → List Lexeme → Read
  | 0, tokens => unexpected last tokens none
  | fuel + 1, tokens => do
    let (test, rest) ← readSome last fuel tokens
    let (good, rest) ← readSome last fuel (← expect last "then" rest)
    match reserved? rest with
    | some "elif" =>
      let (bad, rest) ← readIf last fuel rest.tail
      return (.conditional test good bad, rest)
    | some "else" =>
      let (bad, rest) ← readSome last fuel rest.tail
      return (.conditional test good bad, ← expect last "fi" rest)
    | _ => return (.conditional test good .nothing, ← expect last "fi" rest)

end

/-- The error that a quote is not closed. -/
def unclosedQuote (last : Nat) : String × Nat := ("Unterminated quoted string", last)

/-- The commands of a script, or what is wrong with it and on which line. -/
def ofText (script : String) : Except (String × Nat) Command :=
  let last := script.toList.count '\n' + 1
  match Token.ofText script with
  | none => .error (unclosedQuote last)
  | some tokens =>
    match readList last (8 * (tokens.length + 1)) tokens with
    | .error e => .error (e.message, e.line)
    | .ok (c, []) => .ok c
    | .ok (_, rest) => .error (SyntaxError.message ⟨(rest.head?.map Lexeme.line).getD last,
        describe rest, none⟩, (rest.head?.map Lexeme.line).getD last)

end Command

end DeviceLauncher.Child.Shell
