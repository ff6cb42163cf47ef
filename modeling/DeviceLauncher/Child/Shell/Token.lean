import DeviceLauncher.Child.Shell.Word

/-!
# The tokens of a script

`Token.ofText` takes a script apart into words, redirections and signs, each with the number of its
line. Comments and blanks are passed over.
-/

namespace DeviceLauncher.Child.Shell

/-- What a redirection does. -/
inductive Redirection where
  | truncate
  | append
  | input
  | duplicate
  deriving DecidableEq

/-- A token of a script. -/
inductive Token where
  | word (w : Word)
  | redirect (fd : Nat) (kind : Redirection)
  /-- A sign between commands, or the end of a line. -/
  | sign (s : String)
  deriving DecidableEq

/-- A token, and the line on which it stands. -/
structure Lexeme where
  line : Nat
  token : Token
  deriving DecidableEq

namespace Token

/-- The signs that separate commands, longer ones before their beginnings. -/
def signs : List String := [";;", "&&", "||", ";", "&", "|", "(", ")", "\n"]

/-- The redirection sign at the front of a text, and what follows. -/
def redirection? : List Char → Option (Redirection × List Char)
  | '>' :: '>' :: rest => some (.append, rest)
  | '>' :: '&' :: rest => some (.duplicate, rest)
  | '>' :: '|' :: rest => some (.truncate, rest)
  | '>' :: rest => some (.truncate, rest)
  | '<' :: rest => some (.input, rest)
  | _ => none

/-- The tokens of a text that starts on a line; nothing if a quote is not closed. -/
def tokens : Nat → Nat → List Char → Option (List Lexeme)
  | 0, _, _ => none
  | _ + 1, _, [] => some []
  | fuel + 1, line, '#' :: rest => tokens fuel line (rest.dropWhile (· != '\n'))
  | fuel + 1, line, '\\' :: '\n' :: rest => tokens fuel (line + 1) rest
  | fuel + 1, line, c :: rest =>
    let cs := c :: rest
    if isBlank c then tokens fuel line rest
    else
      let digits := cs.takeWhile Char.isDigit
      match redirection? (cs.drop digits.length) with
      | some (kind, rest) =>
        let fd := match digits with
          | [] => if kind = .input then 0 else 1
          | digits => digits.foldl (fun n d => 10 * n + (d.toNat - '0'.toNat)) 0
        (tokens fuel line rest).map (⟨line, .redirect fd kind⟩ :: ·)
      | none =>
        match signs.find? fun s => s.toList.isPrefixOf cs with
        | some s =>
          let next := if s = "\n" then line + 1 else line
          (tokens fuel next (cs.drop s.length)).map (⟨line, .sign s⟩ :: ·)
        | none => do
          let (w, rest) ← Word.read? cs
          let next := line + (cs.take (cs.length - rest.length)).count '\n'
          return ⟨line, .word w⟩ :: (← tokens fuel next rest)

/-- The tokens of a script; nothing if a quote is not closed. -/
def ofText (script : String) : Option (List Lexeme) :=
  tokens (script.toList.length + 1) 1 script.toList

end Token

end DeviceLauncher.Child.Shell
