/-!
# Words on a shell's command line

`quote w` writes a word so that a POSIX shell reads it back as that one word, whatever characters
it holds: a word of safe characters stands as it is, any other between single quotes, with each
`'` inside written as `'"'"'`. `line ws` writes a command from its words.
-/

namespace DeviceLauncher.Text.ShellWord

/-- Whether a shell takes the character literally wherever it stands in a word. -/
def isSafe (c : Char) : Bool := c.isAlphanum || "_@%+=:,./-".toList.contains c

/-- A character between single quotes. A single quote ends them, stands between double quotes,
and opens them again. -/
def inQuotes (c : Char) : List Char :=
  if c = '\'' then "'\"'\"'".toList else [c]

/-- The characters of a word as they are written on a command line. -/
def quoteChars (word : List Char) : List Char :=
  if word.isEmpty then ['\'', '\'']
  else if word.all isSafe then word
  else '\'' :: word.flatMap inQuotes ++ ['\'']

/-- A word as it is written on a command line. -/
def quote (word : String) : String := String.ofList (quoteChars word.toList)

/-- A command line: its words, each quoted, with one space between. -/
def line (words : List String) : String := " ".intercalate (words.map quote)

end DeviceLauncher.Text.ShellWord
