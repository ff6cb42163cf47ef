/-!
# Levels of log records

A level is a number; six of them have names. A user may name a level in any case.
-/

namespace DeviceLauncher.Log

abbrev Level := Int

namespace Level

def notset : Level := 0
def debug : Level := 10
def info : Level := 20
def warning : Level := 30
def error : Level := 40
def critical : Level := 50

/-- The name of a level in a log line. -/
def name (l : Level) : String :=
  if l = critical then "CRITICAL"
  else if l = error then "ERROR"
  else if l = warning then "WARNING"
  else if l = info then "INFO"
  else if l = debug then "DEBUG"
  else if l = notset then "NOTSET"
  else s!"Level {l}"

/-- The names that a user can give, two of them second names. -/
def names : List (String × Level) :=
  [("CRITICAL", critical), ("FATAL", critical), ("ERROR", error), ("WARN", warning),
    ("WARNING", warning), ("INFO", info), ("DEBUG", debug), ("NOTSET", notset)]

/-- The capitals of a letter, where they are letters of ASCII. Some ligatures and letters beyond
ASCII have such capitals. -/
def capitals (c : Char) : List Char :=
  match [('ß', "SS"), ('ı', "I"), ('ſ', "S"), ('ﬀ', "FF"), ('ﬁ', "FI"), ('ﬂ', "FL"), ('ﬃ', "FFI"),
      ('ﬄ', "FFL"), ('ﬅ', "ST"), ('ﬆ', "ST")].lookup c with
  | some s => s.toList
  | none => [c.toUpper]

/-- The level that a name means. -/
def ofName? (s : String) : Option Level :=
  names.lookup (String.ofList (s.toList.flatMap capitals))

end Level

end DeviceLauncher.Log
