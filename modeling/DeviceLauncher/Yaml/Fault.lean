import DeviceLauncher.Calendar
import DeviceLauncher.Text.Literal

/-!
# What can be wrong with a YAML document

A document is malformed, or it is well formed and one of its scalars carries an explicit type that
its text does not fit, or a date that no calendar has.
-/

namespace DeviceLauncher.Yaml

/-- Why a text has no value as a YAML document. -/
inductive Fault where
  /-- The text is no YAML document, or more than one, or its collections cannot be built. -/
  | malformed
  /-- A date or time that no calendar has. -/
  | calendar (fault : CalendarFault)
  /-- A scalar marked as a whole number that is none in its base. -/
  | wholeNumber (base : Nat) (text : String)
  /-- A whole number with more digits than can be read. -/
  | longNumber (digits : Nat)
  /-- A scalar marked as a number with a point that is none. -/
  | pointNumber (text : String)
  /-- An empty scalar marked as a number. -/
  | emptyNumber
  /-- A scalar marked as a truth value that is none. -/
  | truthValue (text : String)
  /-- A scalar marked as a time that is none. -/
  | time
  /-- Sexagesimal places too far in front of a point. -/
  | longPlaces
  /-- A mapping marked as a time. -/
  | timeOfMapping
  /-- Collections inside each other beyond all bounds, or a mapping that stands for the text under
  its key `=`, which leads back to the mapping. -/
  | tooDeep
  /-- An escape for a character beyond the last code point. -/
  | characterNumber
  /-- An escape for a character whose number takes more than 31 bits. -/
  | longCharacterNumber
  /-- An escape for one half of a surrogate pair. Such a half is no character of a text here, so the
  document has no value that could be given. -/
  | surrogate
  deriving DecidableEq

/-- The longest whole number that is read, in decimal digits. -/
def mostDigits : Nat := 4300

/-- The most characters that are shown of a text that is no whole number. -/
def mostShown : Nat := 200

/-- What a user is told, where there is something to say beyond the kind of fault. -/
def Fault.message : Fault → String
  | malformed | time | timeOfMapping | emptyNumber | surrogate => ""
  | calendar fault => fault.message
  | wholeNumber base text =>
    s!"invalid literal for int() with base {base}: " ++
      String.ofList ((Text.literal text).toList.take mostShown)
  | longNumber digits =>
    s!"Exceeds the limit ({mostDigits} digits) for integer string conversion: value has " ++
      s!"{digits} digits; use sys.set_int_max_str_digits() to increase the limit"
  | pointNumber text => "could not convert string to float: " ++ Text.literal text
  | truthValue text => Text.literal text
  | longPlaces => "int too large to convert to float"
  | tooDeep => "maximum recursion depth exceeded"
  | characterNumber => "chr() arg not in range(0x110000)"
  | longCharacterNumber => "Python int too large to convert to C int"

end DeviceLauncher.Yaml
