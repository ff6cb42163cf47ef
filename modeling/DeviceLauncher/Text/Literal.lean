import DeviceLauncher.Text.Printable

/-!
# Quoted texts in messages

A message shows a text, or a run of bytes, between quotes, so that its ends and its invisible
characters can be seen. `literal s` and `bytesLiteral b` share one rule:

* the quote is `'`, or `"` if the content holds `'` and no `"`;
* the quote and the backslash are escaped by a backslash, tab, newline and return are `\t`, `\n`
  and `\r`;
* every other character that cannot be shown is written by its number, with two, four or eight
  hexadecimal digits.
-/

namespace DeviceLauncher.Text

/-- A number in lower-case hexadecimal, padded with zeros to a width. -/
def hex (width n : Nat) : List Char :=
  let digits := Nat.toDigits 16 n
  List.replicate (width - digits.length) '0' ++ digits

/-- The quote to put around a content: `'` unless that alone would need escapes. -/
def quoteFor (content : List Char) : Char :=
  if content.contains '\'' && !content.contains '"' then '"' else '\''

/-- A character by its number: two digits below 256, four below 65536, else eight. -/
def numbered (c : Char) : List Char :=
  if c.toNat < 0x100 then '\\' :: 'x' :: hex 2 c.toNat
  else if c.toNat < 0x10000 then '\\' :: 'u' :: hex 4 c.toNat
  else '\\' :: 'U' :: hex 8 c.toNat

/-- A character as it stands between quotes, where `plain` are those shown as they are. -/
def escaped (quote : Char) (plain : Char → Bool) (c : Char) : List Char :=
  if c = quote || c = '\\' then ['\\', c]
  else if c = '\t' then ['\\', 't']
  else if c = '\n' then ['\\', 'n']
  else if c = '\r' then ['\\', 'r']
  else if plain c then [c]
  else numbered c

/-- A content between its quotes. -/
def quoted (plain : Char → Bool) (content : List Char) : List Char :=
  let quote := quoteFor content
  quote :: content.flatMap (escaped quote plain) ++ [quote]

/-- A text between quotes. -/
def literal (s : String) : String := String.ofList (quoted isPrintable s.toList)

/-- Whether the character is one of ASCII that can be seen, or the space. -/
def isVisibleAscii (c : Char) : Bool := ' ' ≤ c && c ≤ '~'

/-- Bytes between quotes, after the letter `b`: visible ASCII as it is, the rest by number. -/
def bytesLiteral (bytes : ByteArray) : String :=
  let content := bytes.toList.map fun byte => Char.ofNat byte.toNat
  String.ofList ('b' :: quoted isVisibleAscii content)

end DeviceLauncher.Text
