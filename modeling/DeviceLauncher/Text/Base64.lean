/-!
# Base 64

`decode?` reads bytes written in base 64. Characters outside the alphabet are passed over, and
reading stops at the padding that completes a group of four. A group that is left incomplete has
no meaning.
-/

namespace DeviceLauncher.Text.Base64

/-- The value of a character of the alphabet. -/
def value? (c : Char) : Option Nat :=
  if 'A' ≤ c && c ≤ 'Z' then some (c.toNat - 'A'.toNat)
  else if 'a' ≤ c && c ≤ 'z' then some (c.toNat - 'a'.toNat + 26)
  else if '0' ≤ c && c ≤ '9' then some (c.toNat - '0'.toNat + 52)
  else if c == '+' then some 62
  else if c == '/' then some 63
  else none

/-- The characters of a group so far: how many, and the bits of the last that are not used. -/
structure Group where
  count : Nat
  left : Nat

/-- The bytes that a character completes, and the group after it. -/
def Group.add (g : Group) (v : Nat) : List UInt8 × Group :=
  match g.count with
  | 0 => ([], ⟨1, v⟩)
  | 1 => ([UInt8.ofNat (g.left * 4 + v / 16)], ⟨2, v % 16⟩)
  | 2 => ([UInt8.ofNat (g.left * 16 + v / 4)], ⟨3, v % 4⟩)
  | _ => ([UInt8.ofNat (g.left * 64 + v)], ⟨0, 0⟩)

/-- The bytes of the characters from a group on, after `pads` signs of padding. -/
def decodeFrom (g : Group) (pads : Nat) : List Char → Option (List UInt8)
  | [] => if g.count = 0 then some [] else none
  | c :: rest =>
    if c == '=' then
      if 2 ≤ g.count then
        if 4 ≤ g.count + pads + 1 then some [] else decodeFrom g (pads + 1) rest
      else decodeFrom g pads rest
    else match value? c with
      | none => decodeFrom g pads rest
      | some v =>
        let (bytes, g) := g.add v
        (decodeFrom g 0 rest).map (bytes ++ ·)

/-- The bytes that a text in base 64 stands for. -/
def decode? (text : List Char) : Option ByteArray :=
  (decodeFrom ⟨0, 0⟩ 0 text).map fun bytes => ⟨bytes.toArray⟩

end DeviceLauncher.Text.Base64
