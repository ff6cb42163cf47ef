import DeviceLauncher.Calendar
import DeviceLauncher.Decimal.Shortest

/-!
# Configuration values

A configuration file holds values of a dozen shapes. A map keeps its entries in the order in
which their keys first came; `Key` says which values are the same key, so that `1`, `1.0` and
`true` name one entry.

A collection can hold itself. It is a knot then: its number stands for it, and `Knots` says which
collection has which number.

* `Value.holds`: whether a setting counts as given. Empty and zero values do not.
* `Value.key?`: the key that a value is, `none` for collections.
* `Value.insert`, `Value.field?`: writing and reading an entry.
* `Knots.untie`: the collection that a knot stands for.
-/

namespace DeviceLauncher

/-- A value of a configuration file. -/
inductive Value where
  | null
  | bool (b : Bool)
  | int (n : Int)
  | float (x : Float)
  | text (s : String)
  | bytes (b : ByteArray)
  | date (d : Date)
  | moment (m : Moment)
  | list (items : List Value)
  | map (entries : List (Value × Value))
  /-- A set. Its items stand in the order in which going through the set comes to them, which need
  not be that of the text. -/
  | set (items : List Value)
  | pair (first second : Value)
  /-- A collection that can hold itself, by its number. -/
  | knot (n : Nat)

/-- What makes two values the same key of a map. -/
inductive Key where
  | null
  | whole (n : Int)
  /-- A number that is not whole, by its bits. -/
  | fraction (bits : Nat)
  | text (s : String)
  | bytes (b : List UInt8)
  | date (d : Date)
  /-- A time without offset from universal time. -/
  | reading (m : Moment)
  /-- A time with an offset, in microseconds of universal time. -/
  | instant (microseconds : Int)
  deriving DecidableEq

namespace Key

/-- The key of a floating-point number: the whole number that it is, or its bits. -/
def ofFloat (x : Float) : Key :=
  let bits := x.toBits.toNat
  match Decimal.Parts.ofBits bits with
  | .finite negative m q _ =>
    let (num, den) := Decimal.scaled m q 0
    if num % den ≠ 0 then .fraction bits
    else .whole (if negative then -((num / den : Nat) : Int) else (num / den : Nat))
  | _ => .fraction bits

/-- The key of a time: its instant, if that is known. -/
def ofMoment (m : Moment) : Key :=
  match m.offset with
  | none => .reading m
  | some minutes => .instant (m.microseconds - minutes * 60000000)

end Key

namespace Value

/-- Whether a setting with this value counts as given. -/
def holds : Value → Bool
  | null => false
  | bool b => b
  | int n => n != 0
  | float x => x != 0.0
  | text s => !s.isEmpty
  | bytes b => !b.isEmpty
  | date _ => true
  | moment _ => true
  | list items => !items.isEmpty
  | map entries => !entries.isEmpty
  | set items => !items.isEmpty
  | pair _ _ => true
  | knot _ => true

/-- The key that the value is. Collections are no keys. -/
def key? : Value → Option Key
  | null => some .null
  | bool b => some (.whole (if b then 1 else 0))
  | int n => some (.whole n)
  | float x => some (Key.ofFloat x)
  | text s => some (.text s)
  | bytes b => some (.bytes b.toList)
  | date d => some (.date d)
  | moment m => some (Key.ofMoment m)
  | list _ | map _ | set _ | pair _ _ | knot _ => none

/-- Whether two values are the same key. -/
def sameKey (a b : Value) : Bool :=
  match a.key?, b.key? with
  | some x, some y => x == y
  | _, _ => false

/-- Writes an entry. A key that is there keeps its place and its form, and gets the new value. -/
def insert (entries : List (Value × Value)) (key value : Value) : List (Value × Value) :=
  match entries with
  | [] => [(key, value)]
  | (k, v) :: rest =>
    if k.sameKey key then (k, value) :: rest else (k, v) :: insert rest key value

/-- The entry of a map under a text. -/
def field? (entries : List (Value × Value)) (name : String) : Option Value :=
  (entries.find? fun entry => entry.1.sameKey (.text name)).map Prod.snd

end Value

/-- The collections that knots stand for. -/
abbrev Knots := List (Nat × Value)

namespace Knots

/-- The collection that a knot stands for. Other values stand for themselves. -/
def untie (ks : Knots) : Value → Value
  | .knot n => (ks.lookup n).getD .null
  | v => v

end Knots

end DeviceLauncher
