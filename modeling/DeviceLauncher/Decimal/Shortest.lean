/-!
# The shortest decimal of a binary floating-point number

A finite number of 64 bits is `m * 2 ^ q` for whole `m` and `q`, and every real number in an
interval around it rounds to it. `shortest m q` is the decimal in that interval with the fewest
digits, and of those the nearest; an exact tie goes to the even last digit.

For each count of digits only the two neighbours of the number on that decimal grid can be
nearest, so these two are tested, in exact arithmetic on natural numbers.
-/

namespace DeviceLauncher

/-- The decimal `digits * 10 ^ exponent`. -/
structure Decimal where
  digits : Nat
  exponent : Int
  deriving DecidableEq, Repr

namespace Decimal

/-- The fraction `num * 2 ^ two * 10 ^ ten` as a numerator over a denominator. -/
def scaled (num : Nat) (two ten : Int) : Nat × Nat :=
  (num * Nat.pow 2 two.toNat * Nat.pow 10 ten.toNat,
    Nat.pow 2 (-two).toNat * Nat.pow 10 (-ten).toNat)

/-- The `e` with `10 ^ (e - 1) ≤ num / den < 10 ^ e`, for a fraction above `10 ^ (-400)`. -/
def magnitude (num den : Nat) : Int :=
  if den ≤ num then (Nat.toDigits 10 (num / den)).length
  else 1 - (((List.range 400).find? fun j => den ≤ num * Nat.pow 10 j).getD 0 : Nat)

/-- The interval of numbers that round to `m * 2 ^ q`, in units of `2 ^ (q - 2)`. Below a power of
two the next number is half as far away as above it. -/
structure Interval where
  low : Nat
  middle : Nat
  high : Nat
  closed : Bool

/-- The interval around `m * 2 ^ q`; `narrow` if the number below is half as far as the one
above. A number halfway between two rounds to the even one. -/
def Interval.around (m : Nat) (narrow : Bool) : Interval :=
  { low := 4 * m - (if narrow then 1 else 2), middle := 4 * m, high := 4 * m + 2
    closed := m % 2 == 0 }

/-- Whether `num / den`, in the units of the interval, lies in it. -/
def Interval.contains (i : Interval) (num den : Nat) : Bool :=
  if i.closed then i.low * den ≤ num && num ≤ i.high * den
  else i.low * den < num && num < i.high * den

/-- The nearest number of the interval to its middle on the grid of multiples of `10 ^ k`. -/
def onGrid? (i : Interval) (q k : Int) : Option Nat :=
  let (num, den) := scaled i.middle (q - 2) (-k)
  let below := num / den
  let hit (d : Nat) : Bool :=
    let (n, e) := scaled d (2 - q) k
    i.contains n e
  match hit below, hit (below + 1) with
  | true, true =>
    let twice := 2 * (num % den)
    if twice < den || (twice = den && below % 2 == 0) then some below else some (below + 1)
  | true, false => some below
  | false, true => some (below + 1)
  | false, false => none

/-- Moves zeros at the end of the digits into the exponent. -/
def trim : Nat → Decimal → Decimal
  | 0, d => d
  | fuel + 1, d =>
    if d.digits ≠ 0 && d.digits % 10 == 0 then trim fuel ⟨d.digits / 10, d.exponent + 1⟩ else d

/-- The shortest decimal that rounds to `m * 2 ^ q`, for `m` not zero. Seventeen digits always
suffice. -/
def shortest (m : Nat) (q : Int) (narrow : Bool) : Decimal :=
  let i := Interval.around m narrow
  let (num, den) := scaled m q 0
  let e := magnitude num den
  let candidate := (List.range 17).findSome? fun n =>
    let k := e - (n + 1 : Nat)
    (onGrid? i q k).map fun d => (⟨d, k⟩ : Decimal)
  trim 20 (candidate.getD ⟨0, 0⟩)

/-- A floating-point number taken apart. -/
inductive Parts where
  | nan
  | infinite (negative : Bool)
  | finite (negative : Bool) (m : Nat) (q : Int) (narrow : Bool)
  deriving DecidableEq

/-- The parts of a number of 64 bits: a sign, eleven bits of exponent, 52 bits of fraction. -/
def Parts.ofBits (bits : Nat) : Parts :=
  let negative := Nat.pow 2 63 ≤ bits
  let exponent : Nat := bits / Nat.pow 2 52 % Nat.pow 2 11
  let fraction : Nat := bits % Nat.pow 2 52
  if exponent = 2047 then if fraction = 0 then .infinite negative else .nan
  else if exponent = 0 then .finite negative fraction (-1074) false
  else
    let significand := Nat.pow 2 52 + fraction
    .finite negative significand ((exponent : Int) - 1075) (fraction == 0 && 1 < exponent)

/-- How a decimal is written out. -/
structure Format where
  /-- Numbers with this many places before the point, or fewer, take an exponent. -/
  tooSmall : Int
  /-- Numbers with more places before the point take an exponent. -/
  most : Int
  nan : String
  infinity : String
  /-- The least number of digits of an exponent. -/
  exponentWidth : Nat

/-- A decimal in a format. Without exponent there is always a digit on both sides of the point;
with exponent the point stands after the first digit, if more follow. -/
def Format.positive (f : Format) (d : Decimal) : String :=
  let digits := Nat.toDigits 10 d.digits
  let point : Int := digits.length + d.exponent
  String.ofList <|
    if f.tooSmall < point ∧ point ≤ f.most then
      if point ≤ 0 then '0' :: '.' :: List.replicate (-point).toNat '0' ++ digits
      else
        let whole := digits.take point.toNat ++ List.replicate (point.toNat - digits.length) '0'
        let rest := digits.drop point.toNat
        whole ++ '.' :: if rest.isEmpty then ['0'] else rest
    else
      let exponent := point - 1
      let written := Nat.toDigits 10 exponent.natAbs
      digits.take 1 ++ (if digits.length ≤ 1 then [] else '.' :: digits.drop 1) ++
        'e' :: (if exponent < 0 then '-' else '+') ::
        List.replicate (f.exponentWidth - written.length) '0' ++ written

/-- A floating-point number in a format, by its shortest decimal. -/
def Format.write (f : Format) (x : Float) : String :=
  match Parts.ofBits x.toBits.toNat with
  | .nan => f.nan
  | .infinite negative => if negative then "-" ++ f.infinity else f.infinity
  | .finite negative m q narrow =>
    let text := f.positive (if m = 0 then ⟨0, 0⟩ else shortest m q narrow)
    if negative then "-" ++ text else text

end Decimal

end DeviceLauncher
