import DeviceLauncher.Value.Basic
import DeviceLauncher.Yaml.Fault

/-!
# Times in YAML

A time is a date, or a date and a time of day with a fraction and an offset. `readTime` finds its
parts, `isTime` says whether a plain scalar has the form of a time, and `readMoment` gives the
value of a scalar that is one.
-/

namespace DeviceLauncher.Yaml

/-- A text without the newline at its end. -/
def withoutNewline (cs : List Char) : List Char :=
  if cs.getLast? = some '\n' then cs.dropLast else cs

/-- The parts of a time as it is written. -/
structure TimeText where
  year : Nat
  month : Nat
  day : Nat
  /-- Whether month and day have two digits each. -/
  full : Bool
  /-- Hour, minute, second, digits of the fraction, and the offset in minutes. -/
  clock : Option (Nat × Nat × Nat × List Char × Option Int)

/-- A number of at least `least` and at most two digits, and what follows. -/
def shortNumber (least : Nat) (cs : List Char) : Option (Nat × List Char) :=
  let digits := (cs.takeWhile Char.isDigit).take 2
  if digits.length < least then none
  else some (digits.foldl (fun n d => 10 * n + (d.toNat - '0'.toNat)) 0, cs.drop digits.length)

/-- What follows a character. -/
def after (c : Char) : List Char → Option (List Char)
  | x :: rest => if x == c then some rest else none
  | [] => none

/-- The offset at the end of a time: nothing, `Z`, or hours and perhaps minutes. -/
def readOffset (cs : List Char) : Option (Option Int) := do
  match cs.dropWhile fun c => c == ' ' || c == '\t' with
  | [] => if cs.isEmpty then some none else none
  | ['Z'] => some (some 0)
  | sign :: rest =>
    let (hours, rest) ← shortNumber 1 rest
    let minutes ← (
      match rest with
      | [] => some 0
      | rest => do
        let (minutes, rest) ← shortNumber 2 (← after ':' rest)
        if rest.isEmpty then some minutes else none)
    let span : Int := (hours * 60 + minutes : Nat)
    if sign == '-' then some (some (-span)) else if sign == '+' then some (some span) else none

/-- The time of day after a date. -/
def readClock (cs : List Char) : Option (Nat × Nat × Nat × List Char × Option Int) := do
  let rest ← (
    match cs with
    | 'T' :: rest | 't' :: rest => some rest
    | c :: rest =>
      if c == ' ' || c == '\t' then some (rest.dropWhile fun c => c == ' ' || c == '\t') else none
    | [] => none)
  let (hour, rest) ← shortNumber 1 rest
  let (minute, rest) ← shortNumber 2 (← after ':' rest)
  let (second, rest) ← shortNumber 2 (← after ':' rest)
  match rest with
  | '.' :: rest =>
    let offset ← readOffset (rest.dropWhile Char.isDigit)
    return (hour, minute, second, rest.takeWhile Char.isDigit, offset)
  | rest => return (hour, minute, second, [], ← readOffset rest)

/-- The parts of a text that is written as a date or time. -/
def readTime (cs : List Char) : Option TimeText := do
  let digits := (cs.takeWhile Char.isDigit).take 4
  if digits.length < 4 then none
  let year := digits.foldl (fun n d => 10 * n + (d.toNat - '0'.toNat)) 0
  let rest ← after '-' (cs.drop 4)
  let (month, afterMonth) ← shortNumber 1 rest
  let rest ← after '-' afterMonth
  let (day, afterDay) ← shortNumber 1 rest
  let full := cs.length - afterDay.length == 10
  match afterDay with
  | [] => return ⟨year, month, day, full, none⟩
  | _ => return ⟨year, month, day, full, some (← readClock afterDay)⟩

/-- Whether the text has the form of a time. A date alone needs all its digits. -/
def isTime (cs : List Char) : Bool :=
  match readTime cs with
  | some t => t.full || t.clock.isSome
  | none => false

/-- A scalar of kind `time`: a date, or a date and time with its fraction cut to microseconds. A
newline may end it. -/
def readMoment (cs : List Char) : Except Fault Value :=
  match readTime (withoutNewline cs) with
  | none => .error .time
  | some t =>
    let date : Date := ⟨t.year, t.month, t.day⟩
    match t.clock with
    | none => (date.check.mapError .calendar).map .date
    | some (hour, minute, second, fraction, offset) => do
      let digits := fraction.take 6 ++ List.replicate (6 - fraction.length) '0'
      let microsecond := digits.foldl (fun n d => 10 * n + (d.toNat - '0'.toNat)) 0
      let offset ← (offset.mapM Moment.checkOffset).mapError Fault.calendar
      let m : Moment := ⟨date, hour, minute, second, microsecond, offset⟩
      (m.check.mapError .calendar).map .moment

end DeviceLauncher.Yaml
