/-!
# Dates and times of day

`Date` and `Moment` are the calendar values that a configuration can hold. `Date.check` and
`Moment.check` refuse what no calendar has and name the first part that is wrong. Each value has
two texts: `toString`, as a user writes it, and `literal`, as it is shown inside another value.
-/

namespace DeviceLauncher

/-- A number with leading zeros up to a width. -/
def padded (width n : Nat) : String :=
  let digits := Nat.toDigits 10 n
  String.ofList (List.replicate (width - digits.length) '0' ++ digits)

/-- A day of the Gregorian calendar, extended backwards. -/
structure Date where
  year : Nat
  month : Nat
  day : Nat
  deriving DecidableEq

/-- A day and a time of day, with the offset from universal time in minutes if it is known. -/
structure Moment where
  date : Date
  hour : Nat
  minute : Nat
  second : Nat
  microsecond : Nat
  offset : Option Int
  deriving DecidableEq

/-- Why numbers are no date or time. -/
inductive CalendarFault where
  | wrongYear (year : Nat)
  | wrongMonth
  | wrongDay
  | wrongHour
  | wrongMinute
  | wrongSecond
  | wrongOffset (minutes : Int)
  deriving DecidableEq

/-- A span of minutes as whole days and the seconds that remain, never negative. -/
def daysAndSeconds (minutes : Int) : Int × Int :=
  (Int.fdiv minutes 1440, Int.fmod minutes 1440 * 60)

/-- A span of minutes as it is shown inside another value. -/
def spanLiteral (minutes : Int) : String :=
  let (days, seconds) := daysAndSeconds minutes
  let parts := (if days = 0 then [] else [s!"days={days}"]) ++
    (if seconds = 0 then [] else [s!"seconds={seconds}"])
  "datetime.timedelta(" ++ (if parts.isEmpty then "0" else ", ".intercalate parts) ++ ")"

namespace CalendarFault

def message : CalendarFault → String
  | wrongYear year => s!"year {year} is out of range"
  | wrongMonth => "month must be in 1..12"
  | wrongDay => "day is out of range for month"
  | wrongHour => "hour must be in 0..23"
  | wrongMinute => "minute must be in 0..59"
  | wrongSecond => "second must be in 0..59"
  | wrongOffset minutes =>
    "offset must be a timedelta strictly between -timedelta(hours=24) and " ++
      "timedelta(hours=24), not " ++ spanLiteral minutes ++ "."

end CalendarFault

/-- Whether the year has a 29th of February. -/
def isLeap (year : Nat) : Bool := year % 4 == 0 && (year % 100 != 0 || year % 400 == 0)

/-- The number of days of a month. -/
def daysIn (year month : Nat) : Nat :=
  if month = 2 then if isLeap year then 29 else 28
  else if month = 4 ∨ month = 6 ∨ month = 9 ∨ month = 11 then 30
  else 31

namespace Date

/-- The date itself if the calendar has it. Years have at most four digits. -/
def check (d : Date) : Except CalendarFault Date :=
  if d.year = 0 then .error (.wrongYear d.year)
  else if d.month = 0 ∨ 12 < d.month then .error .wrongMonth
  else if d.day = 0 ∨ daysIn d.year d.month < d.day then .error .wrongDay
  else .ok d

/-- The number of days from the start of year one. -/
def dayNumber (d : Date) : Nat :=
  let before := d.year - 1
  let months := (List.range (d.month - 1)).map fun m => daysIn d.year (m + 1)
  before * 365 + before / 4 - before / 100 + before / 400 + months.foldl (· + ·) 0 + d.day

def toString (d : Date) : String :=
  padded 4 d.year ++ "-" ++ padded 2 d.month ++ "-" ++ padded 2 d.day

def literal (d : Date) : String := s!"datetime.date({d.year}, {d.month}, {d.day})"

end Date

namespace Moment

/-- The moment itself if the calendar has its date and a day its time. -/
def check (m : Moment) : Except CalendarFault Moment := do
  let _ ← m.date.check
  if 23 < m.hour then .error .wrongHour
  else if 59 < m.minute then .error .wrongMinute
  else if 59 < m.second then .error .wrongSecond
  else .ok m

/-- An offset that a moment can have: less than a day. -/
def checkOffset (minutes : Int) : Except CalendarFault Int :=
  if minutes.natAbs < 1440 then .ok minutes else .error (.wrongOffset minutes)

/-- The number of microseconds from the start of year one, by the clock of the moment. -/
def microseconds (m : Moment) : Int :=
  (((m.date.dayNumber * 24 + m.hour) * 60 + m.minute) * 60 + m.second) * 1000000 + m.microsecond

/-- Whether two moments are the same: the same instant, or, without offsets, the same reading of
the clock. -/
def same (a b : Moment) : Bool :=
  match a.offset, b.offset with
  | none, none => a == b
  | some x, some y => a.microseconds - x * 60000000 == b.microseconds - y * 60000000
  | _, _ => false

/-- An offset as hours and minutes. -/
def offsetText (minutes : Int) : String :=
  let n := minutes.natAbs
  (if minutes < 0 then "-" else "+") ++ padded 2 (n / 60) ++ ":" ++ padded 2 (n % 60)

def toString (m : Moment) : String :=
  m.date.toString ++ " " ++ padded 2 m.hour ++ ":" ++ padded 2 m.minute ++ ":" ++
    padded 2 m.second ++ (if m.microsecond = 0 then "" else "." ++ padded 6 m.microsecond) ++
    (m.offset.map offsetText).getD ""

def literal (m : Moment) : String :=
  let small :=
    if m.microsecond ≠ 0 then [m.second, m.microsecond]
    else if m.second ≠ 0 then [m.second]
    else []
  let numbers := [m.date.year, m.date.month, m.date.day, m.hour, m.minute] ++ small
  let zone := match m.offset with
    | none => []
    | some 0 => ["tzinfo=datetime.timezone.utc"]
    | some minutes => ["tzinfo=datetime.timezone(" ++ spanLiteral minutes ++ ")"]
  "datetime.datetime(" ++ ", ".intercalate (numbers.map ToString.toString ++ zone) ++ ")"

end Moment

end DeviceLauncher
