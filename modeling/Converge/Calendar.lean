/-!
# Dates and moments

A date of the years 1 to 9999, and a date with the time of day and the offset of a time zone, each
with the texts in which it is shown. `Date.of?` and `Moment.of?` say what makes a date or a moment
impossible.
-/

namespace Converge

/-- What makes a date, a time or a time zone impossible. -/
inductive CalendarFault where
  | year (number : Nat)
  | month
  | day
  | hour
  | minute
  | second
  /-- An offset of a day or more, in millionths of a second. -/
  | offset (micros : Int)
deriving DecidableEq, Repr

/-- A day of the calendar. -/
structure Date where
  year : Nat
  month : Nat
  day : Nat
deriving DecidableEq, Repr

/-- A time of a day; `offset` is that of its time zone in millionths of a second, when it has one. -/
structure Moment where
  date : Date
  hour : Nat
  minute : Nat
  second : Nat
  micros : Nat
  offset : Option Int
deriving DecidableEq, Repr

/-- The text of a number, filled with zeros to a width. -/
def padded (width n : Nat) : String :=
  let digits := toString n
  "".pushn '0' (width - digits.length) ++ digits

namespace Date

/-- Every fourth year, of the hundreds only every fourth. -/
def isLeap (year : Nat) : Bool :=
  year % 4 == 0 && (year % 100 != 0 || year % 400 == 0)

def daysIn (year month : Nat) : Nat :=
  if month = 2 then (if isLeap year then 29 else 28)
  else if month = 4 ∨ month = 6 ∨ month = 9 ∨ month = 11 then 30
  else 31

/-- The date of three numbers. -/
def of? (year month day : Nat) : Except CalendarFault Date :=
  if year < 1 ∨ 9999 < year then .error (.year year)
  else if month < 1 ∨ 12 < month then .error .month
  else if day < 1 ∨ daysIn year month < day then .error .day
  else .ok ⟨year, month, day⟩

/-- The number of days before the date, from the first of January of the year 1. -/
def daysBefore (d : Date) : Nat :=
  let y := d.year - 1
  let months := (List.range (d.month - 1)).map fun m => daysIn d.year (m + 1)
  y * 365 + y / 4 - y / 100 + y / 400 + months.foldl (· + ·) 0 + (d.day - 1)

/-- Year, month and day between hyphens. -/
def text (d : Date) : String :=
  padded 4 d.year ++ "-" ++ padded 2 d.month ++ "-" ++ padded 2 d.day

end Date

def microsPerSecond : Nat := 1000000

def microsPerDay : Nat := 86400 * microsPerSecond

/-- A difference of times: whole days, the seconds within a day and the millionths of a second within
a second. -/
def spanText (micros : Int) : String :=
  let days := micros / microsPerDay
  let seconds := micros % microsPerDay / microsPerSecond
  let rest := micros % microsPerSecond
  let part (name : String) (n : Int) : List String :=
    if n = 0 then [] else [name ++ "=" ++ toString n]
  let parts := part "days" days ++ part "seconds" seconds ++ part "microseconds" rest
  "datetime.timedelta(" ++ (if parts.isEmpty then "0" else ", ".intercalate parts) ++ ")"

/-- An offset as hours and minutes, with seconds and millionths where there are any. -/
def offsetText (micros : Int) : String :=
  let seconds := micros.natAbs / microsPerSecond
  let rest := micros.natAbs % microsPerSecond
  (if micros < 0 then "-" else "+") ++ padded 2 (seconds / 3600) ++ ":" ++
    padded 2 (seconds / 60 % 60) ++
    (if seconds % 60 = 0 ∧ rest = 0 then "" else ":" ++ padded 2 (seconds % 60)) ++
    (if rest = 0 then "" else "." ++ padded 6 rest)

namespace Moment

/-- The moment of its parts; the offset is judged first, then the parts in order. -/
def of? (year month day hour minute second micros : Nat) (offset : Option Int) :
    Except CalendarFault Moment := do
  match offset with
  | some span => if microsPerDay ≤ span.natAbs then throw (.offset span)
  | none => pure ()
  let date ← Date.of? year month day
  if 24 ≤ hour then throw .hour
  if 60 ≤ minute then throw .minute
  if 60 ≤ second then throw .second
  return ⟨date, hour, minute, second, micros, offset⟩

/-- Microseconds since the start of the year 1, at the offset zero. -/
def instant (m : Moment) : Int :=
  let seconds : Int := m.date.daysBefore * 86400 + m.hour * 3600 + m.minute * 60 + m.second
  seconds * microsPerSecond - m.offset.getD 0 + m.micros

/-- Two moments are the same when both have a time zone and happen at once, or neither has one and
their parts agree. -/
def sameAs (a b : Moment) : Bool :=
  a.offset.isSome == b.offset.isSome && a.instant == b.instant

/-- The date, a separator, the time and the offset. -/
def textWith (separator : String) (m : Moment) : String :=
  let fraction := if m.micros = 0 then "" else "." ++ padded 6 m.micros
  let zone := (m.offset.map offsetText).getD ""
  m.date.text ++ separator ++ padded 2 m.hour ++ ":" ++ padded 2 m.minute ++ ":" ++
    padded 2 m.second ++ fraction ++ zone

/-- The text with a blank before the time. -/
def text (m : Moment) : String := m.textWith " "

end Moment

/-- The form in which a date is shown inside a collection. -/
def Date.literal (d : Date) : String :=
  "datetime.date(" ++ ", ".intercalate [toString d.year, toString d.month, toString d.day] ++ ")"

/-- The form in which a moment is shown inside a collection. -/
def Moment.literal (m : Moment) : String :=
  let seconds :=
    if m.micros ≠ 0 then [toString m.second, toString m.micros]
    else if m.second ≠ 0 then [toString m.second] else []
  let zone := match m.offset with
    | none => []
    | some 0 => ["tzinfo=datetime.timezone.utc"]
    | some n => ["tzinfo=datetime.timezone(" ++ spanText n ++ ")"]
  "datetime.datetime(" ++
    ", ".intercalate
      ([m.date.year, m.date.month, m.date.day, m.hour, m.minute].map toString ++ seconds ++ zone) ++
    ")"

/-- The wording of a refusal. -/
def CalendarFault.message : CalendarFault → String
  | .year y => "year " ++ toString y ++ " is out of range"
  | .month => "month must be in 1..12"
  | .day => "day is out of range for month"
  | .hour => "hour must be in 0..23"
  | .minute => "minute must be in 0..59"
  | .second => "second must be in 0..59"
  | .offset span =>
    "offset must be a timedelta strictly between -timedelta(hours=24) and timedelta(hours=24), not "
      ++ spanText span ++ "."

end Converge
