import ClientPlan.Number.Natural
import ClientPlan.Text.Quoted

/-!
# Dates and moments

The calendar values that a document may hold: a date of the proleptic Gregorian calendar with a year
from 1 to 9999, and a moment, which is a date with a time of day and, when it is anchored to the
globe, an offset from universal time.
-/

set_option autoImplicit false

namespace ClientPlan

/-- A calendar date. -/
structure Date where
  /-- The year, from 1 to 9999 in a valid date. -/
  year : Nat
  /-- The month, from 1. -/
  month : Nat
  /-- The day of the month, from 1. -/
  day : Nat
deriving DecidableEq, Repr

/-- A date with a time of day. -/
structure Moment where
  /-- The date. -/
  date : Date
  /-- The hour of the day. -/
  hour : Nat
  /-- The minute of the hour. -/
  minute : Nat
  /-- The second of the minute. -/
  second : Nat
  /-- The microsecond of the second. -/
  microsecond : Nat
  /-- The offset east of universal time in minutes, if there is one. -/
  offset : Option Int
deriving DecidableEq, Repr

namespace Date

/-- Whether a year has 366 days. -/
def isLeap (year : Nat) : Bool :=
  year % 4 == 0 && (year % 100 != 0 || year % 400 == 0)

/-- The number of days of a month. -/
def daysIn (year month : Nat) : Nat :=
  if month == 2 then (if isLeap year then 29 else 28)
  else if month == 4 || month == 6 || month == 9 || month == 11 then 30
  else 31

/-- Whether the date exists. -/
def isValid (d : Date) : Bool :=
  1 ≤ d.year && d.year ≤ 9999 && 1 ≤ d.month && d.month ≤ 12 && 1 ≤ d.day &&
    d.day ≤ daysIn d.year d.month

/-- The number of days before the date, counted from the first day of year 1. -/
def ordinal (d : Date) : Nat :=
  let y := d.year - 1
  let before := Number.total ((List.range (d.month - 1)).map fun m => daysIn d.year (m + 1))
  y * 365 + y / 4 - y / 100 + y / 400 + before + (d.day - 1)

end Date

/-- The decimal text of `n` with at least `width` digits. -/
def paddedDecimal (width n : Nat) : String :=
  let shown := Nat.toDigits 10 n
  String.ofList (List.replicate (width - shown.length) '0' ++ shown)

/-- The date as year, month and day joined by hyphens. -/
def Date.text (d : Date) : String :=
  paddedDecimal 4 d.year ++ "-" ++ paddedDecimal 2 d.month ++ "-" ++ paddedDecimal 2 d.day

/-- The date as it is shown inside another value. -/
def Date.quoted (d : Date) : String :=
  "datetime.date(" ++ ", ".intercalate ([d.year, d.month, d.day].map toString) ++ ")"

namespace Moment

/-- Whether the moment exists: a valid date, a valid time and an offset of less than a day. -/
def isValid (m : Moment) : Bool :=
  m.date.isValid && m.hour < 24 && m.minute < 60 && m.second < 60 && m.microsecond < 1000000 &&
    m.offset.all fun o => o.natAbs < 1440

/-- The offset as a sign with hours and minutes. -/
def offsetText (offset : Int) : String :=
  (if offset < 0 then "-" else "+") ++ paddedDecimal 2 (offset.natAbs / 60) ++ ":" ++
    paddedDecimal 2 (offset.natAbs % 60)

/-- The moment as date and time, with the microseconds if there are any and the offset. -/
def text (m : Moment) : String :=
  m.date.text ++ " " ++ paddedDecimal 2 m.hour ++ ":" ++ paddedDecimal 2 m.minute ++ ":" ++
    paddedDecimal 2 m.second ++
    (if m.microsecond == 0 then "" else "." ++ paddedDecimal 6 m.microsecond) ++
    (match m.offset with
      | none => ""
      | some o => offsetText o)

/-- The offset as it is shown inside another value. -/
def offsetQuoted (offset : Int) : String :=
  if offset == 0 then "datetime.timezone.utc"
  else
    let parts :=
      if 0 < offset then ["seconds=" ++ toString (offset.natAbs * 60)]
      else ["days=-1", "seconds=" ++ toString ((1440 - offset.natAbs) * 60)]
    "datetime.timezone(datetime.timedelta(" ++ ", ".intercalate parts ++ "))"

/-- The moment as it is shown inside another value: seconds and microseconds only if needed. -/
def quoted (m : Moment) : String :=
  let small :=
    if m.microsecond != 0 then [m.second, m.microsecond]
    else if m.second != 0 then [m.second] else []
  let fields := [m.date.year, m.date.month, m.date.day, m.hour, m.minute] ++ small
  let zone := match m.offset with
    | none => []
    | some o => ["tzinfo=" ++ offsetQuoted o]
  "datetime.datetime(" ++ ", ".intercalate (fields.map toString ++ zone) ++ ")"

/-- The microseconds since the start of year 1, local time without an offset. -/
def instant (m : Moment) : Int :=
  let minutes : Int := ((m.date.ordinal * 24 + m.hour) * 60 + m.minute : Nat) - m.offset.getD 0
  (minutes * 60 + m.second) * 1000000 + m.microsecond

/-- Two moments agree if they are the same instant and both or none are anchored. -/
def agrees (a b : Moment) : Bool :=
  a.offset.isSome == b.offset.isSome && a.instant == b.instant

end Moment

end ClientPlan
