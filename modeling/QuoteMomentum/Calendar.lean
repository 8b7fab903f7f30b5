/-!
# Dates and moments

Days of the Gregorian calendar, extended back to year 1, and moments of a
day to the microsecond, with an optional offset from UTC. Configuration
documents hold them as values and the table's footer shows the time of the
last update.

Each is written in three ways:

* ISO 8601 text: `2001-12-14`, `2001-12-14T21:59:43.100000-05:00`, with the
  year in four digits, the fraction only when it is not zero, and the offset
  as `±HH:MM` (with seconds, and then microseconds, only when there are any);
* the literal that quotes it in messages, naming its fields:
  `datetime.date(2001, 12, 14)`, `datetime.datetime(2001, 12, 14, 21, 59)`,
  where trailing zero seconds and microseconds are left out and an offset is
  a span of days, seconds and microseconds (`datetime.timezone.utc` for none);
* the span literal of an offset: `datetime.timedelta(days=-1, seconds=68400)`,
  the seconds and microseconds of a negative span taken forward from the
  whole days before it.
-/

namespace QuoteMomentum

/-- A day of the calendar and a time of that day, with its offset from UTC
when it has one. A date alone is a stamp at midnight without an offset. -/
structure Stamp where
  year : Int
  month : Nat
  day : Nat
  hour : Nat
  minute : Nat
  second : Nat
  micro : Nat
  /-- The offset from UTC in microseconds; none for a time without an offset. -/
  offset : Option Int
  deriving Repr, DecidableEq

namespace Stamp

/-! ## The calendar -/

/-- Whether a year of the Gregorian calendar is a leap year. -/
def isLeap (y : Int) : Bool := y % 4 == 0 && (y % 100 != 0 || y % 400 == 0)

/-- The days of a month of a year. -/
def daysIn (y : Int) (m : Nat) : Nat :=
  match m with
  | 2 => if isLeap y then 29 else 28
  | 4 | 6 | 9 | 11 => 30
  | _ => 31

/-- The days of a year before the first of month `m`. -/
def daysBefore (y : Int) (m : Nat) : Nat :=
  ((List.range (m - 1)).map fun i => daysIn y (i + 1)).foldr (· + ·) 0

/-- The days before the first of January of a year, counting from the first
of January of year 1; division truncates toward zero. -/
def daysBeforeYear (y : Int) : Int :=
  let p := y - 1
  p * 365 + p.tdiv 4 - p.tdiv 100 + p.tdiv 400

/-- The day number of a date; the first of January of year 1 is day 1. -/
def ordinal (y : Int) (m d : Nat) : Int := daysBeforeYear y + daysBefore y m + d

/-- The day number of the Monday of the first ISO week of a year: the week
that holds the first Thursday. -/
def weekOneMonday (y : Int) : Int :=
  let first := ordinal y 1 1
  let weekday := (first + 6).tmod 7
  let monday := first - weekday
  if 3 < weekday then monday + 7 else monday

/-- The date of a day number, counting in cycles of 400, 100, 4 and 1 years;
division truncates toward zero. -/
def ofOrdinal (n : Int) : Int × Nat × Nat :=
  let cycle400 : Int := 146097
  let cycle100 : Int := 36524
  let cycle4 : Int := 1461
  let n := n - 1
  let n400 := n.tdiv cycle400
  let n := n.tmod cycle400
  let n100 := n.tdiv cycle100
  let n := n.tmod cycle100
  let n4 := n.tdiv cycle4
  let n := n.tmod cycle4
  let n1 := n.tdiv 365
  let n := n.tmod 365
  let y := n400 * 400 + 1 + n100 * 100 + n4 * 4 + n1
  if n1 == 4 || n100 == 4 then (y - 1, 12, 31)
  else
    let m0 := ((n + 50) / 32).toNat
    let before0 : Int := daysBefore y m0
    let (m, before) := if n < before0 then (m0 - 1, before0 - daysIn y (m0 - 1)) else (m0, before0)
    (y, m, (n - before).toNat + 1)

/-- Whether an ISO week of a year exists: weeks 1 to 52 always, week 53 in
years that begin on a Thursday, or leap years that begin on a Wednesday. -/
def weekExists (y : Int) (w : Nat) : Bool :=
  if 1 ≤ w && w ≤ 52 then true
  else if w == 53 then
    let weekday := (ordinal y 1 1 + 6).tmod 7
    weekday == 3 || (weekday == 2 && isLeap y)
  else false

/-- The date of an ISO week date, if the week and the day exist. -/
def ofWeek (y : Int) (w d : Nat) : Option (Int × Nat × Nat) :=
  if !weekExists y w || d < 1 || 7 < d then none
  else some (ofOrdinal (weekOneMonday y + (w - 1) * 7 + d - 1))

/-! ## Writing -/

/-- A number in two digits at least, with a leading zero. -/
def twoDigits (n : Nat) : String := if n < 10 then "0" ++ toString n else toString n

/-- A number with leading zeros to `width` digits. -/
def padded (width n : Nat) : String :=
  let ds := toString n
  String.ofList (List.replicate (width - ds.length) '0') ++ ds

/-- A date as ISO 8601 writes it, the year in four digits at least. -/
def dateText (y : Int) (m d : Nat) : String :=
  (if y < 0 then "-" else "") ++ padded 4 y.natAbs ++ "-" ++ twoDigits m ++ "-" ++ twoDigits d

/-- An offset from UTC in microseconds as ISO 8601 writes it: `±HH:MM`, then
`:SS` when it has seconds or microseconds, then `.ffffff` when it has
microseconds. -/
def offsetText (o : Int) : String :=
  let a := o.natAbs
  let secs := a / 1000000
  let micro := a % 1000000
  let base := (if o < 0 then "-" else "+") ++ twoDigits (secs / 3600) ++ ":" ++
    twoDigits (secs / 60 % 60)
  if micro != 0 then base ++ ":" ++ twoDigits (secs % 60) ++ "." ++ padded 6 micro
  else if secs % 60 != 0 then base ++ ":" ++ twoDigits (secs % 60)
  else base

/-- The time of day as ISO 8601 writes it, the fraction only when it is not
zero. -/
def clockText (t : Stamp) : String :=
  twoDigits t.hour ++ ":" ++ twoDigits t.minute ++ ":" ++ twoDigits t.second ++
    (if t.micro == 0 then "" else "." ++ padded 6 t.micro)

/-- A moment as ISO 8601 writes it, with `sep` between the date and the time
and the offset at the end when there is one. -/
def isoText (t : Stamp) (sep : String) : String :=
  dateText t.year t.month t.day ++ sep ++ clockText t ++
    (match t.offset with
     | some o => offsetText o
     | none => "")

/-- A span of microseconds as its literal: days, seconds and microseconds,
with the seconds and microseconds not negative, each part only when it is not
zero. -/
def spanLiteral (micros : Int) : String :=
  let day : Int := 86400 * 1000000
  let days := micros / day
  let rest := micros % day
  let parts := [("days", days), ("seconds", rest / 1000000), ("microseconds", rest % 1000000)]
  let shown := (parts.filter (·.2 != 0)).map fun p => p.1 ++ "=" ++ toString p.2
  "datetime.timedelta(" ++ (if shown.isEmpty then "0" else ", ".intercalate shown) ++ ")"

/-- The literal of a date. -/
def dateLiteral (y : Int) (m d : Nat) : String :=
  "datetime.date(" ++ toString y ++ ", " ++ toString m ++ ", " ++ toString d ++ ")"

/-- The literal of a moment: seconds only when they or the microseconds are
not zero, microseconds only when they are not zero, and the zone last. -/
def literal (t : Stamp) : String :=
  let time := [t.hour, t.minute] ++
    (if t.micro != 0 then [t.second, t.micro] else if t.second != 0 then [t.second] else [])
  let zone := match t.offset with
    | none => ""
    | some 0 => ", tzinfo=datetime.timezone.utc"
    | some o => ", tzinfo=datetime.timezone(" ++ spanLiteral o ++ ")"
  "datetime.datetime(" ++ toString t.year ++ ", " ++ toString t.month ++ ", " ++
    toString t.day ++ ", " ++ ", ".intercalate (time.map toString) ++ zone ++ ")"

/-- The instant of an aware moment in microseconds from the first day of year
1, for comparing moments of different offsets. -/
def instant (t : Stamp) : Int :=
  ((ordinal t.year t.month t.day * 86400 + t.hour * 3600 + t.minute * 60 + t.second) * 1000000 +
    t.micro) - t.offset.getD 0

end Stamp

end QuoteMomentum
