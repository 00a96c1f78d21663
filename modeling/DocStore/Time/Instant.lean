/-!
# Instants and their RFC 3339 text

An instant is a count of seconds since 1970-01-01T00:00:00 UTC (leap seconds not counted) with
a nanosecond part. A leap second is the second 59 with a nanosecond part of one second or more,
and is written as second 60.

Two texts are written, both in UTC with `Z`:

* `millisText`: always three fraction digits, truncated (the form of stored server timestamps);
* `autoText`: no fraction when the nanoseconds are zero, otherwise three, six or nine digits,
  the fewest that are exact.

Years 0 to 9999 have four digits; other years carry a sign and at least four digits.
The calendar is the proleptic Gregorian one, converted by the civil-day algorithm on integers
(divisions by positive numbers round down, so eras before year 0 need no correction).
-/

namespace DocStore

/-- An instant in UTC. `nanos` is below `2 · 10 ^ 9` and reaches `10 ^ 9` only in a leap
second. -/
structure Instant where
  seconds : Int
  nanos : Nat
deriving DecidableEq, Repr, Inhabited

/-- A calendar date and a time of day. -/
structure CivilTime where
  year : Int
  month : Nat
  day : Nat
  hour : Nat
  minute : Nat
  second : Nat
deriving DecidableEq, Repr

namespace Calendar

/-- Is the year a leap year of the Gregorian calendar? -/
def isLeapYear (y : Int) : Bool :=
  (y % 4 == 0 && y % 100 != 0) || y % 400 == 0

/-- The number of days of a month. -/
def daysInMonth (y : Int) (m : Nat) : Nat :=
  match m with
  | 1 | 3 | 5 | 7 | 8 | 10 | 12 => 31
  | 4 | 6 | 9 | 11 => 30
  | 2 => if isLeapYear y then 29 else 28
  | _ => 0

/-- Is `y-m-d` a date? -/
def validDate (y : Int) (m d : Nat) : Bool :=
  1 ≤ m && m ≤ 12 && 1 ≤ d && d ≤ daysInMonth y m

/-- Days from 1970-01-01 to a date. -/
def daysFromCivil (y : Int) (m d : Nat) : Int :=
  let y' : Int := if m ≤ 2 then y - 1 else y
  let era : Int := y' / 400
  let yoe : Int := y' - era * 400
  let mp : Int := if m > 2 then (m : Int) - 3 else (m : Int) + 9
  let doy : Int := (153 * mp + 2) / 5 + (d : Int) - 1
  let doe : Int := yoe * 365 + yoe / 4 - yoe / 100 + doy
  era * 146097 + doe - 719468

/-- The date of a day counted from 1970-01-01. -/
def civilFromDays (z0 : Int) : Int × Nat × Nat :=
  let z := z0 + 719468
  let era : Int := z / 146097
  let doe : Int := z - era * 146097
  let yoe : Int := (doe - doe / 1460 + doe / 36524 - doe / 146096) / 365
  let y : Int := yoe + era * 400
  let doy : Int := doe - (365 * yoe + yoe / 4 - yoe / 100)
  let mp : Int := (5 * doy + 2) / 153
  let d : Int := doy - (153 * mp + 2) / 5 + 1
  let m : Int := if mp < 10 then mp + 3 else mp - 9
  ((if m ≤ 2 then y + 1 else y), m.toNat, d.toNat)

end Calendar

namespace Instant

/-- The instant of a UTC date and time, with a nanosecond part. -/
def ofCivil (t : CivilTime) (nanos : Nat) : Instant :=
  ⟨Calendar.daysFromCivil t.year t.month t.day * 86400 + (t.hour * 3600 + t.minute * 60 + t.second : Nat),
    nanos⟩

/-- The UTC date and time of an instant, the second of a leap second being 60. -/
def civil (t : Instant) : CivilTime :=
  let days := t.seconds / 86400
  let secs := (t.seconds % 86400).toNat
  let (y, m, d) := Calendar.civilFromDays days
  let leap := if 1000000000 ≤ t.nanos then 1 else 0
  ⟨y, m, d, secs / 3600, secs % 3600 / 60, secs % 60 + leap⟩

/-- The nanoseconds within the written second. -/
def fraction (t : Instant) : Nat := t.nanos % 1000000000

/-- The instant truncated to whole milliseconds. -/
def truncateMillis (t : Instant) : Instant := ⟨t.seconds, t.nanos / 1000000 * 1000000⟩

end Instant

namespace TimeText

/-- A natural number with at least `width` digits, padded with zeros. -/
def padded (width n : Nat) : String :=
  let s := toString n
  String.ofList (List.replicate (width - s.length) '0') ++ s

/-- A year: four digits within 0 to 9999, otherwise a sign and at least four digits. -/
def year (y : Int) : String :=
  if 0 ≤ y ∧ y ≤ 9999 then padded 4 y.toNat
  else (if y < 0 then "-" else "+") ++ padded 4 y.natAbs

/-- `YYYY-MM-DDTHH:MM:SS` of a civil time. -/
def dateTime (c : CivilTime) : String :=
  year c.year ++ "-" ++ padded 2 c.month ++ "-" ++ padded 2 c.day ++ "T" ++ padded 2 c.hour ++ ":" ++
    padded 2 c.minute ++ ":" ++ padded 2 c.second

end TimeText

namespace Instant

/-- RFC 3339 in UTC with three fraction digits (truncated) and `Z`. -/
def millisText (t : Instant) : String :=
  TimeText.dateTime t.civil ++ "." ++ TimeText.padded 3 (t.fraction / 1000000) ++ "Z"

/-- RFC 3339 in UTC with `Z` and the shortest of no, three, six or nine fraction digits that is
exact. -/
def autoText (t : Instant) : String :=
  let f := t.fraction
  let frac :=
    if f = 0 then ""
    else if f % 1000000 = 0 then "." ++ TimeText.padded 3 (f / 1000000)
    else if f % 1000 = 0 then "." ++ TimeText.padded 6 (f / 1000)
    else "." ++ TimeText.padded 9 f
  TimeText.dateTime t.civil ++ frac ++ "Z"

/-- The instant in milliseconds of the Julian day number, the engine's measure of time: the
Unix epoch is Julian day 2440587.5. -/
def julianMillis (t : Instant) : Int := t.seconds * 1000 + (t.nanos / 1000000 : Nat) + 210866760000000

end Instant

end DocStore
