import QueryTree.Decimal.Notation

/-!
# QueryTree.Graph.Moment

Dates, times of day and lengths of time, and how they are written.

A length of time is one whole number of microseconds.  It is written as days, if
there are any, and a time of day that is never negative, so that one microsecond
less than nothing is the last microsecond of day minus one.
-/

namespace QueryTree

open Decimal (padded)

/-- A part of a second, after a point, if there is one. -/
def microsecondChars (n : Nat) : List Char :=
  if n = 0 then [] else '.' :: padded 6 n

/-- A day of the calendar. -/
structure Date where
  /-- The year. -/
  year : Nat
  /-- The month, from one. -/
  month : Nat
  /-- The day of the month, from one. -/
  day : Nat
deriving DecidableEq, Repr

/-- A date is written from the year to the day. -/
def Date.chars (d : Date) : List Char :=
  padded 4 d.year ++ '-' :: padded 2 d.month ++ '-' :: padded 2 d.day

/-- A time of day. -/
structure Clock where
  /-- The hour. -/
  hour : Nat
  /-- The minute. -/
  minute : Nat
  /-- The second. -/
  second : Nat
  /-- The microsecond. -/
  microsecond : Nat
deriving DecidableEq, Repr

namespace Clock

/-- A time of day is written in two digits each, with a part of a second if there is one. -/
def chars (c : Clock) : List Char :=
  padded 2 c.hour ++ ':' :: padded 2 c.minute ++ ':' :: padded 2 c.second ++
    microsecondChars c.microsecond

/-- The numbers of a time of day: hour and minute always, second and microsecond as far as they
are needed. -/
def parts (c : Clock) : List Nat :=
  if c.microsecond ≠ 0 then [c.hour, c.minute, c.second, c.microsecond]
  else if c.second ≠ 0 then [c.hour, c.minute, c.second]
  else [c.hour, c.minute]

end Clock

/-- A length of time. -/
structure Duration where
  /-- The length in microseconds. -/
  microseconds : Int
deriving DecidableEq, Repr

namespace Duration

/-- The microseconds of a second. -/
def perSecond : Nat := 1000000

/-- The seconds of a day. -/
def secondsPerDay : Nat := 86400

/-- The length given by numbers of days, seconds and microseconds of any sign. -/
def ofParts (days seconds microseconds : Int) : Duration :=
  ⟨(days * secondsPerDay + seconds) * perSecond + microseconds⟩

/-- The days, rounded down. -/
def days (d : Duration) : Int := d.microseconds / (secondsPerDay * perSecond : Nat)

/-- The seconds beyond the days. -/
def seconds (d : Duration) : Nat :=
  (d.microseconds % (secondsPerDay * perSecond : Nat)).toNat / perSecond

/-- The microseconds beyond the seconds. -/
def fraction (d : Duration) : Nat := (d.microseconds % perSecond).toNat

/-- A length of time: its days if there are any, then hours, minutes, seconds and a part of one. -/
def chars (d : Duration) : List Char :=
  let days := d.days
  let unit := if days.natAbs = 1 then " day, " else " days, "
  (if days = 0 then [] else Decimal.intChars days ++ unit.toList) ++
    Decimal.digitChars (d.seconds / 3600) ++ ':' :: padded 2 (d.seconds / 60 % 60) ++
    ':' :: padded 2 (d.seconds % 60) ++ microsecondChars d.fraction

end Duration

end QueryTree
