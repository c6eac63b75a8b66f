/-
  FormPress.Data.Moment

  Days of the calendar and points in time, the latter with or without their
  distance from universal time. Only days of the years 1 to 9999 exist
  (`Day.isReal`). The written form has four digits for the year and two for
  each other part.
-/
import FormPress.Decimal.Layout

namespace FormPress

/-! ## Days -/

/-- A day of the calendar. -/
structure Day where
  year : Nat
  month : Nat
  day : Nat
  deriving DecidableEq, Repr, Inhabited

namespace Day

/-- Whether a year has a leap day. -/
def isLeap (year : Nat) : Bool := year % 4 == 0 && (year % 100 != 0 || year % 400 == 0)

/-- How many days a month has. -/
def daysIn (year month : Nat) : Nat :=
  if month == 2 then (if isLeap year then 29 else 28)
  else if [4, 6, 9, 11].contains month then 30 else 31

/-- Whether the parts name a day. -/
def isReal (d : Day) : Bool :=
  1 ≤ d.year && d.year ≤ 9999 && 1 ≤ d.month && d.month ≤ 12 && 1 ≤ d.day &&
    d.day ≤ daysIn d.year d.month

/-- How many days of its year are before the first of a month. -/
def daysBefore (year month : Nat) : Nat :=
  ((List.range (month - 1)).map fun m => daysIn year (m + 1)).foldl (· + ·) 0

/-- How many days the day is after the first of January of the year 1. -/
def number (d : Day) : Nat :=
  let y := d.year - 1
  y * 365 + y / 4 - y / 100 + y / 400 + daysBefore d.year d.month + d.day - 1

/-- A number with at least `width` digits. -/
def padded (width n : Nat) : String := String.ofList (Decimal.padLeft width (Nat.toDigits 10 n))

/-- The written form of a day. -/
def text (d : Day) : String := padded 4 d.year ++ "-" ++ padded 2 d.month ++ "-" ++ padded 2 d.day

end Day

/-! ## Points in time -/

/-- A point in time; `offset` is how many seconds its clock is ahead of universal time. -/
structure Moment where
  day : Day
  hour : Nat
  minute : Nat
  second : Nat
  micros : Nat
  offset : Option Int
  deriving DecidableEq, Repr, Inhabited

namespace Moment

/-- How many seconds a day has. -/
def daySeconds : Nat := 86400

/-- Whether the parts name a point in time. -/
def isReal (m : Moment) : Bool :=
  m.day.isReal && m.hour < 24 && m.minute < 60 && m.second < 60 && m.micros < 1000000 &&
    m.offset.all fun o => o.natAbs < daySeconds

/-- The millionths of a second since the year 1 by the own clock. -/
def localMicros (m : Moment) : Nat :=
  ((m.day.number * 24 + m.hour) * 60 + m.minute) * 60000000 + m.second * 1000000 + m.micros

/-- The millionths of a second since the year 1 by universal time; a clock without an offset
    shows universal time. -/
def instant (m : Moment) : Int := m.localMicros - m.offset.getD 0 * 1000000

/-- Whether two points in time can be ordered: both or neither have an offset. -/
def comparable (a b : Moment) : Bool := a.offset.isSome == b.offset.isSome

/-- Whether two points in time are the same. -/
def same (a b : Moment) : Bool := a.comparable b && a.instant == b.instant

/-- The written form of an offset. -/
def offsetText (seconds : Int) : String :=
  let n := seconds.natAbs
  let rest := if n % 60 == 0 then "" else ":" ++ Day.padded 2 (n % 60)
  (if seconds < 0 then "-" else "+") ++ Day.padded 2 (n / 3600) ++ ":" ++
    Day.padded 2 (n / 60 % 60) ++ rest

/-- The written form of a point in time. -/
def text (m : Moment) : String :=
  m.day.text ++ " " ++ Day.padded 2 m.hour ++ ":" ++ Day.padded 2 m.minute ++ ":" ++
    Day.padded 2 m.second ++ (if m.micros == 0 then "" else "." ++ Day.padded 6 m.micros) ++
    (m.offset.map offsetText).getD ""

end Moment

end FormPress
