set_option autoImplicit false

/-!
# Calendar: dates

Dates of the proleptic Gregorian calendar and their numbering: day 0 is 1 January of year 1, a
Monday.  The years run from 1 to 9999.
-/

namespace LeadFlow.Calendar

/-- A date: year, month from 1, day from 1. -/
structure Date where
  year : Nat
  month : Nat
  day : Nat
  deriving DecidableEq, Repr, Inhabited

/-- The year has a 29 February. -/
def isLeap (y : Nat) : Bool := y % 4 == 0 && (y % 100 != 0 || y % 400 == 0)

/-- The days of a month. -/
def daysInMonth (y m : Nat) : Nat :=
  if m = 2 then (if isLeap y then 29 else 28)
  else if m = 4 || m = 6 || m = 9 || m = 11 then 30 else 31

/-- The days before 1 January of year `y`. -/
def daysBeforeYear (y : Nat) : Nat :=
  let p := y - 1
  p * 365 + p / 4 - p / 100 + p / 400

/-- The days of a year before the first of a month. -/
def daysBeforeMonth (y m : Nat) : Nat :=
  ((List.range (m - 1)).map fun i => daysInMonth y (i + 1)).foldr (· + ·) 0

/-- The date exists. -/
def Date.isValid (d : Date) : Bool :=
  1 ≤ d.year && d.year ≤ 9999 && 1 ≤ d.month && d.month ≤ 12 && 1 ≤ d.day &&
    d.day ≤ daysInMonth d.year d.month

/-- The number of a date. -/
def Date.number (d : Date) : Nat :=
  daysBeforeYear d.year + daysBeforeMonth d.year d.month + (d.day - 1)

/-- The number of days the calendar covers. -/
def lastDay : Nat := 3652059

/-- The year that day `n` falls into: whole cycles of 400, 100, 4 and 1 years before it.  The last
century of a cycle of 400 years and the last year of a cycle of 4 are a day longer. -/
def yearOf (n : Nat) : Nat :=
  let n400 := n / 146097
  let r400 := n % 146097
  let n100 := min (r400 / 36524) 3
  let r100 := r400 - n100 * 36524
  let n4 := r100 / 1461
  let r4 := r100 % 1461
  n400 * 400 + n100 * 100 + n4 * 4 + min (r4 / 365) 3 + 1

/-- Splits a day of a year into month and day. -/
def monthAndDay (y : Nat) : Nat → Nat → Nat → Nat × Nat
  | 0, m, n => (m, n + 1)
  | fuel + 1, m, n =>
    if n < daysInMonth y m then (m, n + 1) else monthAndDay y fuel (m + 1) (n - daysInMonth y m)

/-- The date with a number. -/
def Date.ofNumber (n : Nat) : Date :=
  let y := yearOf n
  let (m, d) := monthAndDay y 11 1 (n - daysBeforeYear y)
  ⟨y, m, d⟩

/-- The day of the week, Monday being 0. -/
def weekdayOf (n : Nat) : Nat := n % 7

/-- Short names of the days of the week. -/
def weekdayNames : List String := ["Mon", "Tue", "Wed", "Thu", "Fri", "Sat", "Sun"]

/-- A number with at least `width` digits. -/
def padded (width n : Nat) : String :=
  let ds := Nat.toDigits 10 n
  .ofList (List.replicate (width - ds.length) '0' ++ ds)

/-- Year, month and day with dashes. -/
def Date.iso (d : Date) : String := s!"{padded 4 d.year}-{padded 2 d.month}-{padded 2 d.day}"

end LeadFlow.Calendar
