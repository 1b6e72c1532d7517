import LeadFlow.Calendar.Moment

set_option autoImplicit false

/-!
# Calendar: pieces of written dates and times

What all written forms of dates and times are made of: numbers of a fixed number of digits, marks
between them, and the ranges that the numbers must keep to.
-/

namespace LeadFlow.Calendar

/-- A number of exactly `n` digits. -/
def fixedDigits : Nat → Nat → List Char → Option (Nat × List Char)
  | 0, acc, cs => some (acc, cs)
  | n + 1, acc, c :: cs => if c.isDigit then fixedDigits n (10 * acc + (c.toNat - 0x30)) cs else none
  | _ + 1, _, [] => none

/-- A given character. -/
def mark (c : Char) : List Char → Option (List Char)
  | d :: cs => if c = d then some cs else none
  | [] => none

/-- A time of day as it is written. -/
structure TimeOfDay where
  hour : Nat
  minute : Nat
  second : Nat
  micro : Nat
  deriving DecidableEq, Repr

/-- The start of the day. -/
def TimeOfDay.midnight : TimeOfDay := ⟨0, 0, 0, 0⟩

/-- The whole seconds since midnight. -/
def TimeOfDay.seconds (t : TimeOfDay) : Nat := t.hour * 3600 + t.minute * 60 + t.second

/-- The microseconds since midnight. -/
def TimeOfDay.micros (t : TimeOfDay) : Nat := t.seconds * 1000000 + t.micro

/-- The local time of a date and a time of day. -/
def wallOf (d : Date) (t : TimeOfDay) : Int := d.number * day + t.micros

/-- A zone from an offset; less than a second is none. -/
def Zone.ofOffset (o : Int) : Zone := if o.natAbs < 1000000 then .utc else .fixed o

/-- A number out of its range. -/
inductive RangeRefusal where
  | year (n : Nat)
  | month
  | dayOfMonth
  | hour
  | minute
  | second
  deriving DecidableEq, Repr

/-- Checks the ranges of all but the year. -/
def checkWithinYear (d : Date) (t : TimeOfDay) : Option RangeRefusal :=
  if d.month = 0 || 12 < d.month then some .month
  else if d.day = 0 || daysInMonth d.year d.month < d.day then some .dayOfMonth
  else if 23 < t.hour then some .hour
  else if 59 < t.minute then some .minute
  else if 59 < t.second then some .second
  else none

/-- Checks the ranges of date and time. -/
def checkRanges (d : Date) (t : TimeOfDay) : Option RangeRefusal :=
  if d.year = 0 || 9999 < d.year then some (.year d.year) else checkWithinYear d t

end LeadFlow.Calendar
