import LeadFlow.Calendar.Date

set_option autoImplicit false

/-!
# Calendar: time zones

A zone gives the distance of local time from UTC.  Fixed zones always give the same; a region may
have daylight saving time, ruled by two Sundays a year.  Times are counted in microseconds from
the start of year 1, offsets in microseconds too; the rules of a region give theirs in seconds.

When clocks go back, a stretch of local time occurs twice; `fold` tells the second pass from the
first.  When clocks go forward, a stretch is skipped; a local time in it is read with the offset
before the change, or the one after it when `fold` is set.
-/

namespace LeadFlow.Calendar

/-- Microseconds per second. -/
def second : Int := 1000000

/-- Microseconds per day. -/
def day : Int := 86400 * second

/-- Daylight saving rules of a region. -/
structure Daylight where
  /-- month in which daylight time begins -/
  startMonth : Nat
  /-- which Sunday of it, 0 for the first, 4 for the last -/
  startWeek : Nat
  /-- seconds from midnight UTC of that Sunday -/
  startSecond : Int
  endMonth : Nat
  endWeek : Nat
  endSecond : Int
  deriving DecidableEq, Repr

/-- A region: standard offset in seconds and daylight rules. -/
structure Region where
  name : String
  standard : Int
  daylight : Option Daylight
  deriving DecidableEq, Repr

/-- A time zone; a fixed offset is in microseconds. -/
inductive Zone where
  | utc
  | fixed (offset : Int)
  | region (r : Region)
  deriving DecidableEq, Repr

/-- The regions known by name. -/
def regions : List Region := [
  -- second Sunday of March, 02:00 standard, to first Sunday of November, 02:00 daylight
  ⟨"America/New_York", -18000, some ⟨3, 1, 25200, 11, 0, 21600⟩⟩,
  -- last Sunday of March to last Sunday of October, 01:00 UTC
  ⟨"Europe/London", 0, some ⟨3, 4, 3600, 10, 4, 3600⟩⟩,
  ⟨"Asia/Kolkata", 19800, none⟩,
  -- first Sunday of October, 02:00 standard, to first Sunday of April, 03:00 daylight
  ⟨"Australia/Sydney", 36000, some ⟨10, 0, -28800, 4, 0, -28800⟩⟩,
  ⟨"GMT", 0, none⟩]

/-- The region with a name. -/
def Region.named? (name : String) : Option Region := regions.find? (·.name == name)

/-- The day number of the `week`-th Sunday of a month, the last if there are not that many. -/
def sunday (year month week : Nat) : Nat :=
  let first := (Date.mk year month 1).number
  let sundays := (List.range (daysInMonth year month)).filter fun i => weekdayOf (first + i) == 6
  first + (sundays[week]?.getD (sundays.getLast?.getD 0))

/-- A change of offset: its instant, and the offsets before and after in seconds. -/
structure Change where
  instant : Int
  before : Int
  after : Int
  deriving DecidableEq, Repr

/-- The changes of a year, in order of time. -/
def Region.changes (r : Region) (year : Nat) : List Change :=
  match r.daylight with
  | none => []
  | some d =>
    let at_ (month week : Nat) (sec : Int) : Int := sunday year month week * day + sec * second
    let on : Change := ⟨at_ d.startMonth d.startWeek d.startSecond, r.standard, r.standard + 3600⟩
    let off : Change := ⟨at_ d.endMonth d.endWeek d.endSecond, r.standard + 3600, r.standard⟩
    if on.instant ≤ off.instant then [on, off] else [off, on]

/-- The offset in force, in seconds: that after the last change passed, or before the first. -/
def offsetAfter (start : Int) (passed : Change → Bool) (changes : List Change) : Int :=
  changes.foldl (fun o c => if passed c then c.after else o) ((changes.head?.map Change.before).getD start)

/-- The year of a time. -/
def yearAt (micros : Int) : Nat := (Date.ofNumber (micros / day).toNat).year

/-- The offset from UTC at a local time. -/
def Zone.offsetLocal (z : Zone) (wall : Int) (fold : Bool) : Int :=
  match z with
  | .utc => 0
  | .fixed o => o
  | .region r =>
    second * offsetAfter r.standard
      (fun c => c.instant + (if fold then min c.before c.after else max c.before c.after) * second ≤ wall)
      (r.changes (yearAt wall))

/-- The offset from UTC at an instant. -/
def Zone.offsetUtc (z : Zone) (instant : Int) : Int :=
  match z with
  | .utc => 0
  | .fixed o => o
  | .region r =>
    second *
      offsetAfter r.standard (fun c => c.instant ≤ instant) (r.changes (yearAt (instant + r.standard * second)))

/-- The instant lies in the second pass of a local time that occurs twice. -/
def Zone.foldUtc (z : Zone) (instant : Int) : Bool :=
  match z with
  | .region r =>
    (r.changes (yearAt (instant + r.standard * second))).any fun c =>
      c.instant ≤ instant && instant < c.instant + (c.before - c.after) * second
  | _ => false

/-- An offset as sign, hours and minutes, then seconds and a fraction of them as far as there are
any. -/
def offsetText (o : Int) : String :=
  let s := o.natAbs / 1000000
  let f := o.natAbs % 1000000
  let tail :=
    if f ≠ 0 then ":" ++ padded 2 (s % 60) ++ "." ++ padded 6 f
    else if s % 60 ≠ 0 then ":" ++ padded 2 (s % 60)
    else ""
  (if o < 0 then "-" else "+") ++ padded 2 (s / 3600) ++ ":" ++ padded 2 (s / 60 % 60) ++ tail

end LeadFlow.Calendar
