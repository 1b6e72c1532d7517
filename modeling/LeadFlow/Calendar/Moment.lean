import LeadFlow.Calendar.Zone

set_option autoImplicit false

/-!
# Calendar: moments

A moment is a local date and time, with a zone or without one.  Adding days or setting the time of
day works on the local clock; the offset from UTC is derived afresh.  Moments of one zone compare
by their local clocks, moments of two zones by their instants, and a moment without a zone does not
compare with one that has a zone.
-/

namespace LeadFlow.Calendar

/-- Why a moment has no reading in another zone. -/
inductive ReadingRefusal where
  /-- the instant or its reading lies beyond the calendar -/
  | beyond
  /-- a moment without a zone on the first day of the calendar -/
  | firstDay
  deriving DecidableEq, Repr

/-- A local date and time in microseconds from the start of year 1. -/
structure Moment where
  wall : Int
  zone : Option Zone
  fold : Bool
  deriving DecidableEq, Repr

namespace Moment

/-- The calendar covers the local time. -/
def inRange (wall : Int) : Bool := 0 ≤ wall && wall < lastDay * day

/-- The day number. -/
def dayNumber (m : Moment) : Nat := (m.wall / day).toNat

/-- Microseconds since local midnight. -/
def timeOfDay (m : Moment) : Int := m.wall % day

/-- The date. -/
def date (m : Moment) : Date := .ofNumber m.dayNumber

/-- The hour of the day. -/
def hour (m : Moment) : Nat := (m.timeOfDay / (3600 * second)).toNat

/-- The day of the week, Monday being 0. -/
def weekday (m : Moment) : Nat := weekdayOf m.dayNumber

/-- The offset from UTC, if there is a zone. -/
def offset? (m : Moment) : Option Int := m.zone.map fun z => z.offsetLocal m.wall m.fold

/-- The instant, for a moment with a zone. -/
def instant? (m : Moment) : Option Int := m.offset?.map fun o => m.wall - o

/-- The instant; a moment without a zone is read in UTC. -/
def instant (m : Moment) : Int := m.instant?.getD m.wall

/-- The moment of an instant in UTC. -/
def ofInstant (t : Int) : Moment := ⟨t, some .utc, false⟩

/-- The local reading of an instant. -/
def inZone (z : Zone) (t : Int) : Moment := ⟨t + z.offsetUtc t, some z, z.foldUtc t⟩

/-- The same instant read in a zone; a moment that is in the zone already stays as it is.  Both the
instant and its reading must lie within the calendar.  A moment without a zone is read in UTC, for
which the day before it must lie there too. -/
def toZone (m : Moment) (z : Zone) : Except ReadingRefusal Moment :=
  if m.zone = none && m.wall < day then .error .firstDay
  else if !inRange m.instant then .error .beyond
  else if m.zone = some z then .ok m
  else if inRange (inZone z m.instant).wall then .ok (inZone z m.instant)
  else .error .beyond

/-- The same instant in UTC. -/
def toUtc (m : Moment) : Moment := ofInstant m.instant

/-- The moment some days later by the local clock. -/
def addDays (m : Moment) (n : Int) : Moment := ⟨m.wall + n * day, m.zone, false⟩

/-- The moment with another time of day, in microseconds from midnight. -/
def setTime (m : Moment) (time : Int) : Moment := { m with wall := m.dayNumber * day + time }

/-- The place of a moment among those it compares with: the local clock without a zone, the
instant with one. -/
def comparable (a b : Moment) : Bool := a.zone.isSome == b.zone.isSome

/-- Order of comparable moments. -/
def lt (a b : Moment) : Bool :=
  if a.zone = b.zone then decide (a.wall < b.wall) else decide (a.instant < b.instant)

/-- Microseconds from `b` to `a`, for comparable moments. -/
def since (a b : Moment) : Int :=
  if a.zone = b.zone then a.wall - b.wall else a.instant - b.instant

/-- Local date and time: the fraction only if there is one, the offset only with a zone. -/
def iso (m : Moment) : String :=
  let s := (m.timeOfDay / second).toNat
  let f := (m.timeOfDay % second).toNat
  m.date.iso ++ "T" ++ padded 2 (s / 3600) ++ ":" ++ padded 2 (s / 60 % 60) ++ ":" ++ padded 2 (s % 60) ++
    (if f = 0 then "" else "." ++ padded 6 f) ++ (m.offset?.map offsetText).getD ""

/-- As `iso`, with `Z` for UTC. -/
def isoZulu (m : Moment) : String :=
  if m.offset? = some 0 then { m with zone := none }.iso ++ "Z" else m.iso

end Moment

end LeadFlow.Calendar
