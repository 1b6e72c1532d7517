import LeadFlow.Workflow.Run

set_option autoImplicit false

/-!
# Message: send times

A timing preference names a time of day by the local clock.  The send time is the next such time
strictly after now; for the optimal time, a Saturday or Sunday moves on to Monday.
-/

namespace LeadFlow.Message

open Calendar

/-- The moment, if the calendar covers it. -/
def covered (m : Moment) : Outcome Moment :=
  if Moment.inRange m.wall then .ok m else .error dateOutOfRange

/-- Microseconds from midnight at an hour and minute. -/
def atTime (hour minute : Nat) : Int := ((hour * 60 + minute : Nat) : Int) * 60 * second

/-- A part of a time of day as a machine number. -/
def clockPart (v : Value) : Outcome Int :=
  match Num.ofValue? v with
  | some (.int n) =>
    if n < -0x8000000000000000 || 0x8000000000000000 ≤ n then
      .error (.of .overflow "Python int too large to convert to C long")
    else if n < -0x80000000 then .error (.of .overflow "signed integer is less than minimum")
    else if 0x80000000 ≤ n then .error (.of .overflow "signed integer is greater than maximum")
    else .ok n
  | _ => .error (.of .type s!"'{v.kindName}' object cannot be interpreted as an integer")

/-- Microseconds from midnight at an hour and minute that have yet to be checked. -/
def timeOfDay (hour minute : Value) : Outcome Int := do
  let h ← clockPart hour
  let m ← clockPart minute
  if h < 0 || 23 < h then throw (.of .value "hour must be in 0..23")
  if m < 0 || 59 < m then throw (.of .value "minute must be in 0..59")
  return atTime h.toNat m.toNat

/-- The next local time of day `time` strictly after `now`. -/
def nextOccurrence (now : Moment) (time : Int) : Outcome Moment :=
  let candidate := now.setTime time
  if candidate.wall ≤ now.wall then covered (candidate.addDays 1) else .ok candidate

/-- Moves a weekend day on to Monday. -/
def skipWeekend (m : Moment) : Outcome Moment :=
  if m.weekday = 5 then covered (m.addDays 2)
  else if m.weekday = 6 then covered (m.addDays 1)
  else .ok m

/-- The time of day a timing stands for. -/
def window? : Timing → Option Int
  | .immediate => none
  | .morning => some (atTime 9 0)
  | .afternoon => some (atTime 14 0)
  | .optimal => some (atTime 10 30)

/-- The reference time read in the zone. -/
def localNow (now : Moment) (zone : Zone) : Outcome Moment :=
  match now.zone with
  | none => .ok { now with zone := some zone }
  | some _ => now.seenIn zone

/-- The send time for a timing, by the local clock of the zone. -/
def sendTime (timing : Timing) (now : Moment) (zone : Zone) : Outcome Moment := do
  let now ← localNow now zone
  match window? timing with
  | none => return now
  | some time =>
    let next ← nextOccurrence now time
    if timing = .optimal then skipWeekend next else return next

/-! ## Zones by name -/

/-- Resolves `.` and `..` in the parts of a path; `done` holds the parts kept, last first. -/
def resolveParts (done : List String) : List String → List String
  | [] => done.reverse
  | "" :: rest => resolveParts done rest
  | "." :: rest => resolveParts done rest
  | ".." :: rest =>
    match done with
    | [] | ".." :: _ => resolveParts (".." :: done) rest
    | _ :: kept => resolveParts kept rest
  | p :: rest => resolveParts (p :: done) rest

/-- The path without detours, `.` if nothing is left. -/
def resolvedPath (path : String) : String :=
  match resolveParts [] (Text.split '/' path) with
  | [] => "."
  | parts => "/".intercalate parts

/-- The path leads to a place below the folder it starts from. -/
def staysBelow (path : String) : Bool :=
  (Text.after? "_/".toList (resolvedPath ("_/" ++ path)).toList).isSome

/-- The zone with a name: UTC under its own name or `Z`, in any case, or a region. -/
def zoneNamed (name : String) : Outcome Zone :=
  let upper := Text.upper name
  if upper = "UTC" || upper = "Z" then .ok .utc
  else if name.toList.head? = some '/' then
    .error (.of .value s!"ZoneInfo keys may not be absolute paths, got: {name}")
  else if (resolvedPath name).length ≠ name.length then
    .error (.of .value s!"ZoneInfo keys must be normalized relative paths, got: {name}")
  else if !staysBelow name then
    .error (.of .value s!"ZoneInfo keys must refer to subdirectories of TZPATH, got: {name}")
  else
    match Region.named? name with
    | some r => .ok (.region r)
    | none => .error (.of .zoneNotFound s!"No time zone found with key {name}")

/-- The name of a zone. -/
def zoneName : Zone → String
  | .utc => "UTC"
  | .fixed o => "UTC" ++ offsetText o
  | .region r => r.name

end LeadFlow.Message
