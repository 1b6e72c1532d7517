import LeadFlow.Analytics.Order
import LeadFlow.Workflow.Basic

set_option autoImplicit false

/-!
# Analytics: triggers

How the runs of a workflow spread over trigger types, hours of the day and the last seven days.  A
trigger type fires once per run if the workflow declares a trigger of that type at all; a run that
ended in success counts as converted.  Hours and days go by the clock of a zone.
-/

namespace LeadFlow.Analytics

open Calendar

/-- The name of a trigger type for readers. -/
def triggerLabel : TriggerType → String
  | .leadCreated => "Lead Created"
  | .scoreChange => "Lead Score Changes"
  | .statusChange => "Lead Activity Occurs"
  | .timeElapsed => "Scheduled Time"
  | .tagAdded => "Custom Trigger"

/-- Figures of a trigger type. -/
structure TriggerMetric where
  type : TriggerType
  label : String
  count : Nat
  fired : Nat
  converted : Nat
  conversionRate : Int
  avgResponse : Float
  deriving Repr

/-- Runs that started in an hour of the day. -/
structure HourBucket where
  hour : Nat
  label : String
  triggers : Nat
  deriving Repr, DecidableEq

/-- Runs that started on a day. -/
structure DayBucket where
  day : String
  date : String
  count : Nat
  deriving Repr, DecidableEq

/-- The trigger view of a workflow. -/
structure TriggerReport where
  types : List TriggerMetric
  hours : List HourBucket
  peak : HourBucket
  totalFired : Nat
  totalConverted : Nat
  overallConversion : Int
  week : List DayBucket
  deriving Repr

/-- The number of triggers of a type that a workflow declares. -/
def declaredTriggers (w : Workflow) (t : TriggerType) : Nat :=
  w.steps.countP fun s =>
    match s.body with
    | .trigger c => c.triggerType == t.word
    | _ => false

/-- The runs of a workflow. -/
def runsOf (w : Workflow) (runs : List Run) : List Run := runs.filter (·.workflowId == w.id)

/-- The number of runs that ended in success. -/
def successes (runs : List Run) : Nat := runs.countP (·.status == .success)

/-- Figures of one type. -/
def triggerMetric (w : Workflow) (runs : List Run) (avgResponse : Float) (t : TriggerType) :
    TriggerMetric :=
  let count := declaredTriggers w t
  let fired := if count = 0 then 0 else runs.length
  let converted := if count = 0 then 0 else successes runs
  ⟨t, triggerLabel t, count, fired, converted, percent converted fired, avgResponse⟩

/-- The label of an hour on a clock of twelve hours. -/
def hourLabel (h : Nat) : String :=
  if h = 0 then "12a" else if h < 12 then s!"{h}a" else if h = 12 then "12p" else s!"{h - 12}p"

/-- The bucket of an hour, from the local starts of runs. -/
def hourBucket (starts : List Moment) (h : Nat) : HourBucket :=
  ⟨h, hourLabel h, starts.countP fun m => m.hour == h⟩

/-- The earliest of the fullest buckets. -/
def peakOf (first : HourBucket) (rest : List HourBucket) : HourBucket :=
  rest.foldl (fun p b => if p.triggers < b.triggers then b else p) first

/-- The bucket of the day with a number, from the local starts of runs. -/
def dayBucket (starts : List Moment) (number : Nat) : DayBucket :=
  { day := weekdayNames[weekdayOf number]?.getD ""
    date := (Date.ofNumber number).iso
    count := starts.countP fun m => m.dayNumber == number }

/-- Mean duration of the runs in seconds; 0 without runs. -/
def meanResponse (runs : List Run) : Outcome Float :=
  if runs.isEmpty then .ok 0
  else do
    let durations ← runs.mapM Run.durationMs
    meanSeconds (durations.foldr (· + ·) 0) runs.length

/-- The seven days up to that of `now`, which is read in the zone. -/
def lastDays (now : Moment) : Outcome (List Nat) :=
  if now.dayNumber < 6 then .error dateOutOfRange
  else .ok ((List.range 7).map fun i => now.dayNumber - (6 - i))

/-- The trigger view of a workflow from runs that may be of several workflows. -/
def triggerReport (w : Workflow) (runs : List Run) (zone : Zone) (now : Moment) :
    Outcome TriggerReport := do
  let now ← now.seenIn zone
  let runs := runsOf w runs
  let avgResponse ← meanResponse runs
  let types := (TriggerType.members.map (·.2)).map (triggerMetric w runs avgResponse)
  let starts ← runs.mapM fun r => r.startedAt.seenIn zone
  let hours := (List.range 24).map (hourBucket starts)
  let week := (← lastDays now).map (dayBucket starts)
  let totalFired := (types.map TriggerMetric.fired).foldr (· + ·) 0
  let totalConverted := (types.map TriggerMetric.converted).foldr (· + ·) 0
  return {
    types, hours, totalFired, totalConverted, week
    peak := peakOf (hourBucket starts 0) hours
    overallConversion := percent totalConverted totalFired }

/-- The figures as fields. -/
def TriggerMetric.toFields (m : TriggerMetric) : Fields :=
  [("type", .str m.type.word), ("label", .str m.label), ("count", .ofNat m.count),
    ("fired", .ofNat m.fired), ("converted", .ofNat m.converted),
    ("conversion_rate", .int m.conversionRate), ("avg_response_time", .float m.avgResponse)]

/-- The bucket as fields. -/
def HourBucket.toFields (b : HourBucket) : Fields :=
  [("hour", .ofNat b.hour), ("label", .str b.label), ("triggers", .ofNat b.triggers)]

/-- The bucket as fields. -/
def DayBucket.toFields (b : DayBucket) : Fields :=
  [("day", .str b.day), ("date", .str b.date), ("count", .ofNat b.count)]

/-- The view as fields. -/
def TriggerReport.toFields (r : TriggerReport) : Fields :=
  [("trigger_types", .list (r.types.map fun m => .object m.toFields)),
    ("hourly_distribution", .list (r.hours.map fun b => .object b.toFields)),
    ("peak_hour", .object r.peak.toFields), ("total_fired", .ofNat r.totalFired),
    ("total_converted", .ofNat r.totalConverted), ("overall_conversion", .int r.overallConversion),
    ("weekly_trend", .list (r.week.map fun b => .object b.toFields))]

end LeadFlow.Analytics
