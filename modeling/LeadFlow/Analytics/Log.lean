import LeadFlow.Analytics.Order

set_option autoImplicit false

/-!
# Analytics: the execution log

One entry per recorded step, latest run first and steps in their recorded order.  A limited log is
cut after so many entries, but never before the first.
-/

namespace LeadFlow.Analytics

/-- A row of the log. -/
structure LogEntry where
  id : String
  timestamp : Calendar.Moment
  workflowName : String
  leadName : String
  step : Value
  status : RunStatus
  duration : Float
  deriving Repr

/-- The status of a row. -/
def logStatus : Verdict → RunStatus
  | .pass => .success
  | .fail => .failed
  | .skip => .skipped

/-- A name, or a stand-in for an empty one. -/
def nameOr (standIn name : String) : String := if name = "" then standIn else name

/-- The row of a step of a run. -/
def logEntry (run : Run) (step : StepResult) : Outcome LogEntry := do
  return {
    id := s!"{run.id}-{step.nodeId.display}"
    timestamp := run.startedAt
    workflowName := nameOr "Unknown Workflow" run.workflowName
    leadName := nameOr "Unknown Lead" run.leadName
    step := step.title
    status := logStatus step.verdict
    duration := ← dividedBy step.durationMs 1000 }

/-- The recorded steps with their runs, in the order of the log. -/
def recordedSteps (runs : List Run) : List (Run × StepResult) :=
  runs.flatMap fun r => r.steps.map (r, ·)

/-- The log of the runs, cut at the limit. -/
def executionLog (runs : List Run) (limit : Int) : Outcome (List LogEntry) := do
  let rows := recordedSteps (← newestFirst runs)
  (rows.take (max limit 1).toNat).mapM fun (run, step) => logEntry run step

/-- The row as fields. -/
def LogEntry.toFields (e : LogEntry) : Fields :=
  [("id", .str e.id), ("timestamp", .str e.timestamp.iso), ("workflow_name", .str e.workflowName),
    ("lead_name", .str e.leadName), ("step", e.step), ("status", .str e.status.word),
    ("duration", .float e.duration)]

end LeadFlow.Analytics
