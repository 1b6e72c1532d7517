import LeadFlow.Calendar.Iso
import LeadFlow.Value.Arithmetic
import LeadFlow.Value.Display
import LeadFlow.Workflow.Kind

set_option autoImplicit false

/-!
# Workflow: runs

A run is what happened to one lead in one invocation of a workflow: a status, a result per step,
the times of start and end, and the last error.  Results read back from storage keep ids, titles
and messages as they were stored, texts or not.
-/

namespace LeadFlow

open Calendar

/-- The result of a step for a lead. -/
structure StepResult where
  nodeId : Value
  title : Value
  kind : StepKind
  verdict : Verdict
  message : Value
  durationMs : Int
  deriving Repr

namespace StepResult

/-- The result as it is stored. -/
def toFields (r : StepResult) : Fields :=
  [("nodeId", r.nodeId), ("nodeTitle", r.title), ("nodeType", .str r.kind.word),
    ("status", .str r.verdict.word), ("message", r.message), ("durationMs", .int r.durationMs)]

/-- A whole number from a stored value: numbers lose their fraction, texts are read. -/
def wholeOf : Value → Outcome Int
  | .int n => .ok n
  | .bool b => .ok (if b then 1 else 0)
  | .float x => truncateWhole x
  | .str s =>
    match Decimal.intOfText s with
    | .ok n => .ok n
    | .error .form =>
      .error (.of .value s!"invalid literal for int() with base 10: {Text.take 200 (Text.quoted s)}")
    | .error (.digits count) => .error (.of .value (Decimal.tooManyDigits count))
  | v => .error (.of .type
      s!"int() argument must be a string, a bytes-like object or a real number, not '{v.kindName}'")

/-- Use of a value without keys as if it had some. -/
def noKeys : Value → Fault
  | .str _ => .of .type "string indices must be integers, not 'str'"
  | .list _ => .of .type "list indices must be integers or slices, not str"
  | v => .of .type s!"'{v.kindName}' object is not subscriptable"

/-- A field that has to be there. -/
def needed (fs : Fields) (key : String) : Outcome Value :=
  match Fields.get? fs key with
  | some v => .ok v
  | none => .error (.of .key key)

/-- Reads a stored result. -/
def ofValue (v : Value) : Outcome StepResult :=
  match v with
  | .object fs => do
    let nodeId ← needed fs "nodeId"
    let kind ← Vocabulary.ofValue ((Fields.get? fs "nodeType").getD (.str StepKind.action.word))
    let verdict ← Vocabulary.ofValue (← needed fs "status")
    let duration ← wholeOf ((Fields.get? fs "durationMs").getD (.int 0))
    return ⟨nodeId, (Fields.get? fs "nodeTitle").getD (.str ""), kind, verdict,
      (Fields.get? fs "message").getD (.str ""), duration⟩
  | v => .error (noKeys v)

end StepResult

/-- The complete outcome for one lead. -/
structure Run where
  id : String
  workflowId : String
  workflowName : String
  leadId : String
  leadName : String
  status : RunStatus
  steps : List StepResult
  startedAt : Moment
  completedAt : Moment
  error : Option String
  deriving Repr

namespace Run

/-- Moments with and without a zone have no distance. -/
def noDistance : Fault := .of .type "can't subtract offset-naive and offset-aware datetimes"

/-- A span in microseconds as whole milliseconds: the nearest double in seconds, times a thousand,
cut off. -/
def millisOf (micros : Int) : Outcome Int := truncateWhole (quotient micros 1000000 * 1000)

/-- How long the run took. -/
def durationMs (r : Run) : Outcome Int :=
  if Moment.comparable r.completedAt r.startedAt then
    millisOf (Moment.since r.completedAt r.startedAt)
  else .error noDistance

/-- The run as fields. -/
def toFields (r : Run) : Fields :=
  [("runId", .str r.id), ("workflowId", .str r.workflowId), ("workflowName", .str r.workflowName),
    ("leadId", .str r.leadId), ("leadName", .str r.leadName), ("status", .str r.status.word),
    ("steps", .list (r.steps.map fun s => .object s.toFields)),
    ("startedAt", .str r.startedAt.iso), ("completedAt", .str r.completedAt.iso),
    ("errorMessage", .ofText? r.error)]

end Run

/-- The fault of a number out of its range. -/
def Calendar.RangeRefusal.fault : RangeRefusal → Fault
  | .year n => .of .value s!"year {n} is out of range"
  | .month => .of .value "month must be in 1..12"
  | .dayOfMonth => .of .value "day is out of range for month"
  | .hour => .of .value "hour must be in 0..23"
  | .minute => .of .value "minute must be in 0..59"
  | .second => .of .value "second must be in 0..59"

/-- A span as whole days and the seconds and microseconds beyond them, each if there are any. -/
def Calendar.spanText (micros : Int) : String :=
  let seconds := micros % day / second
  let rest := micros % second
  s!"datetime.timedelta(days={micros / day}" ++ (if seconds = 0 then "" else s!", seconds={seconds}") ++
    (if rest = 0 then ")" else s!", microseconds={rest})")

/-- The fault of a text that is no moment. -/
def Calendar.IsoRefusal.fault (text : String) : IsoRefusal → Fault
  | .shape => .of .value s!"Invalid isoformat string: {Text.quoted text}"
  | .offset micros => .of .value ("offset must be a timedelta strictly between " ++
      "-timedelta(hours=24) and timedelta(hours=24), not " ++ spanText micros ++ ".")
  | .range r => r.fault

/-- A date beyond the calendar. -/
def Calendar.dateOutOfRange : Fault := .of .overflow "date value out of range"

/-- The fault of a moment without a reading. -/
def Calendar.ReadingRefusal.fault : ReadingRefusal → Fault
  | .beyond => dateOutOfRange
  | .firstDay => (RangeRefusal.year 0).fault

/-- The same instant read in a zone, or a fault. -/
def Calendar.Moment.seenIn (m : Moment) (z : Zone) : Outcome Moment := (m.toZone z).mapError (·.fault)

/-- Reads a moment or faults. -/
def Calendar.Moment.ofText (s : String) : Outcome Moment := (Moment.read s).mapError (·.fault s)

end LeadFlow
