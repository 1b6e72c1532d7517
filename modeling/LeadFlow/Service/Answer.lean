import LeadFlow.Decode.Basic
import LeadFlow.Execution.Batch
import LeadFlow.Service.Request
import LeadFlow.Service.View
import LeadFlow.Settings

set_option autoImplicit false

/-!
# Service: what is answered

The contents of responses.  Moments are written in UTC with a `Z`.  A fault that stands for an
answer brings its own status; a wrong value is the fault of the request; any other fault is that of
the service, and in production says nothing about itself.
-/

namespace LeadFlow.Service

open Analytics Execution

/-! ## Contents -/

/-- Nothing but texts can be answered here. -/
def textOf (name : String) (v : Value) : Outcome Value :=
  (Value.str <$> (Decode.text v).under (.key name)).toOutcome Decode.malformed

/-- The result of a step as fields. -/
def resultFields (r : StepResult) : Fields :=
  [("node_id", r.nodeId), ("node_title", r.title), ("node_type", .str r.kind.word),
    ("status", .str r.verdict.word), ("message", r.message), ("duration_ms", .int r.durationMs)]

/-- A run as fields. -/
def runFields (r : Run) : Outcome Fields := do
  return [("run_id", .str r.id), ("workflow_id", .str r.workflowId),
    ("workflow_name", .str r.workflowName), ("lead_id", .str r.leadId), ("lead_name", .str r.leadName),
    ("status", .str r.status.word), ("steps", .list (r.steps.map fun s => .object (resultFields s))),
    ("started_at", .str r.startedAt.isoZulu), ("completed_at", .str r.completedAt.isoZulu),
    ("duration_ms", .int (← r.durationMs)), ("error_message", .ofText? r.error)]

/-- The results of an execution as fields. -/
def batchFields (b : Engine.Batch) : Outcome Fields := do
  let succeeded := b.runs.countP (·.status == .success)
  let results ← b.runs.mapM runFields
  return [("workflow_id", .str b.workflow.id), ("total", .ofNat b.runs.length),
    ("succeeded", .ofNat succeeded), ("failed", .ofNat (b.runs.length - succeeded)),
    ("results", .list (results.map .object))]

/-- An entry of the log as fields. -/
def entryFields (e : LogEntry) : Outcome Fields := do
  let step ← textOf "step" e.step
  return (e.toFields.put "timestamp" (.str e.timestamp.isoZulu)).put "step" step

/-- The log as fields. -/
def logFields (entries : List LogEntry) : Outcome Fields := do
  let rows ← entries.mapM entryFields
  return [("entries", .list (rows.map .object)), ("total", .ofNat rows.length)]

/-- The figures of a node as fields. -/
def metricFields (m : NodeMetric) : Outcome Fields := do
  let nodeId ← textOf "node_id" m.nodeId
  let title ← textOf "node_title" m.title
  return ((m.toFields.put "last_run" (.str m.lastRun.isoZulu)).put "node_id" nodeId).put "node_title" title

/-! ## Refusals -/

/-- Why a request is not answered. -/
inductive Refusal where
  | fault (f : Fault)
  /-- what is wrong with the request -/
  | issues (is : List Decode.Issue)
  /-- a body that breaks a limit, or whose bytes are no text -/
  | unreadable
  | unready
  | notFound
  | wrongMethod
  | redirected

/-- What a handler comes to. -/
abbrev Handled (α : Type) := Except Refusal α

/-- Checked data, or the refusal of the request. -/
def handled {α : Type} : Decode.Checked α → Handled α
  | .ok a => .ok a
  | .issues is => .error (.issues is)
  | .fault f => .error (.fault f)

/-- The refusal of a body that is not read. -/
def bodyRefusal : Json.Unread → Refusal
  | .text r _ =>
    if r.cause.isForm then
      .issues [⟨[.key "body", .index r.offset], .notJson r.cause.message, .object []⟩]
    else .unreadable
  | .bytes _ => .unreadable

/-- A result, or the refusal for its fault. -/
def settled {α : Type} (o : Outcome α) : Handled α := o.mapError .fault

/-- What an unexpected fault says in production, or if it has no text. -/
def unexpected : String := "Internal server error"

/-- The status for a fault. -/
def faultStatus (f : Fault) : Int := f.kind.status?.getD (if f.kind.isValueFault then 400 else 500)

/-- What is said about a fault. -/
def faultDetail (s : Settings) (f : Fault) : String :=
  if f.kind.status?.isSome then f.given
  else if f.kind.isValueFault then f.text
  else if s.isProduction || f.text == "" then unexpected
  else f.text

namespace Refusal

/-- The status. -/
def status : Refusal → Int
  | fault f => faultStatus f
  | issues _ => 422
  | unreadable => 400
  | unready => 503
  | notFound => 404
  | wrongMethod => 405
  | redirected => 307

/-- The content; a redirection has none. -/
def body (s : Settings) (requestId : String) : Refusal → Option Value
  | fault f => some (.object [("detail", .str (faultDetail s f)), ("request_id", .str requestId)])
  | issues is => some (.object [("detail", .list (is.map fun i => .object i.toFields))])
  | unreadable => some (.object [("detail", .str "There was an error parsing the body")])
  | unready => some (.object [("status", .str "unhealthy"), ("database", .str "unavailable")])
  | notFound => some (.object [("detail", .str "Not Found")])
  | wrongMethod => some (.object [("detail", .str "Method Not Allowed")])
  | redirected => none

end Refusal

end LeadFlow.Service
