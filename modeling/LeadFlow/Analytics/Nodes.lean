import LeadFlow.Analytics.Order

set_option autoImplicit false

/-!
# Analytics: node performance

Totals per step of a workflow over the most recent runs, in the order in which the steps are first
seen: how often it ran, the share of passes, the mean duration, and the latest run it was part of.
-/

namespace LeadFlow.Analytics

open Calendar

/-- Totals of a node. -/
structure NodeTotals where
  nodeId : Value
  title : Value
  kind : StepKind
  lastRun : Moment
  executions : Nat
  passes : Nat
  totalMs : Int
  deriving Repr

namespace NodeTotals

/-- The totals before the first result of a node. -/
def opened (run : Run) (step : StepResult) : NodeTotals :=
  ⟨step.nodeId, step.title, step.kind, run.startedAt, 0, 0, 0⟩

/-- Takes one result into the totals. -/
def noting (t : NodeTotals) (run : Run) (step : StepResult) : NodeTotals :=
  { t with
    executions := t.executions + 1
    passes := t.passes + (if step.verdict = .pass then 1 else 0)
    totalMs := t.totalMs + step.durationMs
    lastRun := if Moment.lt t.lastRun run.startedAt then run.startedAt else t.lastRun }

end NodeTotals

/-- Takes one result into the totals of its node, which are opened at the end if it is new. -/
def noteStep (run : Run) (step : StepResult) : List NodeTotals → List NodeTotals
  | [] => [(NodeTotals.opened run step).noting run step]
  | t :: ts =>
    if t.nodeId.same step.nodeId then t.noting run step :: ts else t :: noteStep run step ts

/-- The totals of all results of the runs. -/
def nodeTotals (runs : List Run) : List NodeTotals :=
  runs.foldl (fun ts r => r.steps.foldl (fun ts s => noteStep r s ts) ts) []

/-- Lists and objects cannot stand for a node. -/
def keyable : Value → Outcome Unit
  | .list _ => .error (.of .type "unhashable type: 'list'")
  | .object _ => .error (.of .type "unhashable type: 'dict'")
  | _ => .ok ()

/-- Figures of a node. -/
structure NodeMetric where
  nodeId : Value
  title : Value
  kind : StepKind
  executions : Nat
  successRate : Int
  avgDuration : Float
  lastRun : Moment
  deriving Repr

/-- The figures from the totals. -/
def NodeTotals.metric (t : NodeTotals) : Outcome NodeMetric := do
  return ⟨t.nodeId, t.title, t.kind, t.executions, percent t.passes t.executions,
    ← meanSeconds t.totalMs t.executions, t.lastRun⟩

/-- The figures of every node over the `window` most recent runs. -/
def nodePerformance (runs : List Run) (window : Int) : Outcome (List NodeMetric) := do
  let recent := firstOf window (← newestFirst runs)
  recent.forM fun r => r.steps.forM fun s => keyable s.nodeId
  (nodeTotals recent).mapM NodeTotals.metric

/-- The figures as fields. -/
def NodeMetric.toFields (m : NodeMetric) : Fields :=
  [("node_id", m.nodeId), ("node_title", m.title), ("node_type", .str m.kind.word),
    ("executions", .ofNat m.executions), ("success_rate", .int m.successRate),
    ("avg_duration", .float m.avgDuration), ("last_run", .str m.lastRun.iso)]

end LeadFlow.Analytics
