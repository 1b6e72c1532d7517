import LeadFlow.Execution.Registry
import LeadFlow.Workflow.Basic

set_option autoImplicit false

/-!
# Execution: one lead

The steps of a workflow run in order for one lead.  A condition that is not met leaves out every
later step; a step that fails marks the run as failed, and the later steps still run.  Each step
has a time limit of its own, and all together have what is left of the batch: a step that runs into
its own limit fails, and when the batch runs out the lead is cut off.
-/

namespace LeadFlow.Execution

open Calendar

/-- What is known of a run while its steps go by. -/
structure RecordState where
  latched : Bool
  failed : Bool
  error : Option String
  deriving DecidableEq, Repr

namespace RecordState

/-- Nothing has happened yet. -/
def fresh : RecordState := ⟨false, false, none⟩

/-- The state after a step of a kind ended with a report. -/
def after (s : RecordState) (kind : StepKind) (r : Report) : RecordState :=
  match r.verdict with
  | .fail => { s with failed := true, error := some r.message }
  | .skip => if kind = .condition then { s with latched := true } else s
  | .pass => s

/-- The status of the run. -/
def runStatus (s : RecordState) : RunStatus := if s.failed then .failed else .success

end RecordState

/-- The message of a step that a condition has left out. -/
def skippedMessage : String := "Skipped — upstream condition not met"

/-- The result of a step. -/
def resultOf (step : Step) (r : Report) (durationMs : Int) : StepResult :=
  ⟨.str step.id, .str step.title, step.kind, r.verdict, .str r.message, durationMs⟩

/-- The result of a step that a condition has left out. -/
def leftOut (step : Step) : StepResult := resultOf step (.skipped skippedMessage) 0

/-- What a batch is executed with. -/
structure Engine (τ σ : Type) where
  outside : Outside calls τ σ
  task : Task
  context : Context
  /-- the supply of run ids -/
  runId : Nat → String

/-- The course of an execution. -/
abbrev Journey (τ σ : Type) := Course calls τ σ

namespace Engine

variable {τ σ : Type} [Timeline τ]

/-- The time limit of a step. -/
def stepLimit (e : Engine τ σ) : τ := Timeline.ofSeconds e.context.settings.stepTimeout

/-- The report of a step that ran into its limit. -/
def timedOut (e : Engine τ σ) : Report :=
  .failed s!"Step timed out after {Decimal.compact e.context.settings.stepTimeout}s"

/-- How a step ended, or nothing if the batch ran out.  A timeout raised by the work itself counts
as a timeout of the step. -/
def reportOf (e : Engine τ σ) (batchBound : Bool) : Ending Report → Option Report
  | .finished (.ok r) => some r
  | .finished (.error f) =>
    if f.kind = .timeout then (if batchBound then none else some e.timedOut)
    else some (.failed f.summary)
  | .cut => if batchBound then none else some e.timedOut

/-- Executes a step; nothing if the batch ran out. -/
def runStep (e : Engine τ σ) (lead : Lead) (deadline : τ) (step : Step) (j : Journey τ σ) :
    Option StepResult × Option Report × Journey τ σ :=
  let remaining := Timeline.sub deadline j.time
  if Timeline.le remaining Timeline.zero then (none, none, j)
  else
    let batchBound := Timeline.lt remaining e.stepLimit
    let limit := if batchBound then remaining else e.stepLimit
    let (ending, j') := (e.task step lead e.context).runWithin e.outside limit j
    match e.reportOf batchBound ending with
    | some r => (some (resultOf step r (Timeline.millis (Timeline.sub j'.time j.time))), some r, j')
    | none => (none, none, j')

/-- Executes steps in order; nothing if the batch ran out. -/
def runSteps (e : Engine τ σ) (lead : Lead) (deadline : τ) :
    List Step → RecordState → Journey τ σ → Option (List StepResult × RecordState) × Journey τ σ
  | [], s, j => (some ([], s), j)
  | step :: rest, s, j =>
    if s.latched then
      match e.runSteps lead deadline rest s j with
      | (some (results, s'), j') => (some (leftOut step :: results, s'), j')
      | (none, j') => (none, j')
    else
      match e.runStep lead deadline step j with
      | (some result, some r, j') =>
        match e.runSteps lead deadline rest (s.after step.kind r) j' with
        | (some (results, s'), j'') => (some (result :: results, s'), j'')
        | (none, j'') => (none, j'')
      | (_, _, j') => (none, j')

/-- A run with the next id. -/
def issue (e : Engine τ σ) (w : Workflow) (lead : Lead) (status : RunStatus) (steps : List StepResult)
    (startedAt completedAt : Moment) (error : Option String) (j : Journey τ σ) : Run × Journey τ σ :=
  ({ id := e.runId j.issued, workflowId := w.id, workflowName := w.name, leadId := lead.id
     leadName := lead.name, status, steps, startedAt, completedAt, error },
    { j with issued := j.issued + 1 })

/-- Executes a workflow for a lead; nothing if the batch ran out. -/
def runLead (e : Engine τ σ) (w : Workflow) (deadline : τ) (lead : Lead) (j : Journey τ σ) :
    Option Run × Journey τ σ :=
  let (startedAt, j) := j.stamp
  match e.runSteps lead deadline w.steps .fresh j with
  | (none, j) => (none, j)
  | (some (steps, s), j) =>
    let (completedAt, j) := j.stamp
    let (run, j) := e.issue w lead s.runStatus steps startedAt completedAt s.error j
    (some run, j)

end Engine

end LeadFlow.Execution
