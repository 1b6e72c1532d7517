import LeadFlow.Storage.Workflows
import LeadFlow.Workflow.Accumulate

set_option autoImplicit false

/-!
# Storage: runs

Runs are stored under the actor who ran them, and read back newest first.  Folding runs into the
statistics of a workflow reads, changes and writes them in one go.
-/

namespace LeadFlow.Storage

open Calendar

/-- The row of a run. -/
def executionRow (actor workflowId leadId : String) (run : Run) (s : Stamp) : ExecutionRow where
  toStamp := s
  workflowId := workflowId
  actor := actor
  leadId := leadId
  leadName := run.leadName
  workflowName := run.workflowName
  status := run.status.word
  steps := .list (run.steps.map fun r => .object r.toFields)
  startedAt := run.startedAt.toUtc
  completedAt := run.completedAt.toUtc
  error := run.error

/-- Stores a run. -/
def saveRun (actor workflowId leadId : String) (run : Run) : Storage Unit :=
  explained s!"Saving run {run.id} failed: " do
    let _ ← insert .executions (some run.id) (executionRow actor workflowId leadId run)

/-- The results in a row. -/
def ExecutionRow.results (r : ExecutionRow) : Outcome (List StepResult) := do
  (← LeadQuery.itemsOf (valueOr (.list []) r.steps)).mapM StepResult.ofValue

/-- The run of a row. -/
def ExecutionRow.run (r : ExecutionRow) : Outcome Run := do
  let status ← Vocabulary.ofValue (.str r.status)
  return {
    id := r.id, workflowId := r.workflowId, workflowName := r.workflowName, leadId := r.leadId
    leadName := r.leadName, status, steps := ← r.results, startedAt := r.startedAt
    completedAt := r.completedAt, error := r.error }

/-- The row is of the actor, and of the workflow if one is given. -/
def ExecutionRow.isOf (actor workflowId : String) (r : ExecutionRow) : Bool :=
  r.actor == actor && (workflowId == "" || r.workflowId == workflowId)

/-- The last runs of an actor, and of a workflow unless its id is empty. -/
def listRuns (actor workflowId : String) (limit : Int) : Storage (List Run) := do
  let rs ← explained "Run query failed: " (select .executions
    ⟨ExecutionRow.isOf actor workflowId, some (newestBy (·.startedAt)), limit⟩)
  found (rs.mapM ExecutionRow.run)

/-- The statistics in a row. -/
def WorkflowRow.statistics (r : WorkflowRow) : Outcome Stats :=
  (Stats.decode (valueOr (.object []) r.stats)).toOutcome Decode.malformed

/-- Writes the statistics of a workflow, noting the time if they are others than before. -/
def writeStats (before : WorkflowRow) (stats : Stats) : Storage Unit := do
  let after := { before with stats := .object stats.stored }
  if after.stats.same before.stats then hold .workflows before.id after
  else
    let after := { after with updatedAt := (← read).now }
    overwrite .workflows before.id after after

/-- Folds runs with these statuses into the statistics of a workflow; `saving` says how many hours so
many of them save. -/
def foldRuns (workflowId : String) (statuses : List RunStatus) (saving : Nat → Outcome Float) :
    Storage Stats :=
  explained "Stats update failed: " do
    match ← selectOne .workflows (fun _ => true) workflowId with
    | none => throw (noWorkflow workflowId)
    | some r =>
      let before ← found (WorkflowRow.statistics r)
      let stats ← found (before.accumulate statuses saving)
      writeStats r stats
      return stats

end LeadFlow.Storage
