import LeadFlow.Execution.Batch
import LeadFlow.Storage.Backed

set_option autoImplicit false

/-!
# Storage: executing a stored workflow

A stored workflow is executed for the leads that a query selects, all in one session: reading the
workflow and the leads, the work of the steps, and the bookkeeping afterwards.
-/

namespace LeadFlow.Storage

open Execution

/-- What stored workflows are executed with. -/
structure Desk (τ σ : Type) where
  /-- delivers and rewords messages -/
  others : Outside calls τ σ
  task : Task
  context : Context
  rowId : Nat → String
  runId : Nat → String

namespace Desk

variable {τ σ : Type} [Timeline τ]

/-- The engine for executions in a session. -/
def engine (d : Desk τ σ) : Engine τ (Session × σ) where
  outside := backed d.context.actor d.rowId d.others
  task := d.task
  context := d.context
  runId := d.runId

/-- Work in the session of a journey, at the time it has come to. -/
def within {α : Type} (d : Desk τ σ) (p : Storage α) (j : Journey τ (Session × σ)) :
    Outcome α × Journey τ (Session × σ) :=
  let (outcome, session) := p.runIn ⟨j.now, d.rowId⟩ j.world.1
  (outcome, { j with world := (session, j.world.2) })

/-- The workflow and the leads of an execution. -/
def chosen (d : Desk τ σ) (workflowId : String) (q : LeadQuery) : Storage (Workflow × List Lead) := do
  let w ← findWorkflow d.context.actor workflowId
  return (w, ← selectLeads d.context.actor q)

/-- Executes a stored workflow for the leads selected. -/
def execute (d : Desk τ σ) (workflowId : String) (q : LeadQuery) (j : Journey τ (Session × σ)) :
    Outcome Engine.Batch × Journey τ (Session × σ) :=
  match d.within (d.chosen workflowId q) j with
  | (.error f, j) => (.error f, j)
  | (.ok (w, leads), j) =>
    let (batch, j) := d.engine.execute w leads j
    (.ok batch, j)

end Desk

end LeadFlow.Storage
