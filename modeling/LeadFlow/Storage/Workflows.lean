import LeadFlow.Storage.Leads
import LeadFlow.Workflow.Basic

set_option autoImplicit false

/-!
# Storage: workflows

A stored workflow keeps its steps and statistics as they were written.  Reading one decodes them
anew; writing one decodes them first, so that nothing is stored that could not be read.
-/

namespace LeadFlow.Storage

/-- The owner sees the workflow. -/
def WorkflowRow.isVisible (owner : String) (r : WorkflowRow) : Bool :=
  ownedBy owner r.ownerId && !r.isDeleted

/-- A value, or a stand-in for one that says nothing. -/
def valueOr (standIn v : Value) : Value := if v.isTruthy then v else standIn

/-- The definition in a row. -/
def WorkflowRow.definition (r : WorkflowRow) : Fields :=
  [("id", .str r.id), ("name", .str r.name), ("description", .str r.description),
    ("status", .str r.status), ("steps", valueOr (.list []) r.steps),
    ("stats", valueOr (.object []) r.stats), ("ownerId", .str r.ownerId),
    ("teamId", .ofText? r.teamId)]

/-- The workflow of a row. -/
def WorkflowRow.workflow (r : WorkflowRow) : Outcome Workflow :=
  (Workflow.ofFields r.definition (pure r.createdAt)).toOutcome (Workflow.invalid r.id)

/-- The fault of a workflow that the owner does not see. -/
def noWorkflow (id : String) : Fault := .of .notFound s!"Workflow {id} not found"

/-- The workflow with an id. -/
def findWorkflow (owner id : String) : Storage Workflow := do
  match ← selectOne .workflows (WorkflowRow.isVisible owner) id with
  | some r => found r.workflow
  | none => throw (noWorkflow id)

/-- The workflows of an owner, the last changed first. -/
def listWorkflows (owner : String) (limit : Int) : Storage (List Workflow) := do
  let rs ← select .workflows
    ⟨WorkflowRow.isVisible owner, some (newestBy (·.updatedAt)), limit⟩
  found (rs.mapM WorkflowRow.workflow)

/-- How many workflows a listing shows unless told otherwise. -/
def listingLimit : Int := 200

/-- What a new workflow is made from. -/
structure WorkflowDraft where
  name : Value
  steps : Value
  description : Value
  status : Value
  stats : Value
  /-- the id it is to have, if any -/
  id : Value

/-- The columns of a draft. -/
def WorkflowDraft.columns (d : WorkflowDraft) : Fields :=
  [("name", d.name), ("description", d.description), ("status", d.status), ("steps", d.steps),
    ("stats", valueOr (.object Stats.zero.stored) d.stats)] ++
    (if d.id.isTruthy then [("id", d.id)] else [])

/-- The draft as a definition. -/
def WorkflowDraft.definition (d : WorkflowDraft) : Value :=
  .object (Fields.put "id" (valueOr (.str "new") d.id) d.columns)

/-- Checks and stores a new workflow. -/
def createWorkflow (owner : String) (d : WorkflowDraft) : Storage Workflow := do
  let _ ← found (Workflow.ofDefinition (← read).now d.definition)
  let r ← create .workflows (ownerColumns owner ++ d.columns)
  found (WorkflowRow.workflow r)

end LeadFlow.Storage
