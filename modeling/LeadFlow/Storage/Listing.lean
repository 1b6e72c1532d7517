import LeadFlow.Storage.Workflows

set_option autoImplicit false

/-!
# Storage: listings and removal

Any table can be listed by wanted values of its columns.  Tables with owners show an owner only its
own rows, and deleted rows are never shown.  Removing a row marks it as deleted.
-/

namespace LeadFlow.Storage

/-- The owner sees the row in a listing. -/
def TableName.shows (owner : String) : (t : TableName) → t.Row → Bool
  | .leads, r => LeadRow.isVisible owner r
  | .workflows, r => WorkflowRow.isVisible owner r
  | .templates, r => owner == "" || TemplateRow.ownerId r == some owner
  | .messages, r => ownedBy owner (MessageRow.ownerId r)
  | .executions, _ => true
  | .audits, _ => true

/-- Rows with wanted values, greatest values of a column first; a name that is no column asks for no
order. -/
def listRows (t : TableName) (owner : String) (limit : Int) (column : String) (wanted : Fields) :
    Storage (List t.Row) :=
  select t ⟨fun r => t.shows owner r && fieldsMatch t wanted r,
    if t.columns.contains column then some (greatestBy t column) else none, limit⟩

/-- The lead, marked as deleted. -/
def LeadRow.removed (r : LeadRow) (now : Calendar.Moment) : LeadRow :=
  { r with isDeleted := true, deletedAt := some now }

/-- Marks a lead as deleted; answers with the row before the change is noted. -/
def removeLead (id : String) : Storage (Option LeadRow) := do
  let now := (← read).now
  match ← selectOne .leads (fun _ => true) id with
  | none => return none
  | some r =>
    let after := LeadRow.removed r now
    overwrite .leads id { after with updatedAt := now } { after with updatedAt := now }
    return some after

/-- The workflow, marked as deleted. -/
def WorkflowRow.removed (r : WorkflowRow) (now : Calendar.Moment) : WorkflowRow :=
  { r with isDeleted := true, deletedAt := some now }

/-- Marks a workflow as deleted; answers with the row before the change is noted. -/
def removeWorkflow (id : String) : Storage (Option WorkflowRow) := do
  let now := (← read).now
  match ← selectOne .workflows (fun _ => true) id with
  | none => return none
  | some r =>
    let after := WorkflowRow.removed r now
    overwrite .workflows id { after with updatedAt := now } { after with updatedAt := now }
    return some after

/-- Marks a row as deleted; only leads and workflows can be marked. -/
def remove : (t : TableName) → (id : String) → Storage (Option t.Row)
  | .leads, id => removeLead id
  | .workflows, id => removeWorkflow id
  | t, _ => throw (.lacks t.rowWord "soft_delete")

end LeadFlow.Storage
