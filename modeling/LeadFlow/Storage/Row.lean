import LeadFlow.Calendar.Moment
import LeadFlow.Value.Basic

set_option autoImplicit false

/-!
# Storage: rows

What is kept about leads, workflows, message templates, executions, queued messages and the audit
log.  Every row carries a stamp: its id and the times of its creation and last change.  Leads and
workflows are never removed, only marked as deleted.  Free-form columns hold any value, so a stored
definition may well be one that does not decode.
-/

namespace LeadFlow.Storage

open Calendar

/-- Id, creation and last change of a row. -/
structure Stamp where
  id : String
  createdAt : Moment
  updatedAt : Moment
  deriving DecidableEq, Repr

/-- A stored lead. -/
structure LeadRow extends Stamp where
  ownerId : String
  name : String
  company : String
  email : String
  score : Num
  status : String
  insights : String
  lastActivity : Option String
  knowledgeBase : Value
  deletedAt : Option Moment
  isDeleted : Bool
  deriving Repr

/-- A stored workflow. -/
structure WorkflowRow extends Stamp where
  ownerId : String
  teamId : Option String
  name : String
  description : String
  status : String
  steps : Value
  stats : Value
  deletedAt : Option Moment
  isDeleted : Bool
  deriving Repr

/-- A stored template; without an owner it is shared. -/
structure TemplateRow extends Stamp where
  ownerId : Option String
  name : String
  category : String
  subject : String
  body : String
  isDefault : Bool
  deriving Repr

/-- A stored run of a workflow for a lead, with the actor it was run by. -/
structure ExecutionRow extends Stamp where
  workflowId : String
  actor : String
  leadId : String
  leadName : String
  workflowName : String
  status : String
  steps : Value
  startedAt : Moment
  completedAt : Moment
  error : Option String
  deriving Repr

/-- A queued message. -/
structure MessageRow extends Stamp where
  ownerId : String
  leadId : String
  address : String
  subject : String
  body : String
  dueAt : Moment
  status : String
  error : Option String
  deriving Repr

/-- An entry of the audit log. -/
structure AuditRow extends Stamp where
  actor : String
  action : String
  details : String
  deriving Repr

/-- The tables. -/
inductive TableName where
  | leads
  | workflows
  | templates
  | executions
  | messages
  | audits
  deriving DecidableEq, Repr

namespace TableName

/-- The rows of a table. -/
@[reducible] def Row : TableName → Type
  | leads => LeadRow
  | workflows => WorkflowRow
  | templates => TemplateRow
  | executions => ExecutionRow
  | messages => MessageRow
  | audits => AuditRow

/-- The stamp of a row. -/
def stamp : (t : TableName) → t.Row → Stamp
  | leads, r => r.toStamp
  | workflows, r => r.toStamp
  | templates, r => r.toStamp
  | executions, r => r.toStamp
  | messages, r => r.toStamp
  | audits, r => r.toStamp

/-- The id of a row. -/
def idOf (t : TableName) (r : t.Row) : String := (t.stamp r).id

/-- The name of a table. -/
def word : TableName → String
  | leads => "leads"
  | workflows => "workflows"
  | templates => "email_templates"
  | executions => "workflow_executions"
  | messages => "scheduled_messages"
  | audits => "audit_logs"

/-- All tables. -/
def all : List TableName := [leads, workflows, templates, executions, messages, audits]

/-- The table of a name. -/
def named? (s : String) : Option TableName := all.find? fun t => t.word == s

/-- What a row of the table is called in a refusal. -/
def rowWord : TableName → String
  | leads => "Lead"
  | workflows => "Workflow"
  | templates => "EmailTemplate"
  | executions => "WorkflowExecution"
  | messages => "ScheduledMessage"
  | audits => "AuditLog"

end TableName

end LeadFlow.Storage
