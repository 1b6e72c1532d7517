import LeadFlow.Execution.Email

set_option autoImplicit false

/-!
# Execution: actions on the record

Actions that change the lead's record or write an alert.  A change goes to storage and is repeated
after passing faults; an alert is written once.  Tags are marks in the lead's notes.
-/

namespace LeadFlow.Execution

/-- Changes the record; a fault of storage is a change that did not succeed. -/
def updateLead (lead : Lead) (context : Context) (patch : Fields) : Work Receipt := do
  match ← (fromStorage context (.updateRecord lead.id patch)).attempt with
  | .ok r => return r
  | .error f => return ⟨false, .str f.reason⟩

/-- Sets the status. -/
def updateStatus (step : ActionStep) (lead : Lead) (context : Context) : Work Report := do
  let status := textOr step.config.newStatus context.settings.newStatus
  let r ← updateLead lead context [("status", .str status)]
  if r.success then return .passed s!"Lead status updated to \"{status}\""
  else return .failed s!"Status update failed: {reasonOr r.error}"

/-- The mark of a tag. -/
def tagMark (tag : String) : String := s!"[tag:{tag}]"

/-- The key of the notes in the knowledge base. -/
def notesKey : String := "extraNotes"

/-- The notes hold the mark: as a part of a text, an item of a list or a key of an object. -/
def isMarked (mark : String) : Value → Outcome Bool
  | .str notes => .ok (Text.contains notes mark)
  | .list items => .ok (items.any (Value.same (.str mark)))
  | .object fs => .ok (Fields.has fs mark)
  | v => .error (.of .type s!"argument of type '{v.kindName}' is not iterable")

/-- The notes in a knowledge base; empty ones of any kind are no text. -/
def notesOf (knowledge : Fields) : Value :=
  let notes := (Fields.get? knowledge notesKey).getD .null
  if notes.isTruthy then notes else .str ""

/-- Notes with a mark at their end. -/
def marked (notes : Value) (mark : String) : String :=
  if notes.isTruthy then s!"{notes.display} {mark}" else mark

/-- The knowledge base with a tag in its notes; it stays as it is if the tag is there already. -/
def withTag (knowledge : Fields) (tag : String) : Outcome Fields := do
  let notes := notesOf knowledge
  if ← isMarked (tagMark tag) notes then return knowledge
  else return Fields.put notesKey (.str (marked notes (tagMark tag))) knowledge

/-- Adds a tag. -/
def addTag (step : ActionStep) (lead : Lead) (context : Context) : Work Report := do
  let tag := textOr step.config.tag context.settings.tag
  let knowledge ← Program.ofOutcome (withTag lead.knowledgeBase tag)
  let r ← updateLead lead context [("knowledge_base", .object knowledge)]
  if r.success then return .passed s!"Tag \"{tag}\" added to lead"
  else return .failed s!"Tag add failed: {reasonOr r.error}"

/-- Assigns the lead to someone. -/
def assignUser (step : ActionStep) (lead : Lead) (context : Context) : Work Report := do
  let assignee := step.config.assignee.getD ""
  let knowledge := Fields.put "assignedTo" (.str assignee) lead.knowledgeBase
  let r ← updateLead lead context [("knowledge_base", .object knowledge)]
  if r.success then return .passed s!"Lead assigned to \"{assignee}\""
  else return .failed s!"Assignment failed: {reasonOr r.error}"

/-- Writes an alert. -/
def createAlert (step : ActionStep) (lead : Lead) (context : Context) : Work Report := do
  let details := s!"Alert from workflow node \"{step.title}\" for lead {lead.name} ({lead.company})"
  match ← Program.ask (I := calls) (.audit context.actor .alert details) with
  | .ok _ => return .passed s!"Alert created for \"{lead.name}\""
  | .error f => return .failed s!"Alert creation failed: {f.reason}"

/-- Passes, for actions nobody handles. -/
def genericAction (step : ActionStep) (_ : Lead) (_ : Context) : Work Report :=
  return .passed s!"Action \"{step.title}\" executed (type: {step.config.actionType})"

end LeadFlow.Execution
