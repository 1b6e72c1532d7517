import LeadFlow.Decimal.Precise
import LeadFlow.Json.Printer
import LeadFlow.Storage.Session
import LeadFlow.Value.Arithmetic
import LeadFlow.Value.Display
import LeadFlow.Workflow.Kind
import LeadFlow.Workflow.Run

set_option autoImplicit false

/-!
# Storage: columns

Rows by the names of their columns: as fields, and made from fields.  Making a row fills in
defaults; null stands for the default too, except in free-form columns, which keep it.  A column
that has neither value nor default refuses the row, and so does a field that is no column.
-/

namespace LeadFlow.Storage

open Calendar

/-! ## Rows as fields -/

/-- The stamp as fields. -/
def Stamp.toFields (s : Stamp) : Fields :=
  [("id", .str s.id), ("created_at", .str s.createdAt.iso), ("updated_at", .str s.updatedAt.iso)]

/-- A moment or null. -/
def momentOrNull (m : Option Moment) : Value := .ofText? (m.map Moment.iso)

/-- The lead as fields. -/
def LeadRow.toFields (r : LeadRow) : Fields :=
  r.toStamp.toFields ++
    [("owner_id", .str r.ownerId), ("name", .str r.name), ("company", .str r.company),
      ("email", .str r.email), ("score", r.score.toValue), ("status", .str r.status),
      ("insights", .str r.insights), ("last_activity", .ofText? r.lastActivity),
      ("knowledge_base", r.knowledgeBase), ("deleted_at", momentOrNull r.deletedAt),
      ("is_deleted", .bool r.isDeleted)]

/-- The workflow as fields. -/
def WorkflowRow.toFields (r : WorkflowRow) : Fields :=
  r.toStamp.toFields ++
    [("owner_id", .str r.ownerId), ("team_id", .ofText? r.teamId), ("name", .str r.name),
      ("description", .str r.description), ("status", .str r.status), ("steps", r.steps),
      ("stats", r.stats), ("deleted_at", momentOrNull r.deletedAt), ("is_deleted", .bool r.isDeleted)]

/-- The template as fields. -/
def TemplateRow.toFields (r : TemplateRow) : Fields :=
  r.toStamp.toFields ++
    [("owner_id", .ofText? r.ownerId), ("name", .str r.name), ("category", .str r.category),
      ("subject_template", .str r.subject), ("body_template", .str r.body),
      ("is_default", .bool r.isDefault)]

/-- The execution as fields. -/
def ExecutionRow.toFields (r : ExecutionRow) : Fields :=
  r.toStamp.toFields ++
    [("workflow_id", .str r.workflowId), ("user_id", .str r.actor), ("lead_id", .str r.leadId),
      ("lead_name", .str r.leadName), ("workflow_name", .str r.workflowName),
      ("status", .str r.status), ("steps", r.steps), ("started_at", .str r.startedAt.iso),
      ("completed_at", .str r.completedAt.iso), ("error_message", .ofText? r.error)]

/-- The message as fields. -/
def MessageRow.toFields (r : MessageRow) : Fields :=
  r.toStamp.toFields ++
    [("owner_id", .str r.ownerId), ("lead_id", .str r.leadId), ("to_email", .str r.address),
      ("subject", .str r.subject), ("body", .str r.body), ("scheduled_at", .str r.dueAt.iso),
      ("status", .str r.status), ("error_message", .ofText? r.error)]

/-- The entry as fields. -/
def AuditRow.toFields (r : AuditRow) : Fields :=
  r.toStamp.toFields ++
    [("user_id", .str r.actor), ("action", .str r.action), ("details", .str r.details)]

/-- A row as fields. -/
def TableName.toFields : (t : TableName) → t.Row → Fields
  | .leads, r => LeadRow.toFields r
  | .workflows, r => WorkflowRow.toFields r
  | .templates, r => TemplateRow.toFields r
  | .executions, r => ExecutionRow.toFields r
  | .messages, r => MessageRow.toFields r
  | .audits, r => AuditRow.toFields r

/-- The columns of a table besides those of the stamp. -/
def TableName.ownColumns : TableName → List String
  | .leads => ["owner_id", "name", "company", "email", "score", "status", "insights", "last_activity",
      "knowledge_base", "deleted_at", "is_deleted"]
  | .workflows => ["owner_id", "team_id", "name", "description", "status", "steps", "stats",
      "deleted_at", "is_deleted"]
  | .templates => ["owner_id", "name", "category", "subject_template", "body_template", "is_default"]
  | .executions => ["workflow_id", "user_id", "lead_id", "lead_name", "workflow_name", "status",
      "steps", "started_at", "completed_at", "error_message"]
  | .messages => ["owner_id", "lead_id", "to_email", "subject", "body", "scheduled_at", "status",
      "error_message"]
  | .audits => ["user_id", "action", "details"]

/-- The columns of a table. -/
def TableName.columns (t : TableName) : List String := ["id", "created_at", "updated_at"] ++ t.ownColumns

/-! ## Columns from values -/

/-- The fault of a value that a column cannot hold. -/
def notStorable (v : Value) : Fault :=
  Database.engineFault .programming s!"type '{v.kindName}' is not supported"

/-- What a text column keeps of a double: fifteen significant digits at most, always with a point. -/
def columnTextOf (x : Float) : String :=
  let b := Decimal.Binary.ofFloat x
  let sign := if b.negative && x != 0 then "-" else ""
  match b.size with
  | .infinite => sign ++ "Inf"
  | size =>
    let cs := Decimal.Form.general.size false 15 size
    let front := cs.takeWhile (· != 'e')
    let point := if front.contains '.' then [] else ['.', '0']
    sign ++ String.ofList (front ++ point ++ cs.drop front.length)

/-- What a text column keeps of a value: numbers are kept as their text. -/
def textColumn : Value → Outcome String
  | .str s => .ok s
  | .bool b => .ok (if b then "1" else "0")
  | .int n =>
    if n < -0x8000000000000000 || 0x8000000000000000 ≤ n then
      .error (.of .overflow "Python int too large to convert to SQLite INTEGER")
    else .ok (toString n)
  | .float x => .ok (columnTextOf x)
  | v => .error (notStorable v)

/-- What a number column keeps of a value. -/
def numberColumn : Value → Outcome Num
  | .str s =>
    match Decimal.floatOfText? s with
    | some x => .ok (.float x)
    | none => .error (notStorable (.str s))
  | v =>
    match Num.ofValue? v with
    | some n => .ok n
    | none => .error (notStorable v)

/-- What a column of truth values keeps of a value. -/
def truthColumn : Value → Outcome Bool
  | .bool b => .ok b
  | .int 0 => .ok false
  | .int 1 => .ok true
  | v => .error (notStorable v)

/-- What a column of moments keeps of a value: the instant, in UTC. -/
def momentColumn : Value → Outcome Moment
  | .str s => do return (← Moment.ofText s).toUtc
  | v => .error (notStorable v)

/-- A number as it is stored. -/
def storedNumber (n : Num) : Outcome Num := do return .float (← n.toFloat)

/-- The value of a column; none if it is absent or null. -/
def given? (fs : Fields) (column : String) : Option Value :=
  match Fields.get? fs column with
  | some .null => none
  | v => v

/-- A column with a default. -/
def columnOr {α : Type} (fs : Fields) (column : String) (default : α) (read : Value → Outcome α) :
    Outcome α :=
  match given? fs column with
  | some v => read v
  | none => .ok default

/-- A column that may stay empty. -/
def columnOrNone {α : Type} (fs : Fields) (column : String) (read : Value → Outcome α) :
    Outcome (Option α) :=
  match given? fs column with
  | some v => do return some (← read v)
  | none => .ok none

/-- A column that has to be given. -/
def neededColumn {α : Type} (t : TableName) (fs : Fields) (column : String) (read : Value → Outcome α) :
    Outcome α :=
  match given? fs column with
  | some v => read v
  | none => .error (Database.engineFault .integrity s!"NOT NULL constraint failed: {t.word}.{column}")

/-- A free-form column; null is kept. -/
def freeColumn (fs : Fields) (column : String) (default : Value) : Value :=
  (Fields.get? fs column).getD default

/-! ## Rows from fields -/

/-- A lead from fields. -/
def LeadRow.ofFields (s : Stamp) (fs : Fields) : Outcome LeadRow := do
  return {
    toStamp := s
    ownerId := ← neededColumn .leads fs "owner_id" textColumn
    name := ← columnOr fs "name" "" textColumn
    company := ← columnOr fs "company" "" textColumn
    email := ← columnOr fs "email" "" textColumn
    score := ← storedNumber (← columnOr fs "score" (.int 0) numberColumn)
    status := ← columnOr fs "status" "New" textColumn
    insights := ← columnOr fs "insights" "" textColumn
    lastActivity := ← columnOrNone fs "last_activity" textColumn
    knowledgeBase := freeColumn fs "knowledge_base" (.object [])
    deletedAt := ← columnOrNone fs "deleted_at" momentColumn
    isDeleted := ← columnOr fs "is_deleted" false truthColumn }

/-- A workflow from fields. -/
def WorkflowRow.ofFields (s : Stamp) (fs : Fields) : Outcome WorkflowRow := do
  return {
    toStamp := s
    ownerId := ← neededColumn .workflows fs "owner_id" textColumn
    teamId := ← columnOrNone fs "team_id" textColumn
    name := ← neededColumn .workflows fs "name" textColumn
    description := ← columnOr fs "description" "" textColumn
    status := ← columnOr fs "status" WorkflowStatus.draft.word textColumn
    steps := freeColumn fs "steps" (.list [])
    stats := freeColumn fs "stats" (.object [])
    deletedAt := ← columnOrNone fs "deleted_at" momentColumn
    isDeleted := ← columnOr fs "is_deleted" false truthColumn }

/-- A template from fields. -/
def TemplateRow.ofFields (s : Stamp) (fs : Fields) : Outcome TemplateRow := do
  return {
    toStamp := s
    ownerId := ← columnOrNone fs "owner_id" textColumn
    name := ← neededColumn .templates fs "name" textColumn
    category := ← neededColumn .templates fs "category" textColumn
    subject := ← columnOr fs "subject_template" "" textColumn
    body := ← columnOr fs "body_template" "" textColumn
    isDefault := ← columnOr fs "is_default" false truthColumn }

/-- An execution from fields. -/
def ExecutionRow.ofFields (s : Stamp) (fs : Fields) : Outcome ExecutionRow := do
  return {
    toStamp := s
    workflowId := ← neededColumn .executions fs "workflow_id" textColumn
    actor := ← neededColumn .executions fs "user_id" textColumn
    leadId := ← neededColumn .executions fs "lead_id" textColumn
    leadName := ← columnOr fs "lead_name" "" textColumn
    workflowName := ← columnOr fs "workflow_name" "" textColumn
    status := ← columnOr fs "status" RunStatus.success.word textColumn
    steps := freeColumn fs "steps" (.list [])
    startedAt := ← neededColumn .executions fs "started_at" momentColumn
    completedAt := ← neededColumn .executions fs "completed_at" momentColumn
    error := ← columnOrNone fs "error_message" textColumn }

/-- A message from fields. -/
def MessageRow.ofFields (s : Stamp) (fs : Fields) : Outcome MessageRow := do
  return {
    toStamp := s
    ownerId := ← neededColumn .messages fs "owner_id" textColumn
    leadId := ← neededColumn .messages fs "lead_id" textColumn
    address := ← neededColumn .messages fs "to_email" textColumn
    subject := ← columnOr fs "subject" "" textColumn
    body := ← columnOr fs "body" "" textColumn
    dueAt := ← neededColumn .messages fs "scheduled_at" momentColumn
    status := ← columnOr fs "status" MessageStatus.pending.word textColumn
    error := ← columnOrNone fs "error_message" textColumn }

/-- An entry of the audit log from fields. -/
def AuditRow.ofFields (s : Stamp) (fs : Fields) : Outcome AuditRow := do
  return {
    toStamp := s
    actor := ← neededColumn .audits fs "user_id" textColumn
    action := ← columnOr fs "action" AuditAction.executed.word textColumn
    details := ← columnOr fs "details" "" textColumn }

/-- A stamp that the fields may change. -/
def Stamp.ofFields (s : Stamp) (fs : Fields) : Outcome Stamp := do
  return ⟨← columnOr fs "id" s.id textColumn, ← columnOr fs "created_at" s.createdAt momentColumn,
    ← columnOr fs "updated_at" s.updatedAt momentColumn⟩

/-- A row from a stamp and fields. -/
def TableName.rowOf : (t : TableName) → Stamp → Fields → Outcome t.Row
  | .leads => LeadRow.ofFields
  | .workflows => WorkflowRow.ofFields
  | .templates => TemplateRow.ofFields
  | .executions => ExecutionRow.ofFields
  | .messages => MessageRow.ofFields
  | .audits => AuditRow.ofFields

/-- Refuses a field that is no column. -/
def knownColumns (t : TableName) (fs : Fields) : Outcome Unit :=
  match fs.find? fun f => !t.columns.contains f.1 with
  | some (k, _) =>
    .error (.of .type s!"{Text.quoted k} is an invalid keyword argument for {t.rowWord}")
  | none => .ok ()

/-- Inserts a row made from fields. -/
def create (t : TableName) (fs : Fields) : Storage t.Row := do
  found (knownColumns t fs)
  usable
  let s ← newStamp (← found (columnOrNone fs "id" textColumn))
  let r ← written (do t.rowOf (← s.ofFields fs) fs)
  add t r
  return r

/-! ## Columns in queries -/

/-- The place of kinds of values in the order of a column: null, numbers, texts. -/
def columnRank : Value → Nat
  | .null => 0
  | .bool _ | .int _ | .float _ => 1
  | _ => 2

/-- The text that a value is ordered by in a column. -/
def columnText : Value → String
  | .str s => s
  | v => Json.print v

/-- Order of the values of a column. -/
def columnLe (a b : Value) : Bool :=
  if columnRank a = columnRank b then
    match Num.ofValue? a, Num.ofValue? b with
    | some x, some y => x.le y
    | _, _ => columnText a ≤ columnText b
  else columnRank a < columnRank b

/-- Greatest values of a column first. -/
def greatestBy (t : TableName) (column : String) (a b : t.Row) : Bool :=
  let value (r : t.Row) := (Fields.get? (t.toFields r) column).getD .null
  columnLe (value b) (value a)

/-- The value of a column equals a wanted one; null equals null only. -/
def columnIs (stored wanted : Value) : Bool :=
  match stored, wanted with
  | .null, .null => true
  | .null, _ | _, .null => false
  | .str s, w =>
    match textColumn w with
    | .ok w => s == w
    | .error _ => false
  | v, w => v.same w

/-- The value of a column equals a wanted one, or one of a list of them. -/
def columnMatches (stored : Value) : Value → Bool
  | .list ws => ws.any fun w => !w.isNull && columnIs stored w
  | w => columnIs stored w

/-- Every wanted field of a column matches; other fields ask for nothing. -/
def fieldsMatch (t : TableName) (wanted : Fields) (r : t.Row) : Bool :=
  wanted.all fun (column, w) =>
    match Fields.get? (t.toFields r) column with
    | some stored => columnMatches stored w
    | none => true

end LeadFlow.Storage
