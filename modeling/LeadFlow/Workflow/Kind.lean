import LeadFlow.Decode.Basic

set_option autoImplicit false

/-!
# Workflow: closed vocabularies

The words that workflows, steps and runs are described with.  Each is a type with a list of its
members and their spellings, in the order in which they are declared.
-/

namespace LeadFlow

/-- A closed vocabulary: its name, its members in order with their spellings, and the spelling of
a member. -/
class Vocabulary (α : Type) where
  name : String
  members : List (String × α)
  word : α → String

namespace Vocabulary

variable {α : Type} [Vocabulary α]

/-- The member with a spelling. -/
def find? (s : String) : Option α := List.lookup s members

/-- The member that a value spells, or the fault of a value outside the vocabulary. -/
def ofValue (v : Value) : Outcome α :=
  match v.text?.bind find? with
  | some a => .ok a
  | none => .error (.notAMember v.inspect (name α))

/-- Decodes a member. -/
def decode : Decode.Decoder α := Decode.choice members

/-- The spellings in order. -/
def words (α : Type) [Vocabulary α] : List String := (members (α := α)).map (·.1)

end Vocabulary

/-- What a step does. -/
inductive StepKind where
  | trigger
  | action
  | condition
  | wait
  deriving DecidableEq, Repr, Inhabited

/-- The members in order. -/
def StepKind.members : List (String × StepKind) :=
  [("trigger", .trigger), ("action", .action), ("condition", .condition), ("wait", .wait)]

/-- The spelling. -/
def StepKind.word : StepKind → String
  | trigger => "trigger"
  | action => "action"
  | condition => "condition"
  | wait => "wait"

instance : Vocabulary StepKind := ⟨"StepKind", StepKind.members, StepKind.word⟩

/-- How a step ended for a lead. -/
inductive Verdict where
  | pass
  | fail
  | skip
  deriving DecidableEq, Repr, Inhabited

/-- The members in order. -/
def Verdict.members : List (String × Verdict) := [("pass", .pass), ("fail", .fail), ("skip", .skip)]

/-- The spelling. -/
def Verdict.word : Verdict → String
  | pass => "pass"
  | fail => "fail"
  | skip => "skip"

instance : Vocabulary Verdict := ⟨"StepVerdict", Verdict.members, Verdict.word⟩

/-- How a run ended for a lead. -/
inductive RunStatus where
  | success
  | failed
  | skipped
  deriving DecidableEq, Repr, Inhabited

/-- The members in order. -/
def RunStatus.members : List (String × RunStatus) :=
  [("success", .success), ("failed", .failed), ("skipped", .skipped)]

/-- The spelling. -/
def RunStatus.word : RunStatus → String
  | success => "success"
  | failed => "failed"
  | skipped => "skipped"

instance : Vocabulary RunStatus := ⟨"RunStatus", RunStatus.members, RunStatus.word⟩

/-- Where a workflow stands in its life. -/
inductive WorkflowStatus where
  | draft
  | active
  | paused
  deriving DecidableEq, Repr, Inhabited

/-- The members in order. -/
def WorkflowStatus.members : List (String × WorkflowStatus) :=
  [("draft", .draft), ("active", .active), ("paused", .paused)]

/-- The spelling. -/
def WorkflowStatus.word : WorkflowStatus → String
  | draft => "draft"
  | active => "active"
  | paused => "paused"

instance : Vocabulary WorkflowStatus := ⟨"WorkflowStatus", WorkflowStatus.members, WorkflowStatus.word⟩

/-- The trigger types that analytics know. -/
inductive TriggerType where
  | leadCreated
  | scoreChange
  | statusChange
  | timeElapsed
  | tagAdded
  deriving DecidableEq, Repr, Inhabited

/-- The members in order. -/
def TriggerType.members : List (String × TriggerType) :=
  [("lead_created", .leadCreated), ("score_change", .scoreChange), ("status_change", .statusChange),
    ("time_elapsed", .timeElapsed), ("tag_added", .tagAdded)]

/-- The spelling. -/
def TriggerType.word : TriggerType → String
  | leadCreated => "lead_created"
  | scoreChange => "score_change"
  | statusChange => "status_change"
  | timeElapsed => "time_elapsed"
  | tagAdded => "tag_added"

instance : Vocabulary TriggerType := ⟨"TriggerType", TriggerType.members, TriggerType.word⟩

/-- The actions with a handler of their own. -/
inductive ActionType where
  | sendEmail
  | updateStatus
  | addTag
  | assignUser
  | createAlert
  | generic
  deriving DecidableEq, Repr, Inhabited

/-- The members in order. -/
def ActionType.members : List (String × ActionType) :=
  [("send_email", .sendEmail), ("update_status", .updateStatus), ("add_tag", .addTag),
    ("assign_user", .assignUser), ("create_alert", .createAlert), ("generic", .generic)]

/-- The spelling. -/
def ActionType.word : ActionType → String
  | sendEmail => "send_email"
  | updateStatus => "update_status"
  | addTag => "add_tag"
  | assignUser => "assign_user"
  | createAlert => "create_alert"
  | generic => "generic"

instance : Vocabulary ActionType := ⟨"ActionType", ActionType.members, ActionType.word⟩

/-- How a condition compares. -/
inductive Operator where
  | gt
  | lt
  | eq
  deriving DecidableEq, Repr, Inhabited

/-- The members in order. -/
def Operator.members : List (String × Operator) := [("gt", .gt), ("lt", .lt), ("eq", .eq)]

/-- The spelling. -/
def Operator.word : Operator → String
  | gt => "gt"
  | lt => "lt"
  | eq => "eq"

instance : Vocabulary Operator := ⟨"ConditionOperator", Operator.members, Operator.word⟩

/-- When a message is to go out. -/
inductive Timing where
  | immediate
  | optimal
  | morning
  | afternoon
  deriving DecidableEq, Repr, Inhabited

/-- The members in order. -/
def Timing.members : List (String × Timing) :=
  [("immediate", .immediate), ("optimal", .optimal), ("morning", .morning), ("afternoon", .afternoon)]

/-- The spelling. -/
def Timing.word : Timing → String
  | immediate => "immediate"
  | optimal => "optimal"
  | morning => "morning"
  | afternoon => "afternoon"

instance : Vocabulary Timing := ⟨"SendTiming", Timing.members, Timing.word⟩

/-- What to do when a delivery fails. -/
inductive FallbackAction where
  | createTask
  | createAlert
  | retry
  | skip
  deriving DecidableEq, Repr, Inhabited

/-- The members in order. -/
def FallbackAction.members : List (String × FallbackAction) :=
  [("create_task", .createTask), ("create_alert", .createAlert), ("retry", .retry), ("skip", .skip)]

/-- The spelling. -/
def FallbackAction.word : FallbackAction → String
  | createTask => "create_task"
  | createAlert => "create_alert"
  | retry => "retry"
  | skip => "skip"

instance : Vocabulary FallbackAction := ⟨"FallbackAction", FallbackAction.members, FallbackAction.word⟩

/-- What an entry of the audit log records. -/
inductive AuditAction where
  | executed
  | alert
  | fallbackAlert
  deriving DecidableEq, Repr, Inhabited

/-- The members in order. -/
def AuditAction.members : List (String × AuditAction) :=
  [("AUTOMATION_EXECUTED", .executed), ("AUTOMATION_ALERT", .alert),
    ("AUTOMATION_FALLBACK_ALERT", .fallbackAlert)]

/-- The spelling. -/
def AuditAction.word : AuditAction → String
  | executed => "AUTOMATION_EXECUTED"
  | alert => "AUTOMATION_ALERT"
  | fallbackAlert => "AUTOMATION_FALLBACK_ALERT"

instance : Vocabulary AuditAction := ⟨"AuditAction", AuditAction.members, AuditAction.word⟩

/-- Where a scheduled message stands. -/
inductive MessageStatus where
  | pending
  | sent
  | failed
  | cancelled
  deriving DecidableEq, Repr, Inhabited

/-- The members in order. -/
def MessageStatus.members : List (String × MessageStatus) :=
  [("pending", .pending), ("sent", .sent), ("failed", .failed), ("cancelled", .cancelled)]

/-- The spelling. -/
def MessageStatus.word : MessageStatus → String
  | pending => "pending"
  | sent => "sent"
  | failed => "failed"
  | cancelled => "cancelled"

instance : Vocabulary MessageStatus := ⟨"ScheduledMessageStatus", MessageStatus.members, MessageStatus.word⟩

namespace Vocabulary

/-- All vocabularies, by name; the one without a member of its own is what they have in common. -/
def all : List (String × List String) :=
  [(name StepKind, words StepKind), (name Verdict, words Verdict), (name RunStatus, words RunStatus),
    (name WorkflowStatus, words WorkflowStatus), (name TriggerType, words TriggerType),
    (name ActionType, words ActionType), (name Operator, words Operator), (name Timing, words Timing),
    (name FallbackAction, words FallbackAction), (name AuditAction, words AuditAction),
    (name MessageStatus, words MessageStatus), ("Enum", [])]

/-- Names that stand for a text instead of a vocabulary. -/
def texts : List String := ["ACTOR_ID_HEADER", "REQUEST_ID_HEADER", "CUSTOM_TEMPLATE_ID"]

/-- The spellings of the vocabulary that a value names. -/
def wordsOf (v : Value) : Outcome (List String) :=
  match v with
  | .str s =>
    match all.lookup s with
    | some ws => .ok ws
    | none =>
      .error (if texts.contains s then .lacks "str" "value"
        else .of .attributes s!"module 'core.constants' has no attribute '{s}'")
  | v => .error (.nameless v.kindName)

end Vocabulary

end LeadFlow
