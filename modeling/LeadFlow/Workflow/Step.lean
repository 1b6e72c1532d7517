import LeadFlow.Text.Search
import LeadFlow.Workflow.Kind

set_option autoImplicit false

/-!
# Workflow: steps

A step has an id, a title, a description and a body of one of four kinds.  An action that names no
action type gets one guessed from the title.  Steps are decoded from the shape in which they are
stored and written back to it; the two directions list the same fields in the same order.
-/

namespace LeadFlow

/-- When a lead enters the workflow. -/
structure TriggerConfig where
  triggerType : String
  threshold : Num
  deriving Repr, DecidableEq

/-- A comparison of a field of the lead with a value. -/
structure ConditionConfig where
  field : String
  operator : Operator
  value : Value
  deriving Repr

/-- A pause. -/
structure WaitConfig where
  days : Num
  deriving Repr, DecidableEq

/-- An action and its settings; settings nobody declared are kept. -/
structure ActionConfig where
  actionType : String
  template : Option String
  customSubject : Option String
  customBody : Option String
  aiPersonalization : Bool
  timing : Timing
  fallbackEnabled : Bool
  fallbackAction : FallbackAction
  newStatus : Option String
  tag : Option String
  assignee : Option String
  extras : Fields
  deriving Repr

/-- The part of a step that depends on its kind. -/
inductive StepBody where
  | trigger (config : TriggerConfig)
  | condition (config : ConditionConfig)
  | wait (config : WaitConfig)
  | action (config : ActionConfig)
  deriving Repr

/-- A step of a workflow. -/
structure Step where
  id : String
  title : String
  description : String
  body : StepBody
  deriving Repr

/-- The kind of a body. -/
def StepBody.kind : StepBody → StepKind
  | trigger _ => .trigger
  | condition _ => .condition
  | wait _ => .wait
  | action _ => .action

/-- The kind of a step. -/
def Step.kind (s : Step) : StepKind := s.body.kind

/-- Guesses an action type from a title. -/
def ActionType.ofTitle (title : String) : ActionType :=
  let has (part : String) : Bool := Text.contains (Text.lower title) part
  if has "email" || has "send" then .sendEmail
  else if has "status" || has "update" then .updateStatus
  else if has "tag" then .addTag
  else if has "alert" || has "notify" then .createAlert
  else if has "assign" then .assignUser
  else .generic

/-- Guesses an action type from a title, which should be a text. -/
def ActionType.ofTitleValue (title : Value) : Outcome ActionType :=
  match title with
  | .str s => .ok (ofTitle s)
  | v => .error (.lacks v.kindName "lower")

/-! ## Decoding -/

namespace TriggerConfig

/-- A trigger nobody configured. -/
def default : TriggerConfig := ⟨"lead_created", .int 50⟩

/-- Decodes a trigger. -/
def decode (v : Value) : Decode.Checked TriggerConfig :=
  (Decode.record (.model "TriggerConfig") v).andThen fun fs =>
    mk <$> Decode.defaulted fs "triggerType" "trigger_type" default.triggerType Decode.text
      <*> Decode.defaulted fs "threshold" "threshold" default.threshold
        fun v => (Decode.number v).map .float

end TriggerConfig

namespace ConditionConfig

/-- A condition nobody configured. -/
def default : ConditionConfig := ⟨"score", .gt, .int 0⟩

/-- Decodes a condition. -/
def decode (v : Value) : Decode.Checked ConditionConfig :=
  (Decode.record (.model "ConditionConfig") v).andThen fun fs =>
    mk <$> Decode.defaulted fs "field" "field" default.field Decode.text
      <*> Decode.defaulted fs "operator" "operator" default.operator Vocabulary.decode
      <*> Decode.defaulted fs "value" "value" default.value Decode.any

end ConditionConfig

namespace WaitConfig

/-- A pause nobody configured. -/
def default : WaitConfig := ⟨.int 1⟩

/-- Decodes a pause. -/
def decode (v : Value) : Decode.Checked WaitConfig :=
  (Decode.record (.model "WaitConfig") v).andThen fun fs =>
    mk <$> Decode.defaulted fs "days" "days" default.days fun v => (Decode.number v).map .float

end WaitConfig

/-- An unknown fallback is the default one; a list or an object cannot even be looked up. -/
def FallbackAction.decode : Decode.Decoder FallbackAction
  | .list _ => .fault (.of .type "unhashable type: 'list'")
  | .object _ => .fault (.of .type "unhashable type: 'dict'")
  | v => .ok ((v.text?.bind Vocabulary.find?).getD .createTask)

/-- An empty timing is immediate. -/
def Timing.decode (v : Value) : Decode.Checked Timing :=
  if v.isTruthy then Vocabulary.decode v else .ok .immediate

namespace ActionConfig

/-- The names of the declared settings, each with its second spelling. -/
def names : List (String × String) :=
  [("actionType", "action_type"), ("template", "template"), ("customSubject", "custom_subject"),
    ("customBody", "custom_body"), ("aiPersonalization", "ai_personalization"),
    ("timing", "timing"), ("fallbackEnabled", "fallback_enabled"),
    ("fallbackAction", "fallback_action"), ("newStatus", "new_status"), ("tag", "tag"),
    ("assignee", "assignee")]

/-- The action type named, or the one guessed from the title. -/
def chosenType (title : String) (named : Option String) : String :=
  match named with
  | some "" | none => (ActionType.ofTitle title).word
  | some t => t

/-- Decodes an action of a step with this title. -/
def decode (title : String) (v : Value) : Decode.Checked ActionConfig :=
  (Decode.record (.model "ActionConfig") v).andThen fun fs =>
    mk <$> Decode.Checked.map (chosenType title)
        (Decode.defaulted fs "actionType" "action_type" none (Decode.optional Decode.text))
      <*> Decode.defaulted fs "template" "template" none (Decode.optional Decode.text)
      <*> Decode.defaulted fs "customSubject" "custom_subject" none (Decode.optional Decode.text)
      <*> Decode.defaulted fs "customBody" "custom_body" none (Decode.optional Decode.text)
      <*> Decode.defaulted fs "aiPersonalization" "ai_personalization" false Decode.truth
      <*> Decode.defaulted fs "timing" "timing" .immediate Timing.decode
      <*> Decode.defaulted fs "fallbackEnabled" "fallback_enabled" false Decode.truth
      <*> Decode.defaulted fs "fallbackAction" "fallback_action" .createTask FallbackAction.decode
      <*> Decode.defaulted fs "newStatus" "new_status" none (Decode.optional Decode.text)
      <*> Decode.defaulted fs "tag" "tag" none (Decode.optional Decode.text)
      <*> Decode.defaulted fs "assignee" "assignee" none (Decode.optional Decode.text)
      <*> pure (Decode.leftOver fs names)

end ActionConfig

namespace Step

/-- The kinds in the order in which a refusal lists them. -/
def kinds : List String := ["trigger", "condition", "wait", "action"]

/-- Decodes the fields common to all kinds around a body. -/
def ofFields (fs : Fields) (config : String → Decode.Decoder StepBody) : Decode.Checked Step :=
  let title := (fs.get? "title").bind Value.text? |>.getD ""
  mk <$> Decode.required fs "id" "id" Decode.text
    <*> Decode.defaulted fs "title" "title" "" Decode.text
    <*> Decode.defaulted fs "description" "description" "" Decode.text
    <*> match fs.get? "config" with
      | some v => (config title v).under (.key "config")
      | none => config title (.object [])

/-- Decodes a step; its kind decides how the body is read. -/
def decode (v : Value) : Decode.Checked Step :=
  (Decode.record .attributes v).andThen fun fs =>
    match fs.get? "type" with
    | none => Decode.refuse .noTag v
    | some (.str "trigger") =>
      (ofFields fs fun _ c => (TriggerConfig.decode c).map .trigger).under (.key "trigger")
    | some (.str "condition") =>
      (ofFields fs fun _ c => (ConditionConfig.decode c).map .condition).under (.key "condition")
    | some (.str "wait") =>
      (ofFields fs fun _ c => (WaitConfig.decode c).map .wait).under (.key "wait")
    | some (.str "action") =>
      (ofFields fs fun title c => (ActionConfig.decode title c).map .action).under (.key "action")
    | some tag => Decode.refuse (.unknownTag tag.display kinds) v

end Step

/-! ## Writing back -/

/-- How the names of settings are spelled. -/
inductive Spelling where
  /-- as stored -/
  | camel
  /-- underscored -/
  | snake
  deriving DecidableEq, Repr

/-- The name in a spelling. -/
def Spelling.pick (s : Spelling) (camel snake : String) : String :=
  match s with
  | .camel => camel
  | .snake => snake

/-- A number as it is stored: always a double. -/
def Num.stored : Num → Value
  | .int n => .float ((Decimal.ofInt? n).getD 0)
  | .float x => .float x

/-- A number in a spelling: stored steps hold doubles. -/
def Spelling.number (s : Spelling) (n : Num) : Value :=
  match s with
  | .camel => n.stored
  | .snake => n.toValue

/-- The settings of an action; undeclared ones come last and win. -/
def ActionConfig.toFields (s : Spelling) (c : ActionConfig) : Fields :=
  c.extras.foldl (fun fs (k, v) => fs.put k v)
    [(s.pick "actionType" "action_type", .str c.actionType),
      ("template", .ofText? c.template),
      (s.pick "customSubject" "custom_subject", .ofText? c.customSubject),
      (s.pick "customBody" "custom_body", .ofText? c.customBody),
      (s.pick "aiPersonalization" "ai_personalization", .bool c.aiPersonalization),
      ("timing", .str c.timing.word),
      (s.pick "fallbackEnabled" "fallback_enabled", .bool c.fallbackEnabled),
      (s.pick "fallbackAction" "fallback_action", .str c.fallbackAction.word),
      (s.pick "newStatus" "new_status", .ofText? c.newStatus),
      ("tag", .ofText? c.tag),
      ("assignee", .ofText? c.assignee)]

/-- The settings of a body. -/
def StepBody.toFields (s : Spelling) : StepBody → Fields
  | trigger c =>
    [(s.pick "triggerType" "trigger_type", .str c.triggerType), ("threshold", s.number c.threshold)]
  | condition c =>
    [("field", .str c.field), ("operator", .str c.operator.word), ("value", c.value)]
  | wait c => [("days", s.number c.days)]
  | action c => c.toFields s

/-- The step as fields. -/
def Step.toFields (s : Spelling) (step : Step) : Fields :=
  [("id", .str step.id), ("title", .str step.title), ("description", .str step.description),
    ("type", .str step.kind.word), ("config", .object (step.body.toFields s))]

end LeadFlow
