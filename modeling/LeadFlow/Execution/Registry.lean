import LeadFlow.Execution.Actions
import LeadFlow.Workflow.Condition

set_option autoImplicit false

/-!
# Execution: handlers

Which handler an action type has, and which task a kind of step.  Handlers may be registered or
replaced; an action type without one falls back on the handler that was the generic one when the
registry was made.
-/

namespace LeadFlow.Execution

/-- A handler of actions. -/
structure Handler where
  type : String
  title : String
  run : ActionStep → Lead → Context → Work Report

namespace Handler

def sendEmail : Handler := ⟨"send_email", "Send Email", Execution.sendEmail⟩

def updateStatus : Handler := ⟨"update_status", "Update Status", Execution.updateStatus⟩

def addTag : Handler := ⟨"add_tag", "Add Tag", Execution.addTag⟩

def assignUser : Handler := ⟨"assign_user", "Assign User", Execution.assignUser⟩

def createAlert : Handler := ⟨"create_alert", "Create Alert", Execution.createAlert⟩

def generic : Handler := ⟨"generic", "Generic Action", Execution.genericAction⟩

/-- The handlers a registry starts with. -/
def builtIn : List Handler := [sendEmail, updateStatus, addTag, assignUser, createAlert, generic]

end Handler

/-- Handlers by action type, in the order of their first registration. -/
structure Registry where
  handlers : List (String × Handler)
  fallback : Handler

namespace Registry

/-- The registry of built-in handlers. -/
def builtIn : Registry := ⟨Handler.builtIn.map fun h => (h.type, h), .generic⟩

/-- Puts a handler under a type: in place if the type is known, at the end otherwise. -/
def put (type : String) (h : Handler) : List (String × Handler) → List (String × Handler)
  | [] => [(type, h)]
  | (t, g) :: rest => if t = type then (t, h) :: rest else (t, g) :: put type h rest

/-- Registers or replaces the handler of a type. -/
def register (r : Registry) (type : String) (h : Handler) : Registry :=
  { r with handlers := put type h r.handlers }

/-- The handler of a type. -/
def resolve (r : Registry) (type : String) : Handler := (r.handlers.lookup type).getD r.fallback

/-- The handler for a type that may be missing or empty. -/
def handler (r : Registry) (type : Option String) : Handler :=
  match type with
  | some "" | none => r.fallback
  | some t => r.resolve t

/-- The handler for a value that should be a type. -/
def handlerFor (r : Registry) (type : Value) : Outcome Handler :=
  match type with
  | .list (_ :: _) | .object (_ :: _) => .error (.of .type s!"unhashable type: '{type.kindName}'")
  | v => .ok (r.handler v.text?)

/-- The handler that an action step goes to. -/
def handlerOf (r : Registry) (c : ActionConfig) : Handler :=
  r.resolve (if c.actionType = "" then ActionType.generic.word else c.actionType)

/-- The types with a handler. -/
def types (r : Registry) : List String := r.handlers.map (·.1)

end Registry

/-! ## Tasks -/

/-- The task of a step for a lead. -/
abbrev Task := Step → Lead → Context → Work Report

/-- A trigger passes, but a trigger on the score is checked again. -/
def runTrigger (c : TriggerConfig) (lead : Lead) : Report :=
  match (Vocabulary.find? c.triggerType : Option TriggerType) with
  | some .leadCreated => .passed s!"Trigger matched - lead \"{lead.name}\" exists in pipeline"
  | some .scoreChange =>
    let threshold := c.threshold.copy
    let score := lead.score.copy
    if c.threshold.le lead.score then .passed s!"Lead score {score} meets threshold {threshold}"
    else .skipped s!"Lead score {score} below threshold {threshold}"
  | some .statusChange => .passed s!"Trigger matched - lead status is \"{lead.status}\""
  | some .timeElapsed => .passed "Scheduled trigger - proceeding"
  | some .tagAdded => .passed "Custom trigger - proceeding"
  | none => .passed s!"Trigger \"{c.triggerType}\" matched"

/-- A condition passes or leaves the rest out. -/
def runCondition (c : ConditionConfig) (lead : Lead) : Outcome Report := do
  let actual := lead.fieldValue c.field
  let summary := s!"{c.field} ({actual.copy}) {c.operator.word} {c.value.copy}"
  if ← Condition.holds c.operator actual c.value then return .passed s!"Condition met: {summary}"
  else return .skipped s!"Condition not met: {summary} - skipping downstream nodes"

/-- A pause is noted and does not hold up the run. -/
def runWait (c : WaitConfig) : Report :=
  .passed s!"Wait {c.days.copy} day(s) - noted for execution (continuing immediately in manual run)"

/-- The work of a step. -/
def Registry.work (r : Registry) : Task := fun step lead context =>
  match step.body with
  | .trigger c => return runTrigger c lead
  | .condition c => Program.ofOutcome (runCondition c lead)
  | .wait c => return runWait c
  | .action c => (r.handlerOf c).run ⟨step.id, step.title, c⟩ lead context

/-- Work whose fault is a failed step. -/
def guarded (w : Work Report) : Work Report := do
  match ← w.attempt with
  | .ok report => return report
  | .error f => return .failed f.summary

/-- The title of the task of a kind of step. -/
def taskTitle : StepKind → String
  | .trigger => "Trigger"
  | .condition => "Condition"
  | .wait => "Wait"
  | .action => "Action"

/-- The task of a step: its work, guarded. -/
def Registry.task (r : Registry) : Task := fun step lead context => guarded (r.work step lead context)

end LeadFlow.Execution
