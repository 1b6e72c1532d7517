import LeadFlow.Execution.Fallback
import LeadFlow.Message.Personal

set_option autoImplicit false

/-!
# Execution: email steps

An email step needs an address.  Its content comes from a stored template or from the step itself,
with all tags filled; a writer may replace it, and is passed over silently if it fails or has
nothing to say.  The content is then delivered at once or queued for the time of the step, and a
failed delivery goes to the fallback.
-/

namespace LeadFlow.Execution

open Calendar

/-- The template id that stands for content given in the step. -/
def customTemplate : String := "__custom__"

/-- The text that is set and not empty, or the other. -/
def textOr (s : Option String) (other : String) : String :=
  match s with
  | some "" | none => other
  | some t => t

/-- The template a step names, or the default one. -/
def templateOf (step : ActionStep) (context : Context) : String :=
  textOr step.config.template context.settings.templateId

/-- Content with all tags filled. -/
def filled (lead : Lead) (context : Context) (draft : Content) : Outcome Content := do
  return .ofTexts (← Message.fillText lead context.sender draft.subject)
    (← Message.fillText lead context.sender draft.body)

/-- The content of a step, or the report of why there is none. -/
def compose (step : ActionStep) (lead : Lead) (context : Context) : Work (Except Report Content) := do
  let template := templateOf step context
  if template = customTemplate then
    let subject := step.config.customSubject.getD ""
    let body := step.config.customBody.getD ""
    if subject = "" && body = "" then return .error (.failed "Custom email has no subject or body")
    else return .ok (← Program.ofOutcome (filled lead context (.ofTexts subject body)))
  else
    match ← (fromStorage context (.getTemplate template)).attempt with
    | .error f => return .error (.failed s!"Template lookup failed: {f.reason}")
    | .ok found =>
      match (found : Option Template) with
      | none => return .error (.failed s!"Email template \"{template}\" not found")
      | some t => return .ok (← Program.ofOutcome (filled lead context ⟨t.subject, t.body⟩))

/-- The draft with the parts that the writer did not leave empty; nothing if it left both. -/
def reworded? (draft generated : Content) : Option Content :=
  let orElse (v other : Value) : Value := if v.isTruthy then v else other
  if !generated.subject.isTruthy && !generated.body.isTruthy then none
  else some ⟨orElse generated.subject draft.subject, orElse generated.body draft.body⟩

/-- A reworded draft, if the writer has one. -/
def personalize (step : ActionStep) (lead : Lead) (context : Context) (draft : Content) :
    Work (Option Content) :=
  if !context.hasWriter then return none
  else do
    match ← Program.ask (I := calls) (.generate lead ⟨step.title, draft, context.sender⟩) with
    | .error _ => return none
    | .ok generated => return reworded? draft generated

/-- A message on its way: what is sent and how the report speaks of it. -/
structure Outgoing where
  content : Content
  template : String
  /-- a note at the end of the report -/
  suffix : String
  deriving Repr

/-- Delivers at once. -/
def sendNow (step : ActionStep) (lead : Lead) (context : Context) (m : Outgoing) : Work Report := do
  match ← Program.ask (I := calls) (.sendMessage lead.email m.content ⟨true, true⟩ lead.id) with
  | .error f => applyFallback step lead context f.reason (some m.content)
  | .ok d =>
    let d : Delivery := d
    if d.success then
      return .passed s!"Email sent to {lead.email} (template: {m.template}){m.suffix}"
    else applyFallback step lead context (reasonOr d.error) (some m.content)

/-- Queues for the time of the step. -/
def sendLater (step : ActionStep) (lead : Lead) (context : Context) (m : Outgoing) : Work Report := do
  let timing := step.config.timing
  let zone ← Program.ofOutcome (Message.zoneNamed context.settings.schedulingZone)
  let due ← Program.ofOutcome (Message.sendTime timing (← Program.clock) zone)
  match ← Program.ask (I := calls) (.scheduleMessage [lead] m.content due) with
  | .error f => applyFallback step lead context f.reason (some m.content)
  | .ok q =>
    if ← Program.ofOutcome (Queued.success q) then
      return .passed
        s!"Email scheduled for {due.iso} (timing: {timing.word}, template: {m.template}){m.suffix}"
    else
      applyFallback step lead context (← Program.ofOutcome (Queued.reason q)) (some m.content)

/-- Delivers or queues, as the step says. -/
def dispatch (step : ActionStep) (lead : Lead) (context : Context) (m : Outgoing) : Work Report :=
  if step.config.timing = .immediate then sendNow step lead context m
  else sendLater step lead context m

/-- The content to send from a draft: reworded if the step asks for it and the writer delivers. -/
def finalContent (step : ActionStep) (lead : Lead) (context : Context) (draft : Content) :
    Work Outgoing := do
  let template := templateOf step context
  if step.config.aiPersonalization then
    match ← personalize step lead context draft with
    | some content => return ⟨content, template, " (AI-enhanced)"⟩
    | none => return ⟨draft, template, ""⟩
  else return ⟨draft, template, ""⟩

/-- Executes an email step. -/
def sendEmail (step : ActionStep) (lead : Lead) (context : Context) : Work Report := do
  if lead.email = "" then return .failed "No email address for this lead"
  match ← compose step lead context with
  | .error report => return report
  | .ok draft => dispatch step lead context (← finalContent step lead context draft)

end LeadFlow.Execution
