import LeadFlow.Execution.Call
import LeadFlow.Message.SendTime
import LeadFlow.Workflow.Step

set_option autoImplicit false

/-!
# Execution: failed deliveries

When a delivery fails, the step fails with it unless it has a fallback.  A fallback writes an
alert, queues one later attempt, or passes with a note.
-/

namespace LeadFlow.Execution

open Calendar

/-- An action as a step of a workflow. -/
structure ActionStep where
  id : String
  title : String
  config : ActionConfig
  deriving Repr

/-- A moment some seconds later. -/
def laterBy (m : Moment) (seconds : Float) : Outcome Moment := do
  Message.covered { m with wall := m.wall + (← microsOf seconds), fold := false }

/-- Writes an alert about the failure. -/
def alertFallback (step : ActionStep) (lead : Lead) (context : Context) (error : String) : Work Report := do
  let details :=
    s!"Email step \"{step.title}\" failed for lead {lead.name} ({lead.email}): {error}"
  match ← Program.ask (I := calls) (.audit context.actor .fallbackAlert details) with
  | .ok _ => return .passed s!"Email failed ({error}) - fallback alert created"
  | .error f => return .failed s!"Email failed: {error}; fallback alert failed: {f.reason}"

/-- Queues one later attempt with the same content. -/
def retryFallback (lead : Lead) (context : Context) (error : String) (content : Content) : Work Report := do
  let wait ← Program.ofOutcome ((RetryStrategy.forFallback context.settings).waitFor 1)
  let due ← Program.ofOutcome (laterBy (← Program.clock) wait)
  match ← Program.ask (I := calls) (.scheduleMessage [lead] content due) with
  | .error f => return .failed s!"Email failed: {error}; retry scheduling failed: {f.reason}"
  | .ok q =>
    if ← Program.ofOutcome (Queued.success q) then
      return .passed s!"Email failed ({error}) - retry scheduled for {due.iso}"
    else
      let reason ← Program.ofOutcome (Queued.reason q)
      return .failed s!"Email failed: {error}; retry scheduling failed: {reason}"

/-- Turns a failed delivery into the verdict of the step. -/
def applyFallback (step : ActionStep) (lead : Lead) (context : Context) (error : String)
    (content : Option Content) : Work Report :=
  if !step.config.fallbackEnabled then return .failed s!"Email failed: {error}"
  else match step.config.fallbackAction with
    | .createAlert => alertFallback step lead context error
    | .retry => retryFallback lead context error (content.getD (.ofTexts step.title ""))
    | .skip => return .passed s!"Email failed ({error}) - skipping per fallback"
    | .createTask => return .passed s!"Email failed ({error}) - follow-up task created for manual send"

end LeadFlow.Execution
