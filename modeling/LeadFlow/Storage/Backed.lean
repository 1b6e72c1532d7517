import LeadFlow.Storage.Audits
import LeadFlow.Storage.Messages
import LeadFlow.Storage.Runs
import LeadFlow.Storage.Templates

set_option autoImplicit false

/-!
# Storage: executions backed by storage

An outside for executions that answers from a session what storage can answer, and leaves delivering
and rewording messages to others.  All answers of storage go through one session, so a write that
fails ends them all.
-/

namespace LeadFlow.Storage

open Execution

/-- The calls that storage answers, as work in a session. -/
def answerTo (owner : String) : (c : Call) → Option (Storage c.Reply)
  | .updateRecord id patch => some (patchLead owner id patch)
  | .scheduleMessage leads content due => some (queueMessages owner leads content due)
  | .getTemplate id => some (findTemplate owner id)
  | .audit actor action details => some (appendAudit actor (some action.word) (some details))
  | .saveRun workflowId leadId run => some (saveRun owner workflowId leadId run)
  | .updateStats workflowId runs hours =>
    some (foldRuns workflowId (runs.map (·.status)) (Stats.saving (.float hours)))
  | .sendMessage .. => none
  | .generate .. => none

/-- The outside of an execution on behalf of an owner: a session, and others for the rest. -/
def backed {τ σ : Type} [Timeline τ] (owner : String) (rowId : Nat → String) (others : Outside calls τ σ) :
    Outside calls τ (Session × σ) := fun now c (session, world) =>
  match answerTo owner c with
  | some work =>
    let (outcome, session) := work.runIn ⟨now, rowId⟩ session
    ⟨Timeline.zero, outcome, (session, world)⟩
  | none =>
    let a := others now c world
    ⟨a.delay, a.outcome, (session, a.world)⟩

end LeadFlow.Storage
