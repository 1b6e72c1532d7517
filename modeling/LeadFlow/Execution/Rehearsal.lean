import LeadFlow.Execution.Call
import LeadFlow.Workflow.Accumulate

set_option autoImplicit false

/-!
# Execution: rehearsals

An outside that answers from prepared lists, one entry per call.  When a list is used up, calls get
their usual answer at once.
-/

namespace LeadFlow.Execution

/-- A prepared answer: a wait, then an answer or a fault, or the usual answer. -/
structure Prepared (α : Type) where
  delay : Float
  outcome : Option (Outcome α)

/-- Prepared answers for every call, the templates there are, and the stored statistics. -/
structure Rehearsal where
  updates : List (Prepared Receipt)
  deliveries : List (Prepared Delivery)
  queues : List (Prepared Queued)
  lookups : List (Prepared (Option Template))
  wordings : List (Prepared Content)
  audits : List (Prepared Unit)
  saves : List (Prepared Unit)
  folds : List (Prepared Stats)
  templates : List (String × Template)
  stats : Stats

namespace Rehearsal

/-- The next prepared answer, and the later ones. -/
def next {α : Type} : List (Prepared α) → Prepared α × List (Prepared α)
  | [] => (⟨0, none⟩, [])
  | p :: ps => (p, ps)

/-- The answer of an entry, or the usual one. -/
def answer {τ α : Type} [Timeline τ] (p : Prepared α) (usual : Outcome α) (world : Rehearsal) :
    Answer τ Rehearsal α :=
  ⟨Timeline.ofSeconds p.delay, p.outcome.getD usual, world⟩

/-- Folding runs into the stored statistics. -/
def folded (r : Rehearsal) (runs : List Run) (hours : Float) : Outcome Stats :=
  r.stats.accumulate (runs.map (·.status)) (Stats.saving (.float hours))

/-- The prepared outside. -/
def outside {τ : Type} [Timeline τ] : Outside calls τ Rehearsal := fun _ c r =>
  match c with
  | .updateRecord .. =>
    let (p, rest) := next r.updates
    answer p (.ok ⟨true, .null⟩) { r with updates := rest }
  | .sendMessage .. =>
    let (p, rest) := next r.deliveries
    answer p (.ok ⟨true, .str "msg-1", .null⟩) { r with deliveries := rest }
  | .scheduleMessage leads .. =>
    let (p, rest) := next r.queues
    answer p (.ok ⟨.ofNat leads.length, .list []⟩) { r with queues := rest }
  | .getTemplate id =>
    let (p, rest) := next r.lookups
    answer p (.ok (r.templates.lookup id)) { r with lookups := rest }
  | .generate .. =>
    let (p, rest) := next r.wordings
    answer p (.ok (.ofTexts "AI subject" "AI body")) { r with wordings := rest }
  | .audit .. =>
    let (p, rest) := next r.audits
    answer p (.ok ()) { r with audits := rest }
  | .saveRun .. =>
    let (p, rest) := next r.saves
    answer p (.ok ()) { r with saves := rest }
  | .updateStats _ runs hours =>
    let (p, rest) := next r.folds
    let usual := r.folded runs hours
    let a : Answer τ Rehearsal Stats := answer p usual { r with folds := rest }
    match a.outcome with
    | .ok stats => { a with world := { a.world with stats := stats } }
    | .error _ => a

end Rehearsal

end LeadFlow.Execution
