import LeadFlow.Execution.Record

set_option autoImplicit false

/-!
# Execution: a batch of leads

A batch runs a workflow for one lead after the other.  When its time is used up, the lead at hand
and all later ones are cut off: they count as failed and are never stored.  Afterwards every
finished run is stored, the runs that could be stored are folded into the statistics, and a summary
goes to the audit log.  A fault in any of these ends nothing.
-/

namespace LeadFlow.Execution

/-- The error of a lead that was cut off. -/
def deadlineMessage : String := "Batch deadline exceeded"

namespace Engine

variable {τ σ : Type} [Timeline τ]

/-- Runs leads in order until the deadline: the finished runs, and the leads that were cut off. -/
def runLeads (e : Engine τ σ) (w : Workflow) (deadline : τ) :
    List Lead → Journey τ σ → (List Run × List Lead) × Journey τ σ
  | [], j => (([], []), j)
  | lead :: rest, j =>
    if Timeline.le (Timeline.sub deadline j.time) Timeline.zero then (([], lead :: rest), j)
    else
      match e.runLead w deadline lead j with
      | (none, j') => (([], lead :: rest), j')
      | (some run, j') =>
        let ((runs, cut), j'') := e.runLeads w deadline rest j'
        ((run :: runs, cut), j'')

/-- The run of a lead that was cut off. -/
def cutOff (e : Engine τ σ) (w : Workflow) (lead : Lead) (j : Journey τ σ) : Run × Journey τ σ :=
  let (now, j) := j.stamp
  e.issue w lead .failed [] now now (some deadlineMessage) j

/-- The runs of leads that were cut off. -/
def cutOffAll (e : Engine τ σ) (w : Workflow) : List Lead → Journey τ σ → List Run × Journey τ σ
  | [], j => ([], j)
  | lead :: rest, j =>
    let (run, j) := e.cutOff w lead j
    let (runs, j) := e.cutOffAll w rest j
    (run :: runs, j)

/-- One call outside of any step. -/
def callOnce (e : Engine τ σ) (c : Call) (j : Journey τ σ) : Outcome c.Reply × Journey τ σ :=
  (Program.perform (I := calls) c).complete e.outside j

/-- Stores runs in order; gives those that could be stored. -/
def storeRuns (e : Engine τ σ) (w : Workflow) : List Run → Journey τ σ → List Run × Journey τ σ
  | [], j => ([], j)
  | run :: rest, j =>
    let (saved, j) := e.callOnce (.saveRun w.id run.leadId run) j
    let (stored, j) := e.storeRuns w rest j
    match saved with
    | .ok _ => (run :: stored, j)
    | .error _ => (stored, j)

/-- Folds stored runs into the statistics; the workflow keeps its own if that fails. -/
def foldStats (e : Engine τ σ) (w : Workflow) (runs : List Run) (j : Journey τ σ) :
    Workflow × Journey τ σ :=
  if runs.isEmpty then (w, j)
  else
    match e.callOnce (.updateStats w.id runs e.context.settings.hoursPerRecord) j with
    | (.ok stats, j) => ({ w with stats := stats }, j)
    | (.error _, j) => (w, j)

section Books

variable (e : Engine τ σ) (w : Workflow) (j : Journey τ σ)

/-- Whatever is answered for a run, the next one is stored behind it. -/
theorem snd_storeRuns_cons (run : Run) (rest : List Run) :
    (e.storeRuns w (run :: rest) j).2 =
      (e.storeRuns w rest (e.callOnce (.saveRun w.id run.leadId run) j).2).2 := by
  rw [storeRuns]
  dsimp only
  split <;> rfl

/-- Runs are folded with one call. -/
theorem snd_foldStats {runs : List Run} (hruns : runs ≠ []) :
    (e.foldStats w runs j).2 =
      (e.callOnce (.updateStats w.id runs e.context.settings.hoursPerRecord) j).2 := by
  unfold foldStats
  rw [if_neg (by simpa using hruns)]
  split <;> rename_i heq <;> rw [heq]

/-- The workflow that goes on is the same but for its statistics. -/
theorem id_foldStats (runs : List Run) : (e.foldStats w runs j).1.id = w.id := by
  unfold foldStats
  split
  · rfl
  · split <;> rfl

end Books

/-- The summary of a batch. -/
def summaryText (w : Workflow) (runs : List Run) : String :=
  let succeeded := runs.countP (·.status == .success)
  s!"Workflow \"{w.name}\" executed on {runs.length} lead(s): {succeeded} succeeded, " ++
    s!"{runs.length - succeeded} failed"

/-- The results of a batch, and the workflow after it. -/
structure Batch where
  runs : List Run
  workflow : Workflow

/-- The first half of a batch: runs of all leads, and how many of them are finished. -/
def process (e : Engine τ σ) (w : Workflow) (leads : List Lead) (j : Journey τ σ) :
    (List Run × List Run) × Journey τ σ :=
  let deadline := Timeline.add j.time (Timeline.ofSeconds e.context.settings.batchTimeout)
  let ((finished, cut), j) := e.runLeads w deadline leads j
  let (cutRuns, j) := e.cutOffAll w cut j
  ((finished, cutRuns), j)

/-- Executes a workflow for leads. -/
def execute (e : Engine τ σ) (w : Workflow) (leads : List Lead) (j : Journey τ σ) :
    Batch × Journey τ σ :=
  if leads.isEmpty then (⟨[], w⟩, j)
  else
    let ((finished, cutRuns), j) := e.process w leads j
    let runs := finished ++ cutRuns
    let (stored, j) := e.storeRuns w finished j
    let (w', j) := e.foldStats w stored j
    let (_, j) := e.callOnce (.audit e.context.actor .executed (summaryText w runs)) j
    (⟨runs, w'⟩, j)

end Engine

end LeadFlow.Execution
