import LeadFlow.Execution.Record
import LeadFlow.Execution.Rehearsal

set_option autoImplicit false

/-!
# Execution: what the results of a run say

The state that goes from step to step is a summary of the results so far: it is latched if one of
them is a condition that is not met, failed if one of them failed, and its error is the message of
the last failure.  `RecordState.Sums` is that invariant; `Engine.Executes` says that steps were
executed one after the other.

Main statement: `runLead_recorded` reads the status, the error and the executed steps of a run off
its results alone.
-/

namespace LeadFlow

/-- What a result has in common with its step. -/
def StepResult.label (r : StepResult) : Value × Value × StepKind := (r.nodeId, r.title, r.kind)

/-- What a step has in common with its result. -/
def Step.label (s : Step) : Value × Value × StepKind := (.str s.id, .str s.title, s.kind)

/-- The step failed. -/
def StepResult.isFailure (r : StepResult) : Bool := r.verdict == .fail

/-- A condition that is not met. -/
def StepResult.isUnmet (r : StepResult) : Bool := r.kind == .condition && r.verdict == .skip

/-- How many results are of executed steps: all up to the first condition that is not met, and that
one. -/
def executedCount (results : List StepResult) : Nat := results.findIdx StepResult.isUnmet + 1

/-- The last failure among results. -/
def lastFailure? (results : List StepResult) : Option StepResult :=
  (results.filter StepResult.isFailure).getLast?

theorem lastFailure?_append_singleton (results : List StepResult) (r : StepResult) :
    lastFailure? (results ++ [r]) = if r.isFailure then some r else lastFailure? results := by
  unfold lastFailure?
  by_cases h : r.isFailure <;> simp [h]

end LeadFlow

namespace LeadFlow.Execution

/-! ## The state sums up the results -/

/-- The state of a run is what its results so far come to. -/
structure RecordState.Sums (s : RecordState) (results : List StepResult) : Prop where
  latched : s.latched = results.any StepResult.isUnmet
  failed : s.failed = results.any StepResult.isFailure
  error : s.error.map Value.str = (lastFailure? results).map (·.message)

namespace RecordState

theorem sums_fresh : fresh.Sums [] := ⟨rfl, rfl, rfl⟩

@[simp] theorem label_resultOf (step : Step) (r : Report) (ms : Int) :
    (resultOf step r ms).label = step.label := rfl

@[simp] theorem label_leftOut (step : Step) : (leftOut step).label = step.label := rfl

theorem isUnmet_resultOf (step : Step) (r : Report) (ms : Int) :
    (resultOf step r ms).isUnmet = (step.kind == .condition && r.verdict == .skip) := rfl

/-- A step that was executed adds its result. -/
theorem Sums.after {s : RecordState} {results : List StepResult} (h : s.Sums results) (step : Step)
    (r : Report) (ms : Int) : (s.after step.kind r).Sums (results ++ [resultOf step r ms]) := by
  obtain ⟨hlatched, hfailed, herror⟩ := h
  constructor
  · rw [List.any_append, ← hlatched]
    cases hv : r.verdict <;> by_cases hk : step.kind = .condition <;>
      simp [RecordState.after, isUnmet_resultOf, hv, hk]
  · rw [List.any_append, ← hfailed]
    cases hv : r.verdict <;> by_cases hk : step.kind = .condition <;>
      simp [RecordState.after, StepResult.isFailure, resultOf, hv, hk]
  · rw [lastFailure?_append_singleton]
    cases hv : r.verdict <;> by_cases hk : step.kind = .condition <;>
      simp [RecordState.after, StepResult.isFailure, resultOf, hv, hk, herror]

/-- A step left out behind a condition adds a result that changes nothing. -/
theorem Sums.leftOut {s : RecordState} {results : List StepResult} (h : s.Sums results)
    (hs : s.latched = true) (step : Step) : s.Sums (results ++ [leftOut step]) := by
  obtain ⟨hlatched, hfailed, herror⟩ := h
  constructor
  · rw [List.any_append, ← hlatched, hs]
    rfl
  · rw [List.any_append, ← hfailed]
    simp [StepResult.isFailure, Execution.leftOut, resultOf, Report.skipped]
  · rw [lastFailure?_append_singleton, herror]
    simp [StepResult.isFailure, Execution.leftOut, resultOf, Report.skipped]

end RecordState

namespace Engine

variable {τ σ : Type} [Timeline τ]

/-- An engine with the built-in handlers. -/
def builtIn (outside : Outside calls τ σ) (context : Context) (runId : Nat → String) : Engine τ σ :=
  ⟨outside, Registry.builtIn.task, context, runId⟩

/-! ## One step -/

/-- A step that was executed has a result made of its report, which says how its task ended. -/
theorem runStep_eq_some {e : Engine τ σ} {lead : Lead} {deadline : τ} {step : Step}
    {j j' : Journey τ σ} {result : StepResult} {r : Report}
    (h : e.runStep lead deadline step j = (some result, some r, j')) :
    ∃ ms, result = resultOf step r ms ∧ ∃ limit batchBound ending,
      (e.task step lead e.context).runWithin e.outside limit j = (ending, j') ∧
        e.reportOf batchBound ending = some r := by
  unfold runStep at h
  dsimp only at h
  split at h
  · simp at h
  · split at h
    · rename_i r' hr'
      obtain ⟨rfl, rfl, rfl⟩ := by simpa using h
      exact ⟨_, rfl, _, _, _, rfl, hr'⟩
    · simp at h

/-- Steps executed one after the other, each from where the one before has left the course. -/
inductive Executes (e : Engine τ σ) (lead : Lead) (deadline : τ) :
    List Step → List StepResult → Journey τ σ → Journey τ σ → Prop where
  | nil (j : Journey τ σ) : Executes e lead deadline [] [] j j
  | cons {step : Step} {steps : List Step} {result : StepResult} {results : List StepResult}
      {r : Report} {j j₁ j₂ : Journey τ σ} :
      e.runStep lead deadline step j = (some result, some r, j₁) →
      Executes e lead deadline steps results j₁ j₂ →
      Executes e lead deadline (step :: steps) (result :: results) j j₂

/-! ## All steps -/

/-- Behind a condition that is not met every step is left out, and nothing else happens. -/
theorem runSteps_of_latched (e : Engine τ σ) (lead : Lead) (deadline : τ) (steps : List Step)
    {s : RecordState} (hs : s.latched = true) (j : Journey τ σ) :
    e.runSteps lead deadline steps s j = (some (steps.map leftOut, s), j) := by
  induction steps with
  | nil => rfl
  | cons step rest ih => simp [runSteps, hs, ih]

/-- The first step is executed as long as no condition has left it out. -/
theorem runSteps_cons_eq_some {e : Engine τ σ} {lead : Lead} {deadline : τ} {step : Step}
    {rest : List Step} {s s' : RecordState} {results : List StepResult} {j j' : Journey τ σ}
    (hs : s.latched = false)
    (h : e.runSteps lead deadline (step :: rest) s j = (some (results, s'), j')) :
    ∃ result r j₁ later, results = result :: later ∧
      e.runStep lead deadline step j = (some result, some r, j₁) ∧
      e.runSteps lead deadline rest (s.after step.kind r) j₁ = (some (later, s'), j') := by
  rw [runSteps, if_neg (by simp [hs])] at h
  split at h
  · rename_i result r j₁ hstep
    split at h
    · rename_i later s'' j'' hrest
      obtain ⟨⟨rfl, rfl⟩, rfl⟩ := by simpa using h
      exact ⟨result, r, j₁, later, rfl, hstep, hrest⟩
    · simp at h
  · simp at h

/-- The state at the end sums up the results of all steps. -/
theorem runSteps_sums {e : Engine τ σ} {lead : Lead} {deadline : τ} {steps : List Step}
    {s s' : RecordState} {before results : List StepResult} {j j' : Journey τ σ}
    (hs : s.Sums before) (h : e.runSteps lead deadline steps s j = (some (results, s'), j')) :
    s'.Sums (before ++ results) := by
  induction steps generalizing s before results j with
  | nil =>
    obtain ⟨⟨rfl, rfl⟩, rfl⟩ := by simpa [runSteps] using h
    simpa using hs
  | cons step rest ih =>
    cases hlatched : s.latched with
    | true =>
      rw [runSteps_of_latched e lead deadline _ hlatched] at h
      obtain ⟨⟨rfl, rfl⟩, rfl⟩ := by simpa using h
      have hrest := ih (hs.leftOut hlatched step) (runSteps_of_latched e lead deadline rest hlatched j)
      simpa using hrest
    | false =>
      obtain ⟨result, r, j₁, later, rfl, hstep, hrest⟩ := runSteps_cons_eq_some hlatched h
      obtain ⟨ms, rfl, -⟩ := runStep_eq_some hstep
      simpa using ih (hs.after step r ms) hrest

theorem runSteps_labels {e : Engine τ σ} {lead : Lead} {deadline : τ} {steps : List Step}
    {s s' : RecordState} {results : List StepResult} {j j' : Journey τ σ}
    (h : e.runSteps lead deadline steps s j = (some (results, s'), j')) :
    results.map StepResult.label = steps.map Step.label := by
  induction steps generalizing s results j with
  | nil =>
    obtain ⟨⟨rfl, -⟩, -⟩ := by simpa [runSteps] using h
    rfl
  | cons step rest ih =>
    cases hlatched : s.latched with
    | true =>
      rw [runSteps_of_latched e lead deadline _ hlatched] at h
      obtain ⟨⟨rfl, -⟩, -⟩ := by simpa using h
      simp [Function.comp_def]
    | false =>
      obtain ⟨result, r, j₁, later, rfl, hstep, hrest⟩ := runSteps_cons_eq_some hlatched h
      obtain ⟨ms, rfl, -⟩ := runStep_eq_some hstep
      simp [ih hrest]

/-- The steps up to the first condition that is not met are executed, and the others are left out
with nothing more happening. -/
theorem runSteps_executes {e : Engine τ σ} {lead : Lead} {deadline : τ} {steps : List Step}
    {s s' : RecordState} {results : List StepResult} {j j' : Journey τ σ} (hs : s.latched = false)
    (h : e.runSteps lead deadline steps s j = (some (results, s'), j')) :
    e.Executes lead deadline (steps.take (executedCount results))
        (results.take (executedCount results)) j j' ∧
      results.drop (executedCount results) = (steps.drop (executedCount results)).map leftOut := by
  induction steps generalizing s results j with
  | nil =>
    obtain ⟨⟨rfl, -⟩, rfl⟩ := by simpa [runSteps] using h
    exact ⟨by simpa using Executes.nil j, by simp⟩
  | cons step rest ih =>
    obtain ⟨result, r, j₁, later, rfl, hstep, hrest⟩ := runSteps_cons_eq_some hs h
    obtain ⟨ms, rfl, -⟩ := runStep_eq_some hstep
    -- the first condition that is not met ends the executed part, as the state is latched from there
    cases hunmet : (resultOf step r ms).isUnmet with
    | true =>
      have hlatched : (s.after step.kind r).latched = true := by
        rw [RecordState.isUnmet_resultOf] at hunmet
        simp_all [RecordState.after]
      rw [runSteps_of_latched e lead deadline rest hlatched] at hrest
      obtain ⟨⟨rfl, rfl⟩, rfl⟩ := by simpa using hrest
      have hcount : executedCount (resultOf step r ms :: rest.map leftOut) = 1 := by
        simp [executedCount, List.findIdx_cons, hunmet]
      rw [hcount]
      exact ⟨.cons hstep (.nil _), by simp⟩
    | false =>
      have hlatched : (s.after step.kind r).latched = false := by
        rw [RecordState.isUnmet_resultOf] at hunmet
        cases hv : r.verdict <;> simp_all [RecordState.after]
      have hcount : executedCount (resultOf step r ms :: later) = executedCount later + 1 := by
        simp [executedCount, List.findIdx_cons, hunmet]
      obtain ⟨hexec, hleft⟩ := ih hlatched hrest
      rw [hcount]
      exact ⟨.cons hstep hexec, by simpa using hleft⟩

/-! ## The run of a lead -/

/-- A finished run is made of the results and the state of its steps; closing it only reads the
clock and takes an id. -/
theorem runLead_eq_some {e : Engine τ σ} {w : Workflow} {deadline : τ} {lead : Lead}
    {j j' : Journey τ σ} {run : Run} (h : e.runLead w deadline lead j = (some run, j')) :
    ∃ s j₁, e.runSteps lead deadline w.steps .fresh j.stamp.2 = (some (run.steps, s), j₁) ∧
      run.leadId = lead.id ∧ run.leadName = lead.name ∧ run.status = s.runStatus ∧
      run.error = s.error ∧ j' = { j₁.stamp.2 with issued := j₁.issued + 1 } := by
  unfold runLead at h
  dsimp only at h
  split at h
  · simp at h
  · rename_i steps s j₁ hsteps
    obtain ⟨rfl, rfl⟩ := by simpa using h
    exact ⟨s, j₁, hsteps, rfl, rfl, rfl, rfl, rfl⟩

/-- What the results of a finished run say about what has happened. -/
structure Recorded (e : Engine τ σ) (w : Workflow) (deadline : τ) (lead : Lead) (run : Run)
    (j j' : Journey τ σ) : Prop where
  /-- there is one result for each step, in order -/
  labels : run.steps.map StepResult.label = w.steps.map Step.label
  /-- the steps up to the first condition that is not met were executed, and made all the calls -/
  executed : ∃ j₁, e.Executes lead deadline (w.steps.take (executedCount run.steps))
    (run.steps.take (executedCount run.steps)) j.stamp.2 j₁ ∧ j'.calls = j₁.calls
  /-- every later step was left out at once -/
  leftOut : ∀ r ∈ run.steps.drop (executedCount run.steps),
    r.verdict = .skip ∧ r.message = .str "Skipped — upstream condition not met" ∧ r.durationMs = 0
  /-- the run failed just if a step did -/
  status : run.status = if ∃ r ∈ run.steps, r.verdict = .fail then .failed else .success
  /-- the error is that of the last step that failed -/
  error : run.error.map Value.str = (lastFailure? run.steps).map (·.message)

/-- A run that was not cut off is recorded as it went. -/
theorem runLead_recorded {e : Engine τ σ} {w : Workflow} {deadline : τ} {lead : Lead}
    {j j' : Journey τ σ} {run : Run} (h : e.runLead w deadline lead j = (some run, j')) :
    e.Recorded w deadline lead run j j' := by
  obtain ⟨s, j₁, hsteps, -, -, hstatus, herror, rfl⟩ := runLead_eq_some h
  have hsums : s.Sums run.steps := by simpa using runSteps_sums RecordState.sums_fresh hsteps
  obtain ⟨hexec, hleft⟩ := runSteps_executes rfl hsteps
  refine ⟨runSteps_labels hsteps, ⟨j₁, hexec, rfl⟩, ?_, ?_, ?_⟩
  · intro r hr
    rw [hleft, List.mem_map] at hr
    obtain ⟨step, -, rfl⟩ := hr
    exact ⟨rfl, rfl, rfl⟩
  · rw [hstatus, RecordState.runStatus, hsums.failed]
    simp [StepResult.isFailure]
  · rw [herror]
    exact hsums.error

end Engine

/-! ## A cold lead -/

/-- A wait, a condition on the score, and another wait. -/
def warmUp : Workflow where
  id := "w1"
  name := "Warm up"
  description := ""
  status := .active
  steps :=
    [⟨"p1", "Wait a day", "", .wait ⟨.int 1⟩⟩,
      ⟨"c1", "Score above 50", "", .condition ⟨"score", .gt, .int 50⟩⟩,
      ⟨"p2", "Wait a week", "", .wait ⟨.int 7⟩⟩]
  createdAt := ⟨0, none, false⟩
  stats := Stats.zero
  ownerId := none
  teamId := none

/-- A lead with a low score. -/
def coldLead : Lead := { (Inhabited.default : Lead) with id := "lead-1", score := .int 10 }

/-- The built-in handlers with default settings, and an outside that answers as usual. -/
def plainEngine : Engine Float Rehearsal :=
  .builtIn Rehearsal.outside ⟨"user-1", Settings.default, .blank, false⟩ fun n => s!"run-{n}"

/-- The start of an execution. -/
def plainStart : Journey Float Rehearsal :=
  ⟨⟨[], [], [], [], [], [], [], [], [], Stats.zero⟩, 0, 0, 0, 0, []⟩

theorem exists_eq_mk_of_fst_eq {α β : Type} {x : α × β} {a : α} (h : x.1 = a) : ∃ b, x = (a, b) :=
  ⟨x.2, Prod.ext h rfl⟩

/-- The second wait is left out behind the condition, which the low score does not meet. -/
theorem runLead_recorded_coldLead : ∃ run j',
    plainEngine.runLead warmUp 30 coldLead plainStart = (some run, j') ∧
      plainEngine.Recorded warmUp 30 coldLead run plainStart j' ∧
      run.steps.map (·.verdict) = [.pass, .skip, .skip] := by
  have hverdicts : ((plainEngine.runLead warmUp 30 coldLead plainStart).1.map
      fun run => run.steps.map (·.verdict)) = some [.pass, .skip, .skip] := by decide +kernel
  obtain ⟨run, hrun, hsteps⟩ := Option.map_eq_some_iff.mp hverdicts
  obtain ⟨j', h⟩ := exists_eq_mk_of_fst_eq hrun
  exact ⟨run, j', h, Engine.runLead_recorded h, hsteps⟩

end LeadFlow.Execution
