import LeadFlow.Proofs.Execution.Appended
import LeadFlow.Proofs.Program.Steady
import Mathlib.Data.List.Forall2

set_option autoImplicit false

/-!
# Execution: leads apart from each other

Nothing is carried from one lead of a batch to the next but the outside, the time and the ids of runs.
Where the outside gives steady answers at once and the clock stands still, each run is that of its
lead alone.

Main statement: `execute_independent`.
-/

namespace LeadFlow

/-- What a run tells of its lead: how it ended, with which error, and what each step came to. -/
def Run.account (r : Run) : RunStatus × Option String × List StepResult := (r.status, r.error, r.steps)

end LeadFlow

namespace LeadFlow.Execution

namespace Engine

variable {τ σ : Type} [Timeline τ]

/-- Steady answers from the outside, and tasks that give a report without a wait. -/
structure Steady (e : Engine τ σ) (answers : (c : calls.Call) → Outcome (calls.Reply c)) : Prop where
  outside : Program.Steady e.outside answers
  waits : ∀ step lead, (e.task step lead e.context).KeepsTo (fun _ => True) (Program.IsNoWait τ)
  reports : ∀ step lead now, ∃ r,
    (e.task step lead e.context).evaluate answers now = .ok r

variable {e : Engine τ σ} {answers : (c : calls.Call) → Outcome (calls.Reply c)}

/-! ## One lead -/

section Lead

variable {deadline : τ} {j : Journey τ σ} (h : e.Steady answers)

include h

/-- Before the deadline a step has the same result whenever it is executed, and takes no time. -/
theorem runStep_steady (hleft : expired deadline j = false) (lead : Lead) (step : Step) :
    ∃ result r, ∀ j' : Journey τ σ, j.Still j' → ∃ j'', j.Still j'' ∧
      e.runStep lead deadline step j' = (some result, some r, j'') := by
  obtain ⟨r, hr⟩ := h.reports step lead j.now
  have hleft : ¬ Timeline.le (Timeline.sub deadline j.time) Timeline.zero = true := by
    simpa [expired] using hleft
  by_cases hlimit : ¬ Timeline.lt (Timeline.sub deadline j.time) e.stepLimit = true ∧
      Timeline.le e.stepLimit Timeline.zero = true
  · -- a step without any time is cut at once
    obtain ⟨hbound, hnone⟩ := hlimit
    refine ⟨resultOf step e.timedOut (Timeline.millis (Timeline.sub j.time j.time)), e.timedOut,
      fun j' hj => ⟨j', hj, ?_⟩⟩
    unfold runStep Program.runWithin
    simp [hj.time, hleft, hbound, hnone, reportOf]
  · refine ⟨resultOf step r (Timeline.millis (Timeline.sub j.time j.time)), r, fun j' hj => ?_⟩
    obtain ⟨limit, hwithin⟩ : ∃ limit, limit =
        if Timeline.lt (Timeline.sub deadline j.time) e.stepLimit = true then Timeline.sub deadline j.time
        else e.stepLimit := ⟨_, rfl⟩
    have hstarts : ¬ Timeline.le limit Timeline.zero = true := by
      rw [hwithin]
      split
      · exact hleft
      · rename_i hbound
        exact fun hnone => hlimit ⟨hbound, hnone⟩
    obtain ⟨hending, hstill⟩ :=
      Program.run_steady h.outside (some (Timeline.add j'.time limit)) (h.waits step lead) j'
    rw [hj.time] at hending hstill
    rw [hj.now_eq, hr] at hending
    refine ⟨_, hj.trans hstill, ?_⟩
    unfold runStep Program.runWithin
    dsimp only
    rw [hj.time, if_neg hleft, ← hwithin, if_neg hstarts, hending, (hj.trans hstill).time]
    rfl

/-- The steps of a lead have the same results whenever they are executed. -/
theorem runSteps_steady (hleft : expired deadline j = false) (lead : Lead) (steps : List Step)
    (s : RecordState) :
    ∃ results s', ∀ j' : Journey τ σ, j.Still j' → ∃ j'', j.Still j'' ∧
      e.runSteps lead deadline steps s j' = (some (results, s'), j'') := by
  induction steps generalizing s with
  | nil => exact ⟨[], s, fun j' hj => ⟨j', hj, rfl⟩⟩
  | cons step rest ih =>
    cases hlatched : s.latched with
    | true =>
      exact ⟨(step :: rest).map leftOut, s, fun j' hj =>
        ⟨j', hj, runSteps_of_latched e lead deadline (step :: rest) hlatched j'⟩⟩
    | false =>
      obtain ⟨result, r, hstep⟩ := runStep_steady h hleft lead step
      obtain ⟨results, s', hrest⟩ := ih (s.after step.kind r)
      refine ⟨result :: results, s', fun j' hj => ?_⟩
      obtain ⟨j₁, hj₁, hstep⟩ := hstep j' hj
      obtain ⟨j₂, hj₂, hrest⟩ := hrest j₁ hj₁
      refine ⟨j₂, hj₂, ?_⟩
      rw [runSteps, if_neg (by simp [hlatched]), hstep]
      dsimp only
      rw [hrest]

/-- The run of a lead is finished, and gives the same account whenever it takes place. -/
theorem runLead_steady (hleft : expired deadline j = false) (htick : j.tick = 0) (w : Workflow)
    (lead : Lead) :
    ∃ account, ∀ j' : Journey τ σ, j.Still j' → ∃ run j'', j.Still j'' ∧
      e.runLead w deadline lead j' = (some run, j'') ∧ run.account = account := by
  obtain ⟨steps, s, hsteps⟩ := runSteps_steady h hleft lead w.steps .fresh
  refine ⟨(s.runStatus, s.error, steps), fun j' hj => ?_⟩
  obtain ⟨j₁, hj₁, hsteps⟩ := hsteps j'.stamp.2 (hj.stamp htick)
  have hstill := hj₁.stamp htick
  obtain ⟨closed, hclosed⟩ : ∃ closed,
      e.issue w lead s.runStatus steps j'.stamp.1 j₁.stamp.1 s.error j₁.stamp.2 = closed := ⟨_, rfl⟩
  refine ⟨closed.1, closed.2, ?_, ?_, ?_⟩
  · rw [← hclosed]
    exact ⟨hstill.time, hstill.start, hstill.tick⟩
  · unfold runLead
    dsimp only
    rw [hsteps]
    dsimp only
    rw [hclosed]
  · rw [← hclosed]
    rfl

end Lead

/-! ## All leads -/

/-- The runs of a list of leads give the accounts that a function says. -/
abbrev Gives (account : Lead → RunStatus × Option String × List StepResult) (leads : List Lead)
    (runs : List Run) : Prop :=
  List.Forall₂ (fun lead run => run.account = account lead) leads runs

/-- Before the deadline all leads are finished, each with an account of its own. -/
theorem runLeads_steady (h : e.Steady answers) {deadline : τ} {j : Journey τ σ}
    (hleft : expired deadline j = false) (htick : j.tick = 0) (w : Workflow) :
    ∃ account, ∀ leads (j' : Journey τ σ), j.Still j' → ∃ runs j'', j.Still j'' ∧
      e.runLeads w deadline leads j' = ((runs, []), j'') ∧ Gives account leads runs := by
  choose account haccount using runLead_steady h hleft htick w
  refine ⟨account, fun leads => ?_⟩
  induction leads with
  | nil =>
    intro j' hj
    exact ⟨[], j', hj, rfl, .nil⟩
  | cons lead rest ih =>
    intro j' hj
    obtain ⟨run, j₁, hj₁, hlead, hrun⟩ := haccount lead j' hj
    obtain ⟨runs, j₂, hj₂, hrest, hruns⟩ := ih j₁ hj₁
    have hleft' : ¬ Timeline.le (Timeline.sub deadline j'.time) Timeline.zero = true := by
      rw [hj.time]
      simpa [expired] using hleft
    refine ⟨run :: runs, j₂, hj₂, ?_, .cons hrun hruns⟩
    rw [runLeads, if_neg hleft', hlead]
    dsimp only
    rw [hrest]

/-- Leads that were cut off all give the same account. -/
theorem cutOffAll_gives (e : Engine τ σ) (w : Workflow) (leads : List Lead) (j : Journey τ σ) :
    Gives (fun _ => (.failed, some deadlineMessage, [])) leads (e.cutOffAll w leads j).1 := by
  induction leads generalizing j with
  | nil => exact .nil
  | cons lead rest ih => exact .cons rfl (ih _)

/-- The account that the run of a lead in a batch gives depends on the lead alone. -/
theorem execute_steady (h : e.Steady answers) {j : Journey τ σ} (htick : j.tick = 0) (w : Workflow) :
    ∃ account, ∀ leads, Gives account leads (e.execute w leads j).1.runs := by
  obtain ⟨deadline, hdeadline⟩ : ∃ deadline,
      Timeline.add j.time (Timeline.ofSeconds e.context.settings.batchTimeout) = deadline := ⟨_, rfl⟩
  cases hexpired : expired deadline j with
  | true =>
    refine ⟨fun _ => (.failed, some deadlineMessage, []), fun leads => ?_⟩
    have hnone : e.runLeads w deadline leads j = (([], leads), j) := by
      cases leads with
      | nil => rfl
      | cons lead rest =>
        rw [runLeads]
        exact if_pos hexpired
    rw [runs_execute, process]
    dsimp only
    rw [hdeadline, hnone]
    exact cutOffAll_gives e w leads j
  | false =>
    obtain ⟨account, haccount⟩ := runLeads_steady h hexpired htick w
    refine ⟨account, fun leads => ?_⟩
    obtain ⟨runs, j', -, hrun, hruns⟩ := haccount leads j (.refl j)
    rw [runs_execute, process]
    dsimp only
    rw [hdeadline, hrun, cutOffAll, List.append_nil]
    exact hruns

/-! ## The built-in handlers -/

/-- A guarded task always gives a report. -/
theorem evaluate_guarded (answers : (c : calls.Call) → Outcome (calls.Reply c)) (now : Calendar.Moment)
    (w : Work Report) : ∃ r, (guarded w).evaluate answers now = .ok r := by
  unfold guarded
  rw [Program.bind_eq, Program.evaluate_bind, Program.evaluate_attempt]
  cases w.evaluate answers now with
  | ok r => exact ⟨r, rfl⟩
  | error f => exact ⟨.failed f.summary, rfl⟩

/-- Storage is asked again at once if its delay is zero. -/
theorem isNoWait_of_isStorageWait {context : Context} (hdelay : context.settings.storageRetryDelay = 0)
    {seconds : Float} (h : IsStorageWait context seconds) : Program.IsNoWait Float seconds := by
  obtain ⟨retry, hwait⟩ := h
  have hnone : (RetryStrategy.forStorage context.settings).delay = .float 0 := by
    unfold RetryStrategy.forStorage
    split
    · rfl
    · exact congrArg Num.float hdelay
  have hzero : (RetryStrategy.forStorage context.settings).waitFor retry = .ok 0 := by
    have hatOnce : (Num.float 0).le (.int 0) = true := by decide +kernel
    unfold RetryStrategy.waitFor RetryStrategy.delayFor
    rw [hnone, hatOnce, Bool.or_true, if_pos rfl]
    rfl
  obtain rfl : 0 = seconds := Except.ok.inj (hzero.symm.trans hwait)
  have hnow : Timeline.le (Timeline.ofSeconds 0 : Float) Timeline.zero = true := by decide +kernel
  exact hnow

theorem steady_builtIn {outside : Outside calls Float σ}
    (houtside : Program.Steady outside answers) {context : Context}
    (hdelay : context.settings.storageRetryDelay = 0) (runId : Nat → String) :
    (builtIn outside context runId).Steady answers where
  outside := houtside
  waits step lead := (task_acts step lead context).mono (fun _ _ => trivial)
    fun _ hwait => isNoWait_of_isStorageWait hdelay hwait
  reports _ _ now := evaluate_guarded answers now _

/-! ## Leads apart from each other -/

/-- Whatever the time limits are, with steady answers and a clock that stands still each lead of a batch
comes to the same as alone, and in another order the leads come to the same. -/
theorem execute_independent {outside : Outside calls Float σ}
    (houtside : Program.Steady outside answers) {context : Context}
    (hdelay : context.settings.storageRetryDelay = 0) (runId : Nat → String) (w : Workflow)
    (leads : List Lead) {j : Journey Float σ} (hclock : j.tick = 0) :
    List.Forall₂ (fun lead run => ∃ alone,
          ((builtIn outside context runId).execute w [lead] j).1.runs = [alone] ∧
            run.status = alone.status ∧ run.error = alone.error ∧ run.steps = alone.steps)
        leads ((builtIn outside context runId).execute w leads j).1.runs ∧
      ∀ leads' : List Lead, leads'.Perm leads →
        (leads'.zip (((builtIn outside context runId).execute w leads' j).1.runs.map Run.account)).Perm
          (leads.zip (((builtIn outside context runId).execute w leads j).1.runs.map Run.account)) := by
  obtain ⟨account, haccount⟩ :=
    execute_steady (steady_builtIn houtside hdelay runId) hclock w
  constructor
  · refine (haccount leads).imp fun lead run hrun => ?_
    obtain ⟨alone, rest, halone, hrest, hruns⟩ := List.forall₂_cons_left_iff.mp (haccount [lead])
    obtain rfl := List.forall₂_nil_left_iff.mp hrest
    obtain ⟨hstatus, herror, hsteps⟩ : run.status = alone.status ∧ run.error = alone.error ∧
        run.steps = alone.steps := by
      simpa [Run.account] using hrun.trans halone.symm
    exact ⟨alone, hruns, hstatus, herror, hsteps⟩
  · intro leads' hperm
    have hmap : ∀ leads, ((builtIn outside context runId).execute w leads j).1.runs.map Run.account =
        leads.map account := by
      intro leads
      have hsame : List.Forall₂ (· = ·) (leads.map account)
          (((builtIn outside context runId).execute w leads j).1.runs.map Run.account) := by
        rw [List.forall₂_map_left_iff, List.forall₂_map_right_iff]
        exact (haccount leads).imp fun lead run hrun => hrun.symm
      exact (List.forall₂_eq_eq_eq ▸ hsame : _ = _).symm
    have hzip : ∀ leads : List Lead, leads.zip (leads.map account) =
        leads.map fun lead => (lead, account lead) := by
      intro leads
      have hpairs : (leads.map id).zip (leads.map account) = _ := List.zip_map'
      simpa using hpairs
    rw [hmap, hmap, hzip, hzip]
    exact hperm.map _

end Engine

/-! ## A cold lead and a warm one -/

/-- Answers that tell of success. -/
def usualAnswers : (c : calls.Call) → Outcome (calls.Reply c)
  | .updateRecord .. => .ok ⟨true, .null⟩
  | .sendMessage .. => .ok ⟨true, .str "msg-1", .null⟩
  | .scheduleMessage leads .. => .ok ⟨.ofNat leads.length, .list []⟩
  | .getTemplate _ => .ok none
  | .generate .. => .ok (.ofTexts "AI subject" "AI body")
  | .audit .. => .ok ()
  | .saveRun .. => .ok ()
  | .updateStats .. => .ok Stats.zero

/-- An outside that gives these answers at once. -/
def promptOutside : Outside calls Float Unit := fun _ c _ => ⟨0, usualAnswers c, ()⟩

theorem steady_promptOutside : Program.Steady promptOutside usualAnswers where
  outcome _ _ _ := rfl
  delay _ _ _ := by
    have hnow : Timeline.le (0 : Float) Timeline.zero = true := by decide +kernel
    exact hnow

/-- The ids of runs in order. -/
def runNumber (n : Nat) : String := s!"run-{n}"

/-- Storage is asked again at once. -/
def promptContext : Context :=
  ⟨"user-1", { Settings.default with storageRetryDelay := 0 }, .blank, false⟩

/-- The built-in handlers with the outside that answers at once. -/
abbrev promptEngine : Engine Float Unit := .builtIn promptOutside promptContext runNumber

/-- The start of an execution while the clock stands still. -/
def promptStart : Journey Float Unit := ⟨(), 0, 0, 0, 0, []⟩

/-- A lead with a high score. -/
def warmLead : Lead := { coldLead with id := "lead-2", score := .int 90 }

/-- The condition that the cold lead does not meet has no say about the warm lead behind it. -/
theorem execute_independent_coldAndWarm :
    List.Forall₂ (fun lead run => ∃ alone,
          (promptEngine.execute warmUp [lead] promptStart).1.runs = [alone] ∧
            run.status = alone.status ∧ run.error = alone.error ∧ run.steps = alone.steps)
        [coldLead, warmLead] (promptEngine.execute warmUp [coldLead, warmLead] promptStart).1.runs ∧
      (promptEngine.execute warmUp [coldLead, warmLead] promptStart).1.runs.map
        (fun run => run.steps.map (·.verdict)) = [[.pass, .skip, .skip], [.pass, .pass, .pass]] :=
  ⟨(Engine.execute_independent steady_promptOutside
      (rfl : promptContext.settings.storageRetryDelay = 0) runNumber warmUp [coldLead, warmLead]
      (j := promptStart) rfl).1, by decide +kernel⟩

end LeadFlow.Execution
