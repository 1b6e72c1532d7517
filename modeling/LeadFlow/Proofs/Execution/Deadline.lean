import LeadFlow.Proofs.Execution.Accounting
import LeadFlow.Proofs.Execution.Reports
import LeadFlow.Proofs.Program.Deadline

set_option autoImplicit false

/-!
# Execution: deadlines

Each step has a limit of its own, and all steps of a batch together have the time of the batch.  With time
read in exact numbers both are kept, whatever the outside does and however long it takes: no step goes on
beyond its limit, and none beyond the end of the batch.  A step counts as timed out only if its own limit
came first, or at the same time; and leads are cut off just when the time of the batch is used up.

What is said of a batch is said of its turns: the steps that were executed, one after the other.

Main statement: `process_onTime`.
-/

namespace LeadFlow

/-- The message is that of a step that ran into its limit. -/
def StepResult.SaysTimedOut (r : StepResult) : Prop :=
  ∃ s, r.message = .str s ∧ "Step timed out".toList <+: s.toList

end LeadFlow

namespace LeadFlow.Execution

theorem not_saysTimedOut {step : Step} {r : Report} {ms : Int} (h : OpensOtherwise r.message) :
    ¬ (resultOf step r ms).SaysTimedOut := by
  rintro ⟨s, hs, hopens⟩
  obtain rfl : r.message = s := Value.str.inj hs
  exact h.not_step_prefix ((List.prefix_append "Step".toList " timed out".toList).trans hopens)

/-- A step that was executed for a lead, with the course before and after it. -/
structure Turn (τ σ : Type) where
  lead : Lead
  step : Step
  start : Journey τ σ
  stop : Journey τ σ
  /-- nothing if the batch ran out -/
  result : Option StepResult

namespace Turn

variable {τ σ : Type}

/-- The calls of a turn, with their times. -/
def made (t : Turn τ σ) : List (τ × calls.Call) := t.stop.calls.drop t.start.calls.length

/-- The result of a turn and the lead that it is for. -/
def record? (t : Turn τ σ) : Option (String × StepResult) := t.result.map (t.lead.id, ·)

end Turn

/-- The results of the steps that were executed for a run, and the lead that it is for. -/
def executedOf (run : Run) : List (String × StepResult) :=
  (run.steps.take (executedCount run.steps)).map (run.leadId, ·)

namespace Engine

variable {τ σ : Type}

/-! ## Turns -/

namespace Idles

variable {j j₁ j₂ : Journey τ σ}

theorem refl (j : Journey τ σ) : Idles j j := ⟨rfl, rfl, rfl⟩

theorem trans (h₁ : Idles j j₁) (h₂ : Idles j₁ j₂) : Idles j j₂ :=
  ⟨h₂.world.trans h₁.world, h₂.time.trans h₁.time, h₂.calls.trans h₁.calls⟩

end Idles

variable [Timeline τ]

/-- The turn is how its step goes from its start, at a time when the batch is not used up. -/
structure Takes (e : Engine τ σ) (deadline : τ) (t : Turn τ σ) : Prop where
  inTime : expired deadline t.start = false
  result : (e.runStep t.lead deadline t.step t.start).1 = t.result
  stop : (e.runStep t.lead deadline t.step t.start).2.2 = t.stop

/-- Turns taken one after the other; only the clock is read between them. -/
inductive TakesAll (e : Engine τ σ) (deadline : τ) : List (Turn τ σ) → Journey τ σ → Journey τ σ → Prop where
  | nil {j j' : Journey τ σ} : Idles j j' → TakesAll e deadline [] j j'
  | cons {t : Turn τ σ} {ts : List (Turn τ σ)} {j j' : Journey τ σ} : Idles j t.start →
      e.Takes deadline t → TakesAll e deadline ts t.stop j' → TakesAll e deadline (t :: ts) j j'

/-- The time of the batch. -/
def budget (e : Engine τ σ) : τ := Timeline.ofSeconds e.context.settings.batchTimeout

/-- Whatever a step reports by itself, it is no timeout. -/
def TellsTimeouts (e : Engine τ σ) : Prop :=
  ∀ step lead, (e.task step lead e.context).Ends fun o => ∃ r, o = .ok r ∧ r.IsApart

section Turns

variable {e : Engine τ σ} {w : Workflow} {deadline : τ} {lead : Lead} {leads : List Lead} {steps : List Step}
  {runs : List Run} {ts ts' : List (Turn τ σ)} {j j₁ j₂ j' : Journey τ σ}

namespace TakesAll

theorem idle (h : Idles j j₁) (hrest : e.TakesAll deadline ts j₁ j₂) : e.TakesAll deadline ts j j₂ := by
  cases hrest with
  | nil h' => exact .nil (h.trans h')
  | cons h' ht hrest => exact .cons (h.trans h') ht hrest

theorem append (h : e.TakesAll deadline ts j j₁) (h' : e.TakesAll deadline ts' j₁ j₂) :
    e.TakesAll deadline (ts ++ ts') j j₂ := by
  induction h with
  | nil hidle => exact .idle hidle h'
  | cons hidle ht _ ih => exact .cons hidle ht (ih h')

theorem takes (h : e.TakesAll deadline ts j j') : ∀ t ∈ ts, e.Takes deadline t := by
  induction h with
  | nil _ => simp
  | cons _ ht _ ih => exact List.forall_mem_cons.mpr ⟨ht, ih⟩

end TakesAll

theorem runStep_of_expired (e : Engine τ σ) (lead : Lead) (step : Step) (h : expired deadline j = true) :
    e.runStep lead deadline step j = (none, none, j) := by
  unfold runStep
  exact if_pos h

/-- A step that was executed has a result and a report, or neither. -/
theorem runStep_cases (e : Engine τ σ) (lead : Lead) (deadline : τ) (step : Step) (j : Journey τ σ) :
    (∃ result r j', e.runStep lead deadline step j = (some result, some r, j')) ∨
      ∃ j', e.runStep lead deadline step j = (none, none, j') := by
  unfold runStep
  dsimp only
  split
  · exact .inr ⟨j, rfl⟩
  · split
    · exact .inl ⟨_, _, _, rfl⟩
    · exact .inr ⟨_, rfl⟩

theorem takes_of_runStep {step : Step} {result : StepResult} {r : Report}
    (h : e.runStep lead deadline step j = (some result, some r, j₁)) :
    e.Takes deadline ⟨lead, step, j, j₁, some result⟩ := by
  refine ⟨?_, by rw [h], by rw [h]⟩
  cases hexpired : expired deadline j with
  | false => rfl
  | true =>
    rw [runStep_of_expired e lead step hexpired] at h
    simp at h

/-- Steps that were executed are turns, each with its result. -/
theorem Executes.takesAll {results : List StepResult} (h : e.Executes lead deadline steps results j j') :
    ∃ ts, e.TakesAll deadline ts j j' ∧ ts.filterMap Turn.record? = results.map (lead.id, ·) := by
  induction h with
  | nil j => exact ⟨[], .nil (.refl j), rfl⟩
  | @cons step steps result results r j j₁ j₂ hstep _ ih =>
    obtain ⟨ts, hts, hresults⟩ := ih
    refine ⟨⟨lead, step, j, j₁, some result⟩ :: ts, .cons (.refl j) (takes_of_runStep hstep) hts, ?_⟩
    simp [Turn.record?, hresults]

/-- The time of the batch is used up, or was so during the last turn. -/
def RanOut (deadline : τ) (ts : List (Turn τ σ)) (j : Journey τ σ) : Prop :=
  expired deadline j = true ∨ ∃ t ∈ ts, t.result = none ∧ t.stop.time = j.time

/-- Steps of a lead that was cut off are turns up to where the time was used up. -/
theorem runSteps_takesAll_of_none {s : RecordState} (h : e.runSteps lead deadline steps s j = (none, j')) :
    ∃ ts, e.TakesAll deadline ts j j' ∧ RanOut deadline ts j' := by
  induction steps generalizing s j with
  | nil => simp [runSteps] at h
  | cons step rest ih =>
    cases hlatched : s.latched with
    | true =>
      rw [runSteps_of_latched e lead deadline _ hlatched] at h
      simp at h
    | false =>
      rw [runSteps, if_neg (by simp [hlatched])] at h
      obtain ⟨result, r, j₁, hstep⟩ | ⟨j₁, hstep⟩ := runStep_cases e lead deadline step j
      · simp only [hstep] at h
        split at h
        · simp at h
        · rename_i hrest
          obtain ⟨-, rfl⟩ := Prod.mk.inj h
          obtain ⟨ts, hts, hranOut⟩ := ih hrest
          refine ⟨⟨lead, step, j, j₁, some result⟩ :: ts, .cons (.refl j) (takes_of_runStep hstep) hts, ?_⟩
          refine hranOut.imp_right ?_
          rintro ⟨t, ht, hnone⟩
          exact ⟨t, List.mem_cons_of_mem _ ht, hnone⟩
      · simp only [hstep] at h
        obtain ⟨-, rfl⟩ := Prod.mk.inj h
        -- the time was used up before the step, or while it was executed
        cases hexpired : expired deadline j with
        | true =>
          obtain rfl : j = j₁ := by simpa [runStep_of_expired e lead step hexpired] using hstep
          exact ⟨[], .nil (.refl j), .inl hexpired⟩
        | false =>
          have htaken : e.Takes deadline ⟨lead, step, j, j₁, none⟩ :=
            ⟨hexpired, by rw [hstep], by rw [hstep]⟩
          exact ⟨[⟨lead, step, j, j₁, none⟩], .cons (.refl j) htaken (.nil (.refl j₁)),
            .inr ⟨_, List.mem_singleton_self _, rfl, rfl⟩⟩

/-- A lead that was run to its end was run in turns; those have the results of its executed steps. -/
theorem runLead_takesAll {run : Run} (h : e.runLead w deadline lead j = (some run, j')) :
    ∃ ts, e.TakesAll deadline ts j j' ∧ ts.filterMap Turn.record? = executedOf run := by
  obtain ⟨s, j₁, hsteps, hid, -, -, -, rfl⟩ := runLead_eq_some h
  obtain ⟨hexecutes, -⟩ := runSteps_executes rfl hsteps
  obtain ⟨ts, hts, hresults⟩ := hexecutes.takesAll
  have hopen : Idles j j.stamp.2 := ⟨rfl, rfl, rfl⟩
  have hclose : Idles j₁ { j₁.stamp.2 with issued := j₁.issued + 1 } := ⟨rfl, rfl, rfl⟩
  refine ⟨ts, by simpa using (hts.idle hopen).append (.nil hclose), ?_⟩
  rw [hresults, executedOf, hid]

theorem runLead_takesAll_of_none (h : e.runLead w deadline lead j = (none, j')) :
    ∃ ts, e.TakesAll deadline ts j j' ∧ RanOut deadline ts j' := by
  have hopen : Idles j j.stamp.2 := ⟨rfl, rfl, rfl⟩
  unfold runLead at h
  dsimp only at h
  split at h
  · rename_i j₁ hsteps
    obtain ⟨-, rfl⟩ := Prod.mk.inj h
    obtain ⟨ts, hts, hranOut⟩ := runSteps_takesAll_of_none hsteps
    exact ⟨ts, hts.idle hopen, hranOut⟩
  · simp at h

theorem Finishes.takesAll (h : e.Finishes w deadline leads runs j j') :
    ∃ ts, e.TakesAll deadline ts j j' ∧ ts.filterMap Turn.record? = runs.flatMap executedOf := by
  induction h with
  | nil j => exact ⟨[], .nil (.refl j), rfl⟩
  | cons _ hlead _ ih =>
    obtain ⟨ts, hts, hresults⟩ := runLead_takesAll hlead
    obtain ⟨ts', hts', hresults'⟩ := ih
    exact ⟨ts ++ ts', hts.append hts', by rw [List.filterMap_append, hresults, hresults', List.flatMap_cons]⟩

/-- Leads are left over only when the time of the batch is used up. -/
theorem Stops.takesAll (h : e.Stops w deadline leads j j') :
    ∃ ts, e.TakesAll deadline ts j j' ∧ (leads ≠ [] → RanOut deadline ts j') := by
  cases h with
  | done => exact ⟨[], .nil (.refl j), fun hne => absurd rfl hne⟩
  | before hexpired => exact ⟨[], .nil (.refl j), fun _ => .inl hexpired⟩
  | within _ hlead =>
    obtain ⟨ts, hts, hranOut⟩ := runLead_takesAll_of_none hlead
    exact ⟨ts, hts, fun _ => hranOut⟩

/-- Every result of a finished run that says so is that of a turn: the others were left out behind a
condition. -/
theorem Finishes.exists_turn (h : e.Finishes w deadline leads runs j j')
    (hts : ts.filterMap Turn.record? = runs.flatMap executedOf)
    {run : Run} (hrun : run ∈ runs) {r : StepResult} (hr : r ∈ run.steps) (htold : r.SaysTimedOut) :
    ∃ t ∈ ts, t.lead.id = run.leadId ∧ t.result = some r := by
  have hleftOut : ∀ run ∈ runs, ∀ r ∈ run.steps.drop (executedCount run.steps), ¬ r.SaysTimedOut := by
    clear hts hrun hr
    induction h with
    | nil j => simp
    | cons _ hlead _ ih =>
      refine List.forall_mem_cons.mpr ⟨fun r hr => ?_, ih⟩
      obtain ⟨s, j₁, hsteps, -⟩ := runLead_eq_some hlead
      rw [(runSteps_executes rfl hsteps).2, List.mem_map] at hr
      obtain ⟨step, -, rfl⟩ := hr
      exact not_saysTimedOut (.literal rfl)
  rw [← List.take_append_drop (executedCount run.steps) run.steps] at hr
  obtain hr | hr := List.mem_append.mp hr
  · have hrecord : (run.leadId, r) ∈ ts.filterMap Turn.record? := by
      rw [hts]
      exact List.mem_flatMap.mpr ⟨run, hrun, List.mem_map_of_mem hr⟩
    obtain ⟨t, ht, hturn⟩ := List.mem_filterMap.mp hrecord
    obtain ⟨r', hr', hsame⟩ := Option.map_eq_some_iff.mp hturn
    obtain ⟨hid, rfl⟩ := Prod.mk.inj hsame
    exact ⟨t, ht, hid, hr'⟩
  · exact absurd htold (hleftOut run hrun r hr)

end Turns

/-! ## Limits -/

variable [AddCommGroup τ] [LinearOrder τ]

/-- A turn that is over in time. -/
structure KeepsLimits (e : Engine τ σ) (deadline : τ) (t : Turn τ σ) : Prop where
  /-- the step does not go on beyond its own limit -/
  lasts : t.stop.time - t.start.time ≤ max e.stepLimit 0
  /-- nor beyond the end of the batch -/
  ends : t.start.time ≤ t.stop.time ∧ t.stop.time ≤ deadline
  /-- the calls that the step adds are made meanwhile -/
  calls : t.stop.calls = t.start.calls ++ t.made ∧ ∀ x ∈ t.made, t.start.time ≤ x.1 ∧ x.1 ≤ t.stop.time
  /-- a step that timed out had a limit within the time left, is cut when it has used it up, and makes none
  of the calls that it would have gone on with -/
  timedOut : ∀ r, t.result = some r → r.SaysTimedOut →
    e.stepLimit ≤ deadline - t.start.time ∧ t.stop.time = t.start.time + max e.stepLimit 0 ∧
      ∃ later, ((e.task t.step t.lead e.context).run e.outside none t.start).2.calls = t.stop.calls ++ later ∧
        ∀ x ∈ later, t.stop.time ≤ x.1
  /-- a step without a result was cut at the end of the batch -/
  ranOut : t.result = none → t.stop.time = deadline

variable [ExactTimeline τ] {e : Engine τ σ} {deadline : τ} {lead : Lead} {step : Step} {j : Journey τ σ}
  {t : Turn τ σ}

theorem expired_eq (deadline : τ) (j : Journey τ σ) : expired deadline j = decide (deadline ≤ j.time) := by
  unfold expired
  simp

/-- A step is run within its limit and the time left, whichever is less. -/
theorem runStep_eq (h : j.time < deadline) {ending : Ending Report} {j' : Journey τ σ}
    (hrun : (e.task step lead e.context).runWithin e.outside (min e.stepLimit (deadline - j.time)) j =
      (ending, j')) :
    e.runStep lead deadline step j =
      match e.reportOf (decide (deadline - j.time < e.stepLimit)) ending with
      | some r => (some (resultOf step r (Timeline.millis (Timeline.sub j'.time j.time))), some r, j')
      | none => (none, none, j') := by
  have hleft : ¬ Timeline.le (Timeline.sub deadline j.time) Timeline.zero = true := by simpa using h
  have hlimit : (if Timeline.lt (Timeline.sub deadline j.time) e.stepLimit then Timeline.sub deadline j.time
      else e.stepLimit) = min e.stepLimit (deadline - j.time) := by
    simp only [ExactTimeline.sub_eq, ExactTimeline.lt_eq, decide_eq_true_eq]
    split
    · rename_i hlt
      exact (min_eq_right hlt.le).symm
    · rename_i hle
      exact (min_eq_left (not_lt.mp hle)).symm
  unfold runStep
  dsimp only
  rewrite [if_neg hleft, hlimit, hrun, ExactTimeline.sub_eq, ExactTimeline.lt_eq]
  rfl

/-- How a turn can end: by itself, by the limit of its step, or by the end of the batch. -/
theorem Takes.ends (h : e.Takes deadline t) (he : e.TellsTimeouts) :
    t.start.time < deadline ∧ ∃ ending,
      (e.task t.step t.lead e.context).runWithin e.outside (min e.stepLimit (deadline - t.start.time)) t.start =
        (ending, t.stop) ∧
      ((∃ r ms, ending = .finished (.ok r) ∧ r.IsApart ∧ t.result = some (resultOf t.step r ms)) ∨
        (ending = .cut ∧ e.stepLimit ≤ deadline - t.start.time ∧
          ∃ ms, t.result = some (resultOf t.step e.timedOut ms)) ∨
        (ending = .cut ∧ deadline - t.start.time < e.stepLimit ∧ t.result = none)) := by
  obtain ⟨hinTime, hresult, hstop⟩ := h
  have hlt : t.start.time < deadline := by simpa [expired_eq] using hinTime
  obtain ⟨⟨ending, j'⟩, hrun⟩ : ∃ x, (e.task t.step t.lead e.context).runWithin e.outside
    (min e.stepLimit (deadline - t.start.time)) t.start = x := ⟨_, rfl⟩
  rw [runStep_eq hlt hrun] at hresult hstop
  cases ending with
  | finished o =>
    obtain ⟨r, rfl, hr⟩ := Program.runWithin_ends (he t.step t.lead) hrun
    obtain rfl : j' = t.stop := hstop
    exact ⟨hlt, _, hrun, .inl ⟨r, _, rfl, hr, hresult.symm⟩⟩
  | cut =>
    by_cases hbound : deadline - t.start.time < e.stepLimit
    · simp only [reportOf, hbound, decide_true, if_true] at hresult hstop
      obtain rfl := hstop
      exact ⟨hlt, _, hrun, .inr (.inr ⟨rfl, hbound, hresult.symm⟩)⟩
    · simp only [reportOf, hbound, decide_false, Bool.false_eq_true, if_false] at hresult hstop
      obtain rfl := hstop
      exact ⟨hlt, _, hrun, .inr (.inl ⟨rfl, not_lt.mp hbound, _, hresult.symm⟩)⟩

/-- Every turn is over in time. -/
theorem Takes.keepsLimits (h : e.Takes deadline t) (he : e.TellsTimeouts) : e.KeepsLimits deadline t := by
  obtain ⟨hlt, ending, hrun, hends⟩ := h.ends he
  have hleft : 0 < deadline - t.start.time := sub_pos.mpr hlt
  obtain ⟨htime, made, hcalls, hmade⟩ : t.start.Advances t.stop := by
    have hadvances := Program.runWithin_advances e.outside (min e.stepLimit (deadline - t.start.time))
      (e.task t.step t.lead e.context) t.start
    rwa [hrun] at hadvances
  have hmost : t.stop.time ≤ t.start.time + max (min e.stepLimit (deadline - t.start.time)) 0 := by
    have hle := Program.runWithin_time_le e.outside (min e.stepLimit (deadline - t.start.time))
      (e.task t.step t.lead e.context) t.start
    rwa [hrun] at hle
  have hmadeOf : t.made = made := by rw [Turn.made, hcalls, List.drop_left]
  constructor
  · rw [sub_le_iff_le_add']
    exact hmost.trans (by gcongr; exact min_le_left _ _)
  · refine ⟨htime, hmost.trans ?_⟩
    calc t.start.time + max (min e.stepLimit (deadline - t.start.time)) 0
        ≤ t.start.time + max (deadline - t.start.time) 0 := by gcongr; exact min_le_right _ _
      _ = deadline := by rw [max_eq_left hleft.le, add_sub_cancel]
  · rw [hmadeOf]
    exact ⟨hcalls, hmade⟩
  · intro r hr htold
    -- only a turn that its own limit has cut says so
    obtain ⟨r', ms, -, hapart, hresult⟩ | ⟨rfl, hfits, -⟩ | ⟨-, -, hnone⟩ := hends
    · obtain rfl : r = resultOf t.step r' ms := Option.some.inj (hr.symm.trans hresult)
      exact absurd htold (not_saysTimedOut hapart)
    · have hcut := Program.runWithin_cut hrun
      rw [min_eq_left hfits] at hcut
      exact ⟨hfits, hcut⟩
    · simp [hnone] at hr
  · intro hnone
    obtain ⟨r', ms, -, -, hresult⟩ | ⟨-, -, ms, hresult⟩ | ⟨rfl, hover, -⟩ := hends
    · simp [hresult] at hnone
    · simp [hresult] at hnone
    · have hcut := (Program.runWithin_cut hrun).1
      rw [min_eq_right hover.le, max_eq_left hleft.le, add_sub_cancel] at hcut
      exact hcut

/-! ## Batches -/

section Batches

variable {ts : List (Turn τ σ)} {j' : Journey τ σ}

/-- The course of a batch goes from turn to turn: it never goes back, nor beyond the end of the batch, and
its calls are those of the turns. -/
theorem TakesAll.onTime (h : e.TakesAll deadline ts j j') (he : e.TellsTimeouts) :
    j.time ≤ j'.time ∧ j'.time ≤ max j.time deadline ∧ j'.calls = j.calls ++ ts.flatMap Turn.made := by
  induction h with
  | nil hidle => exact ⟨hidle.time.ge, hidle.time.le.trans (le_max_left _ _), by simp [hidle.calls]⟩
  | cons hidle ht _ ih =>
    obtain ⟨hfrom, hto, hcalls⟩ := ih
    obtain ⟨-, ⟨hstart, hstop⟩, ⟨hmade, -⟩, -, -⟩ := ht.keepsLimits he
    refine ⟨?_, hto.trans (max_le (hstop.trans (le_max_right _ _)) (le_max_right _ _)), ?_⟩
    · rw [← hidle.time]
      exact hstart.trans hfrom
    · rw [hcalls, hmade, hidle.calls, List.flatMap_cons, List.append_assoc]

/-- A batch that ran out is at its end, or was begun there. -/
theorem RanOut.le (h : RanOut deadline ts j') (hts : ∀ t ∈ ts, e.KeepsLimits deadline t) :
    deadline ≤ j'.time := by
  obtain hexpired | ⟨t, ht, hnone, htime⟩ := h
  · simpa [expired_eq] using hexpired
  · rw [← htime, (hts t ht).ranOut hnone]

/-- The steps of a batch were executed on time: these were its turns, from `j` on. -/
structure OnTime (e : Engine τ σ) (j : Journey τ σ) (phase : (List Run × List Run) × Journey τ σ)
    (turns : List (Turn τ σ)) : Prop where
  /-- the turns were taken one after the other, each within its limits -/
  course : e.TakesAll (j.time + e.budget) turns j phase.2
  limits : ∀ t ∈ turns, e.KeepsLimits (j.time + e.budget) t
  /-- the batch does not go on beyond its end -/
  ends : phase.2.time ≤ j.time + max e.budget 0
  /-- and no call is made beyond it -/
  calls : phase.2.calls = j.calls ++ turns.flatMap Turn.made ∧
    ∀ x ∈ turns.flatMap Turn.made, x.1 ≤ j.time + max e.budget 0
  /-- the results of finished runs are those of turns, up to where a condition was not met -/
  finished : ∃ lost, turns.filterMap Turn.record? = phase.1.1.flatMap executedOf ++ lost
  /-- a step that is recorded as timed out was such a turn -/
  timedOut : ∀ run ∈ phase.1.1, ∀ r ∈ run.steps, r.SaysTimedOut →
    ∃ t ∈ turns, t.lead.id = run.leadId ∧ t.result = some r
  /-- leads are cut off just when the batch is at its end -/
  cut : phase.1.2 ≠ [] → phase.2.time = j.time + max e.budget 0

/-- The deadlines are kept by every engine whose steps do not report timeouts by themselves. -/
theorem process_onTime_of_tells (he : e.TellsTimeouts) (w : Workflow) (leads : List Lead)
    (j : Journey τ σ) : ∃ turns, e.OnTime j (e.process w leads j) turns := by
  obtain ⟨⟨⟨runs, cut⟩, j₁⟩, hrun⟩ : ∃ x, e.runLeads w (j.time + e.budget) leads j = x := ⟨_, rfl⟩
  obtain ⟨⟨cutRuns, j₂⟩, hcutOff⟩ : ∃ x, e.cutOffAll w cut j₁ = x := ⟨_, rfl⟩
  have hprocess : e.process w leads j = ((runs, cutRuns), j₂) := by
    unfold process
    rw [ExactTimeline.add_eq]
    dsimp only
    rw [← budget, hrun, hcutOff]
  rw [hprocess]
  obtain ⟨first, j₀, -, -, hfinishes, hstops⟩ := runLeads_finishes hrun
  obtain ⟨hcutOrder, -, hidles⟩ := cutOffAll_spec e w cut j₁
  rw [hcutOff] at hcutOrder hidles
  obtain ⟨ts, hts, hresults⟩ := hfinishes.takesAll
  obtain ⟨lost, hlost, hranOut⟩ := hstops.takesAll
  have hcourse : e.TakesAll (j.time + e.budget) (ts ++ lost) j j₂ := by
    simpa using (hts.append hlost).append (.nil hidles)
  have hlimits : ∀ t ∈ ts ++ lost, e.KeepsLimits (j.time + e.budget) t :=
    fun t ht => (hcourse.takes t ht).keepsLimits he
  obtain ⟨hfrom, hto, hcalls⟩ := hcourse.onTime he
  have hend : max j.time (j.time + e.budget) = j.time + max e.budget 0 := by
    rw [max_comm e.budget, ← max_add_add_left, add_zero]
  rw [hend] at hto
  refine ⟨ts ++ lost, hcourse, hlimits, hto, ⟨hcalls, fun x hx => ?_⟩, ?_, ?_, fun hcutRuns => ?_⟩
  · obtain ⟨t, ht, hmade⟩ := List.mem_flatMap.mp hx
    have hdeadline : j.time + e.budget ≤ j.time + max e.budget 0 := by
      rw [← hend]
      exact le_max_right _ _
    exact ((hlimits t ht).calls.2 x hmade).2.trans ((hlimits t ht).ends.2.trans hdeadline)
  · exact ⟨lost.filterMap Turn.record?, by rw [List.filterMap_append, hresults]⟩
  · intro run hrun r hr htold
    obtain ⟨t, ht, hturn⟩ := hfinishes.exists_turn hresults hrun hr htold
    exact ⟨t, List.mem_append_left _ ht, hturn⟩
  · have hcut : cut ≠ [] := by
      rintro rfl
      exact hcutRuns (by simpa using hcutOrder)
    have hreached := (hranOut hcut).le fun t ht => hlimits t (List.mem_append_right _ ht)
    rw [← hidles.time] at hreached
    refine le_antisymm hto ?_
    rw [← hend]
    exact max_le hfrom hreached

end Batches

/-- However long calls take, and whatever the outside answers, the steps of a batch are executed on
time. -/
theorem process_onTime (outside : Outside calls τ σ) (context : Context) (runId : Nat → String) (w : Workflow)
    (leads : List Lead) (j : Journey τ σ) :
    ∃ turns,
      (builtIn outside context runId).OnTime j ((builtIn outside context runId).process w leads j) turns :=
  process_onTime_of_tells (fun step lead => task_reports step lead _) w leads j

end Engine

/-! ## Slow storage -/

/-- A change of the status, and a wait. -/
def contactAndWait : Workflow where
  id := "w2"
  name := "Contact"
  description := ""
  status := .active
  steps :=
    [⟨"s1", "Mark as contacted", "", .action
        { actionType := "update_status", template := none, customSubject := none, customBody := none
          aiPersonalization := false, timing := .immediate, fallbackEnabled := false
          fallbackAction := .skip, newStatus := none, tag := none, assignee := none, extras := [] }⟩,
      ⟨"p1", "Wait a day", "", .wait ⟨.int 1⟩⟩]
  createdAt := ⟨0, none, false⟩
  stats := Stats.zero
  ownerId := none
  teamId := none

/-- Storage loses the connection after three seconds, then takes nine seconds, and then seven. -/
def slowRehearsal : Rehearsal :=
  { updates := [⟨3, some (.error ⟨.connection, none⟩)⟩, ⟨9, none⟩, ⟨7, none⟩]
    deliveries := [], queues := [], lookups := [], wordings := [], audits := [], saves := [], folds := []
    templates := [], stats := .zero }

/-- Ten seconds for a step, fifteen for a batch. -/
def slowEngine : Engine ℚ Rehearsal :=
  .builtIn Rehearsal.outside ⟨"user-1", { Settings.default with batchTimeout := 15 }, .blank, false⟩
    fun n => s!"run-{n}"

/-- The start of an execution. -/
def slowStart : Journey ℚ Rehearsal := ⟨slowRehearsal, 0, 0, 0, 0, []⟩

/-- The second attempt of the first lead is cut at ten seconds, and its wait passes; the second lead has
only five seconds left and is cut off. -/
theorem process_onTime_slowStorage :
    (∃ turns, slowEngine.OnTime slowStart
      (slowEngine.process contactAndWait [coldLead, { coldLead with id := "lead-2" }] slowStart) turns) ∧
    (match slowEngine.process contactAndWait [coldLead, { coldLead with id := "lead-2" }] slowStart with
      | ((finished, cut), j) =>
        finished.map (fun run => run.steps.map (·.message.text?)) =
            [[some "Step timed out after 10s",
              some "Wait 1 day(s) - noted for execution (continuing immediately in manual run)"]] ∧
          cut.map (·.leadId) = ["lead-2"] ∧ j.time = 15 ∧ j.calls.map (·.1) = [0, 7 / 2, 10]) :=
  ⟨Engine.process_onTime _ _ _ _ _ _, by decide +kernel⟩

end LeadFlow.Execution
