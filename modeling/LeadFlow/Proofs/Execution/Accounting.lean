import LeadFlow.Execution.Batch
import LeadFlow.Proofs.Execution.Handlers
import LeadFlow.Proofs.Execution.Results

set_option autoImplicit false

/-!
# Execution: the accounts of a batch

Where a batch may be cut off, and what is in its books then.  The deadline may pass before a lead,
between two steps or within one, and every call may fail; still there is one run for each lead, the
finished ones come first, and the books agree with them: each finished run is stored once, the
statistics get the runs that could be stored, and one entry closes the batch.

Main statement: `execute_balanced`.
-/

namespace LeadFlow.Execution

/-! ## The books of a batch -/

/-- The calls that store runs, with what came of them. -/
def savesOf (w : Workflow) (saved : List (Run × Outcome Unit)) : List (Exchange calls) :=
  saved.map fun s => ⟨.saveRun w.id s.1.leadId s.1, s.2⟩

/-- The runs that could be stored. -/
def storedOf (saved : List (Run × Outcome Unit)) : List Run :=
  (saved.filter fun s => s.2.isOk).map (·.1)

/-- The call that folds runs into the statistics; there is none without runs. -/
def foldsOf (context : Context) (w : Workflow) (stored : List Run) (folded : Outcome Stats) :
    List (Exchange calls) :=
  if stored = [] then [] else [⟨.updateStats w.id stored context.settings.hoursPerRecord, folded⟩]

/-- What the closing entry says. -/
def closingText (name : String) (leads succeeded failed : Nat) : String :=
  s!"Workflow \"{name}\" executed on {leads} lead(s): {succeeded} succeeded, " ++ s!"{failed} failed"

/-- The call that closes a batch. -/
def closingOf (context : Context) (w : Workflow) (runs : List Run) (noted : Outcome Unit) :
    Exchange calls :=
  ⟨.audit context.actor .executed (closingText w.name runs.length (runs.countP (·.status == .success))
    (runs.countP (·.status == .failed))), noted⟩

/-- The books of a batch. -/
def booksOf (context : Context) (w : Workflow) (runs : List Run) (saved : List (Run × Outcome Unit))
    (folded : Outcome Stats) (noted : Outcome Unit) : List (Exchange calls) :=
  savesOf w saved ++ foldsOf context w (storedOf saved) folded ++ [closingOf context w runs noted]

namespace Engine

variable {τ σ : Type}

/-! ## Calls on the way -/

/-- Time goes by for the clock, and nothing else happens. -/
structure Idles (j j' : Journey τ σ) : Prop where
  world : j'.world = j.world
  time : j'.time = j.time
  calls : j'.calls = j.calls

/-- The calls gained on the way are all of one kind. -/
def Gains (P : Call → Prop) (j j' : Journey τ σ) : Prop :=
  ∃ made, j'.calls = j.calls ++ made ∧ ∀ x ∈ made, P x.2

namespace Gains

variable {P : Call → Prop} {j j₁ j₂ : Journey τ σ}

theorem refl (j : Journey τ σ) : Gains P j j := ⟨[], by simp, by simp⟩

theorem trans (h₁ : Gains P j j₁) (h₂ : Gains P j₁ j₂) : Gains P j j₂ := by
  obtain ⟨made₁, hcalls₁, hmade₁⟩ := h₁
  obtain ⟨made₂, hcalls₂, hmade₂⟩ := h₂
  refine ⟨made₁ ++ made₂, by rw [hcalls₂, hcalls₁, List.append_assoc], fun x hx => ?_⟩
  obtain hx | hx := List.mem_append.mp hx
  · exact hmade₁ x hx
  · exact hmade₂ x hx

end Gains

variable [Timeline τ]

/-! ## The course of a batch -/

/-- The time of a batch is used up. -/
def expired (deadline : τ) (j : Journey τ σ) : Bool :=
  Timeline.le (Timeline.sub deadline j.time) Timeline.zero

/-- Leads run to the end one after the other. -/
inductive Finishes (e : Engine τ σ) (w : Workflow) (deadline : τ) :
    List Lead → List Run → Journey τ σ → Journey τ σ → Prop where
  | nil (j : Journey τ σ) : Finishes e w deadline [] [] j j
  | cons {lead : Lead} {leads : List Lead} {run : Run} {runs : List Run} {j j₁ j₂ : Journey τ σ} :
      expired deadline j = false → e.runLead w deadline lead j = (some run, j₁) →
      Finishes e w deadline leads runs j₁ j₂ → Finishes e w deadline (lead :: leads) (run :: runs) j j₂

/-- No lead is left, or the time is used up before the next one, or while it is run.  No later lead
is run. -/
inductive Stops (e : Engine τ σ) (w : Workflow) (deadline : τ) :
    List Lead → Journey τ σ → Journey τ σ → Prop where
  | done (j : Journey τ σ) : Stops e w deadline [] j j
  | before {lead : Lead} {later : List Lead} {j : Journey τ σ} : expired deadline j = true →
      Stops e w deadline (lead :: later) j j
  | within {lead : Lead} {later : List Lead} {j j' : Journey τ σ} : expired deadline j = false →
      e.runLead w deadline lead j = (none, j') → Stops e w deadline (lead :: later) j j'

/-- Calls made one after the other outside of any step. -/
inductive Converses (e : Engine τ σ) : List (Exchange calls) → Journey τ σ → Journey τ σ → Prop where
  | nil (j : Journey τ σ) : Converses e [] j j
  | cons {c : Call} {answer : Outcome c.Reply} {es : List (Exchange calls)} {j j₁ j₂ : Journey τ σ} :
      e.callOnce c j = (answer, j₁) → Converses e es j₁ j₂ → Converses e (⟨c, answer⟩ :: es) j j₂

/-- The accounts of a batch that was cut behind its first `k` leads. -/
structure Balanced (e : Engine τ σ) (w : Workflow) (leads : List Lead) (j : Journey τ σ) (b : Batch)
    (j' : Journey τ σ) (k : Nat) (saved : List (Run × Outcome Unit)) (folded : Outcome Stats)
    (noted : Outcome Unit) : Prop where
  /-- there is one run for each lead, in order -/
  order : b.runs.map (fun r => (r.leadId, r.leadName)) = leads.map fun l => (l.id, l.name)
  /-- a finished run has one result for each step -/
  finished : k ≤ leads.length ∧
    ∀ r ∈ b.runs.take k, r.steps.map StepResult.label = w.steps.map Step.label
  /-- every other run was cut off -/
  cut : ∀ r ∈ b.runs.drop k,
    r.status = .failed ∧ r.steps = [] ∧ r.error = some "Batch deadline exceeded"
  /-- each finished run was stored once, in order -/
  stored : saved.map (·.1) = b.runs.take k
  /-- the steps came first, up to some step of the lead at the cut; then the books were written -/
  course : ∃ j₀ j₁ j₂,
    e.Finishes w (Timeline.add j.time (Timeline.ofSeconds e.context.settings.batchTimeout))
      (leads.take k) (b.runs.take k) j j₀ ∧
    e.Stops w (Timeline.add j.time (Timeline.ofSeconds e.context.settings.batchTimeout))
      (leads.drop k) j₀ j₁ ∧
    Idles j₁ j₂ ∧ e.Converses (booksOf e.context w b.runs saved folded noted) j₂ j'
  /-- no step has touched the books -/
  calls : ∃ made, (∀ c ∈ made, Call.isBookkeeping c = false) ∧
    j'.calls.map (·.2) = j.calls.map (·.2) ++ made ++
      (booksOf e.context w b.runs saved folded noted).map (·.call)

/-! ## Calls of the steps -/

/-- A step makes only calls that its task can make. -/
theorem runStep_gains {e : Engine τ σ} {P : Call → Prop} {lead : Lead} {step : Step}
    (hP : (e.task step lead e.context).Asks P) (deadline : τ) (j : Journey τ σ) :
    Gains P j (e.runStep lead deadline step j).2.2 := by
  unfold runStep
  dsimp only
  split
  · exact .refl j
  · split
    · exact Program.runWithin_asks e.outside _ hP j
    · exact Program.runWithin_asks e.outside _ hP j

theorem runSteps_gains {e : Engine τ σ} {P : Call → Prop} {lead : Lead} {steps : List Step}
    (hP : ∀ step ∈ steps, (e.task step lead e.context).Asks P) (deadline : τ) (s : RecordState)
    (j : Journey τ σ) : Gains P j (e.runSteps lead deadline steps s j).2 := by
  induction steps generalizing s j with
  | nil => exact .refl j
  | cons step rest ih =>
    obtain ⟨hfirst, hlater⟩ := List.forall_mem_cons.mp hP
    rw [runSteps]
    split
    · have hrest := ih hlater s j
      split <;> rename_i hrest' <;> rw [hrest'] at hrest <;> exact hrest
    · have hstep := runStep_gains hfirst deadline j
      split
      · rename_i result r j₁ heq
        rw [heq] at hstep
        have hrest := ih hlater (s.after step.kind r) j₁
        split <;> rename_i hrest' <;> rw [hrest'] at hrest <;> exact hstep.trans hrest
      · rename_i heq
        rw [heq] at hstep
        exact hstep

theorem runLead_gains {e : Engine τ σ} {P : Call → Prop} {w : Workflow} {deadline : τ} {lead : Lead}
    {o : Option Run} {j j₁ : Journey τ σ} (h : e.runLead w deadline lead j = (o, j₁))
    (hP : ∀ step ∈ w.steps, (e.task step lead e.context).Asks P) : Gains P j j₁ := by
  have hsteps := runSteps_gains hP deadline .fresh j.stamp.2
  unfold runLead at h
  dsimp only at h
  split at h
  · rename_i heq
    rw [heq] at hsteps
    obtain ⟨-, rfl⟩ := by simpa using h
    exact hsteps
  · rename_i heq
    rw [heq] at hsteps
    obtain ⟨-, rfl⟩ := by simpa using h
    exact hsteps

/-! ## Leads up to the cut -/

/-- The finished runs are those of the first leads, and the others are cut off. -/
theorem runLeads_finishes {e : Engine τ σ} {w : Workflow} {deadline : τ} {leads cut : List Lead}
    {runs : List Run} {j j₁ : Journey τ σ} (h : e.runLeads w deadline leads j = ((runs, cut), j₁)) :
    ∃ first j₀, leads = first ++ cut ∧ first.length = runs.length ∧
      e.Finishes w deadline first runs j j₀ ∧ e.Stops w deadline cut j₀ j₁ := by
  induction leads generalizing runs j with
  | nil =>
    obtain ⟨⟨rfl, rfl⟩, rfl⟩ := by simpa [runLeads] using h
    exact ⟨[], j, rfl, rfl, .nil j, .done j⟩
  | cons lead rest ih =>
    rw [runLeads] at h
    split at h
    · rename_i hexpired
      obtain ⟨⟨rfl, rfl⟩, rfl⟩ := by simpa using h
      exact ⟨[], j, rfl, rfl, .nil j, .before hexpired⟩
    · rename_i hleft
      have hleft : expired deadline j = false := by simpa [expired] using hleft
      split at h
      · rename_i j' hlead
        obtain ⟨⟨rfl, rfl⟩, rfl⟩ := by simpa using h
        exact ⟨[], j, rfl, rfl, .nil j, .within hleft hlead⟩
      · rename_i run j' hlead
        obtain ⟨⟨rfl, hcut⟩, hj⟩ := by simpa using h
        obtain ⟨first, j₀, hsplit, hlength, hfinishes, hstops⟩ := ih (Prod.ext (Prod.ext rfl hcut) hj)
        refine ⟨lead :: first, j₀, by rw [hsplit]; rfl, by simp [hlength], ?_, hstops⟩
        exact .cons hleft hlead hfinishes

section Leads

variable {e : Engine τ σ} {w : Workflow} {deadline : τ} {leads : List Lead} {runs : List Run}
  {j j₁ : Journey τ σ}

theorem Finishes.gains {P : Call → Prop} (h : e.Finishes w deadline leads runs j j₁)
    (hP : ∀ step lead, (e.task step lead e.context).Asks P) : Gains P j j₁ := by
  induction h with
  | nil j => exact .refl j
  | cons hleft hlead hrest ih => exact (runLead_gains hlead fun step _ => hP step _).trans ih

theorem Stops.gains {P : Call → Prop} (h : e.Stops w deadline leads j j₁)
    (hP : ∀ step lead, (e.task step lead e.context).Asks P) : Gains P j j₁ := by
  cases h with
  | done => exact .refl j
  | before => exact .refl j
  | within hleft hlead => exact runLead_gains hlead fun step _ => hP step _

theorem Finishes.order (h : e.Finishes w deadline leads runs j j₁) :
    runs.map (fun r => (r.leadId, r.leadName)) = leads.map fun l => (l.id, l.name) := by
  induction h with
  | nil j => rfl
  | cons hleft hlead hrest ih =>
    obtain ⟨s, j', hsteps, hid, hname, -⟩ := runLead_eq_some hlead
    simp [ih, hid, hname]

theorem Finishes.recorded (h : e.Finishes w deadline leads runs j j₁) :
    ∀ r ∈ runs, r.steps.map StepResult.label = w.steps.map Step.label ∧
      (r.status = .success ∨ r.status = .failed) := by
  induction h with
  | nil j => simp
  | cons hleft hlead hrest ih =>
    obtain ⟨s, j', hsteps, -, -, hstatus, -⟩ := runLead_eq_some hlead
    refine List.forall_mem_cons.mpr ⟨⟨runSteps_labels hsteps, ?_⟩, ih⟩
    rw [hstatus, RecordState.runStatus]
    split <;> simp

end Leads

/-! ## Leads behind the cut -/

/-- Leads that were cut off have runs that say so, and nothing is done for them. -/
theorem cutOffAll_spec (e : Engine τ σ) (w : Workflow) (leads : List Lead) (j : Journey τ σ) :
    (e.cutOffAll w leads j).1.map (fun r => (r.leadId, r.leadName)) =
        leads.map (fun l => (l.id, l.name)) ∧
      (∀ r ∈ (e.cutOffAll w leads j).1,
        r.status = .failed ∧ r.steps = [] ∧ r.error = some deadlineMessage) ∧
      Idles j (e.cutOffAll w leads j).2 := by
  induction leads generalizing j with
  | nil => exact ⟨rfl, by simp [cutOffAll], rfl, rfl, rfl⟩
  | cons lead rest ih =>
    obtain ⟨horder, hcut, hworld, htime, hcalls⟩ := ih (e.cutOff w lead j).2
    refine ⟨?_, ?_, hworld, htime, hcalls⟩
    · simpa [cutOffAll] using ⟨⟨rfl, rfl⟩, horder⟩
    · exact List.forall_mem_cons.mpr ⟨⟨rfl, rfl, rfl⟩, hcut⟩

/-! ## Writing the books -/

theorem Converses.append {e : Engine τ σ} {es₁ es₂ : List (Exchange calls)} {j j₁ j₂ : Journey τ σ}
    (h₁ : e.Converses es₁ j j₁) (h₂ : e.Converses es₂ j₁ j₂) : e.Converses (es₁ ++ es₂) j j₂ := by
  induction h₁ with
  | nil j => exact h₂
  | cons hcall _ ih => exact .cons hcall (ih h₂)

/-- A call outside of any step is made once, and waited for without a limit. -/
theorem callOnce_calls (e : Engine τ σ) (c : Call) (j : Journey τ σ) :
    (e.callOnce c j).2.calls.map (·.2) = j.calls.map (·.2) ++ ([c] : List calls.Call) := by
  obtain ⟨t, ht⟩ : ∃ t, Timeline.after none j.time (e.outside j.now c j.world).delay = some t := by
    unfold Timeline.after
    split <;> exact ⟨_, rfl⟩
  unfold callOnce Program.complete Program.perform
  simp only [Program.run, ht]
  cases (e.outside j.now c j.world).outcome <;> simp [Program.run, Course.noting]

theorem Converses.calls {e : Engine τ σ} {es : List (Exchange calls)} {j j₁ : Journey τ σ}
    (h : e.Converses es j j₁) : j₁.calls.map (·.2) = j.calls.map (·.2) ++ es.map (·.call) := by
  induction h with
  | nil j => simp
  | @cons c answer es j j₁ j₂ hcall _ ih =>
    have hmade := callOnce_calls e c j
    rw [hcall] at hmade
    rw [ih, hmade, List.append_assoc]
    rfl

theorem storeRuns_converses (e : Engine τ σ) (w : Workflow) (runs : List Run) (j : Journey τ σ) :
    ∃ saved : List (Run × Outcome Unit), saved.map (·.1) = runs ∧
      (e.storeRuns w runs j).1 = storedOf saved ∧
      e.Converses (savesOf w saved) j (e.storeRuns w runs j).2 := by
  induction runs generalizing j with
  | nil => exact ⟨[], rfl, rfl, .nil j⟩
  | cons run rest ih =>
    obtain ⟨answer, hanswer⟩ : ∃ answer : Outcome Unit,
        (e.callOnce (.saveRun w.id run.leadId run) j).1 = answer := ⟨_, rfl⟩
    obtain ⟨saved, hruns, hstored, hconverses⟩ := ih (e.callOnce (.saveRun w.id run.leadId run) j).2
    have hstore : e.storeRuns w (run :: rest) j =
        (storedOf ((run, answer) :: saved),
          (e.storeRuns w rest (e.callOnce (.saveRun w.id run.leadId run) j).2).2) := by
      cases answer <;> simp [storeRuns, hanswer, hstored, storedOf, Except.isOk, Except.toBool]
    refine ⟨(run, answer) :: saved, by simp [hruns], by rw [hstore], ?_⟩
    rw [hstore]
    exact .cons (Prod.ext hanswer rfl) hconverses

theorem foldStats_converses (e : Engine τ σ) (w : Workflow) (runs : List Run) (j : Journey τ σ) :
    ∃ folded : Outcome Stats,
      e.Converses (foldsOf e.context w runs folded) j (e.foldStats w runs j).2 := by
  cases runs with
  | nil => exact ⟨.ok Stats.zero, .nil j⟩
  | cons run rest =>
    obtain ⟨answer, hanswer⟩ : ∃ answer : Outcome Stats,
        (e.callOnce (.updateStats w.id (run :: rest) e.context.settings.hoursPerRecord) j).1 =
          answer := ⟨_, rfl⟩
    refine ⟨answer, ?_⟩
    rw [snd_foldStats e w j (List.cons_ne_nil run rest)]
    exact .cons (Prod.ext hanswer rfl) (.nil _)

/-! ## The whole batch -/

/-- Without skipped runs, the runs that did not succeed are those that failed. -/
theorem summaryText_eq (w : Workflow) {runs : List Run}
    (h : ∀ r ∈ runs, r.status = .success ∨ r.status = .failed) :
    summaryText w runs = closingText w.name runs.length (runs.countP (·.status == .success))
      (runs.countP (·.status == .failed)) := by
  have hcount : runs.length - runs.countP (·.status == .success) =
      runs.countP (·.status == .failed) := by
    rw [List.length_eq_countP_add_countP fun r : Run => r.status == .success, Nat.add_sub_cancel_left]
    refine List.countP_congr fun r hr => ?_
    obtain hs | hs := h r hr <;> simp [hs]
  unfold summaryText closingText
  rw [← hcount]

/-- The batch of any engine whose tasks leave the books alone is balanced. -/
theorem balanced_of_works {e : Engine τ σ} (he : ∀ step lead, Works (e.task step lead e.context))
    (w : Workflow) (lead : Lead) (rest : List Lead) (j : Journey τ σ) :
    ∃ k saved folded noted, e.Balanced w (lead :: rest) j (e.execute w (lead :: rest) j).1
      (e.execute w (lead :: rest) j).2 k saved folded noted := by
  obtain ⟨⟨⟨finished, cut⟩, j₁⟩, hrun⟩ : ∃ x,
      e.runLeads w (Timeline.add j.time (Timeline.ofSeconds e.context.settings.batchTimeout))
        (lead :: rest) j = x := ⟨_, rfl⟩
  obtain ⟨⟨cutRuns, j₂⟩, hcutOff⟩ : ∃ x, e.cutOffAll w cut j₁ = x := ⟨_, rfl⟩
  obtain ⟨⟨stored, j₃⟩, hstore⟩ : ∃ x, e.storeRuns w finished j₂ = x := ⟨_, rfl⟩
  obtain ⟨⟨w', j₄⟩, hfold⟩ : ∃ x, e.foldStats w stored j₃ = x := ⟨_, rfl⟩
  obtain ⟨⟨noted, j₅⟩, hclose⟩ : ∃ x, e.callOnce
      (.audit e.context.actor .executed (summaryText w (finished ++ cutRuns))) j₄ = x := ⟨_, rfl⟩
  have hexecute : e.execute w (lead :: rest) j = (⟨finished ++ cutRuns, w'⟩, j₅) := by
    simp [execute, process, hrun, hcutOff, hstore, hfold]
    rw [hrun, hcutOff, hclose]
  rw [hexecute]
  -- the leads
  obtain ⟨first, j₀, hsplit, hlength, hfinishes, hstops⟩ := runLeads_finishes hrun
  obtain ⟨hcutOrder, hcut, hidles⟩ := cutOffAll_spec e w cut j₁
  rw [hcutOff] at hcutOrder hcut hidles
  -- the books
  obtain ⟨saved, hsaved, hstored, hsaves⟩ := storeRuns_converses e w finished j₂
  rw [hstore] at hstored hsaves
  obtain ⟨folded, hfolds⟩ := foldStats_converses e w stored j₃
  rw [hfold] at hfolds
  subst hstored
  have hstatus : ∀ r ∈ finished ++ cutRuns, r.status = .success ∨ r.status = .failed := by
    intro r hr
    obtain hr | hr := List.mem_append.mp hr
    · exact (hfinishes.recorded r hr).2
    · exact .inr (hcut r hr).1
  rw [summaryText_eq w hstatus] at hclose
  have hbooks : e.Converses (booksOf e.context w (finished ++ cutRuns) saved folded noted) j₂ j₅ :=
    (hsaves.append hfolds).append (.cons hclose (.nil j₅))
  obtain ⟨made, hmade, hworks⟩ := (hfinishes.gains he).trans (hstops.gains he)
  have hfirst : (lead :: rest).take finished.length = first := by rw [hsplit, ← hlength, List.take_left]
  have hlast : (lead :: rest).drop finished.length = cut := by rw [hsplit, ← hlength, List.drop_left]
  refine ⟨finished.length, saved, folded, noted, ?_, ⟨?_, ?_⟩, ?_, ?_, ?_, ?_⟩
  · rw [List.map_append, hfinishes.order, hcutOrder, ← List.map_append, ← hsplit]
  · rw [hsplit, ← hlength, List.length_append]
    exact Nat.le_add_right _ _
  · rw [List.take_left]
    exact fun r hr => (hfinishes.recorded r hr).1
  · rw [List.drop_left]
    exact hcut
  · rw [List.take_left]
    exact hsaved
  · rw [hfirst, hlast, List.take_left]
    exact ⟨j₀, j₁, j₂, hfinishes, hstops, hidles, hbooks⟩
  · refine ⟨made.map (·.2), List.forall_mem_map.mpr hworks, ?_⟩
    rw [hbooks.calls, hidles.calls, hmade, List.map_append]

/-- However the calls are answered, and wherever the deadline cuts it off, a batch is balanced. -/
theorem execute_balanced (outside : Outside calls τ σ) (context : Context) (runId : Nat → String)
    (w : Workflow) (lead : Lead) (rest : List Lead) (j : Journey τ σ) :
    ∃ k saved folded noted, (builtIn outside context runId).Balanced w (lead :: rest) j
      ((builtIn outside context runId).execute w (lead :: rest) j).1
      ((builtIn outside context runId).execute w (lead :: rest) j).2 k saved folded noted :=
  balanced_of_works (fun step lead => task_works step lead _) w lead rest j

end Engine

end LeadFlow.Execution
