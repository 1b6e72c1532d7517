import LeadFlow.Proofs.Execution.Accounting

set_option autoImplicit false

/-!
# Execution: leads at the end of a batch

A batch works through its leads from the front, so leads that are added at its end come after all that
is done for the others.  Where the batch is cut off before it reaches them, they are cut off too, behind
the others.

Main statement: `execute_append`.
-/

namespace LeadFlow.Execution

namespace Engine

variable {τ σ : Type} [Timeline τ]

/-! ## Leads -/

section Leads

variable {e : Engine τ σ} {w : Workflow} {deadline : τ} {leads : List Lead} {runs : List Run}
  {j j₁ : Journey τ σ}

/-- Once all leads are finished, the later ones are run from there. -/
theorem runLeads_append_of_finished (h : e.runLeads w deadline leads j = ((runs, []), j₁))
    (later : List Lead) :
    e.runLeads w deadline (leads ++ later) j =
      ((runs ++ (e.runLeads w deadline later j₁).1.1, (e.runLeads w deadline later j₁).1.2),
        (e.runLeads w deadline later j₁).2) := by
  induction leads generalizing runs j with
  | nil =>
    obtain ⟨rfl, rfl⟩ : [] = runs ∧ j = j₁ := by simpa [runLeads] using h
    rfl
  | cons lead rest ih =>
    rw [runLeads] at h
    rw [List.cons_append, runLeads]
    split at h
    · simp at h
    · rename_i hleft
      rw [if_neg hleft]
      cases hlead : e.runLead w deadline lead j with
      | mk finished j' =>
        rw [hlead] at h
        cases finished with
        | none => simp at h
        | some run =>
          obtain ⟨⟨rfl, hcut⟩, hj⟩ := by simpa using h
          dsimp only
          rw [ih (Prod.ext (Prod.ext rfl hcut) hj)]
          rfl

/-- Once a lead is cut off, the later ones are cut off behind it. -/
theorem runLeads_append_of_cut {lead : Lead} {cut : List Lead}
    (h : e.runLeads w deadline leads j = ((runs, lead :: cut), j₁)) (later : List Lead) :
    e.runLeads w deadline (leads ++ later) j = ((runs, lead :: cut ++ later), j₁) := by
  induction leads generalizing runs j with
  | nil => simp [runLeads] at h
  | cons first rest ih =>
    rw [runLeads] at h
    rw [List.cons_append, runLeads]
    split at h
    · rename_i hexpired
      obtain ⟨⟨rfl, rfl, rfl⟩, rfl⟩ := by simpa using h
      rw [if_pos hexpired]
      rfl
    · rename_i hleft
      rw [if_neg hleft]
      cases hlead : e.runLead w deadline first j with
      | mk finished j' =>
        rw [hlead] at h
        cases finished with
        | none =>
          obtain ⟨⟨rfl, rfl, rfl⟩, rfl⟩ := by simpa using h
          rfl
        | some run =>
          obtain ⟨⟨rfl, hcut⟩, hj⟩ := by simpa using h
          dsimp only
          rw [ih (Prod.ext (Prod.ext rfl hcut) hj)]

/-- Running leads makes calls behind those already made. -/
theorem runLeads_calls (e : Engine τ σ) (w : Workflow) (deadline : τ) (leads : List Lead)
    (j : Journey τ σ) : j.calls <+: (e.runLeads w deadline leads j).2.calls := by
  obtain ⟨⟨⟨runs, cut⟩, j₁⟩, hrun⟩ : ∃ x, e.runLeads w deadline leads j = x := ⟨_, rfl⟩
  obtain ⟨first, j₀, -, -, hfinishes, hstops⟩ := runLeads_finishes hrun
  have hany : ∀ step lead, (e.task step lead e.context).Asks fun _ => True :=
    fun step lead => Program.asks_any _
  obtain ⟨made, hmade, -⟩ := (hfinishes.gains hany).trans (hstops.gains hany)
  rw [hrun, hmade]
  exact List.prefix_append _ _

/-- The runs of leads that were cut off come in order, and those of the first ones do not depend on the
others. -/
theorem cutOffAll_append (e : Engine τ σ) (w : Workflow) (leads later : List Lead) (j : Journey τ σ) :
    (e.cutOffAll w (leads ++ later) j).1 =
      (e.cutOffAll w leads j).1 ++ (e.cutOffAll w later (e.cutOffAll w leads j).2).1 := by
  induction leads generalizing j with
  | nil => rfl
  | cons lead rest ih =>
    rw [List.cons_append, cutOffAll, cutOffAll]
    dsimp only
    rw [ih, List.cons_append]

end Leads

/-! ## The steps of a batch -/

/-- The runs of a batch without its books. -/
theorem runs_execute (e : Engine τ σ) (w : Workflow) (leads : List Lead) (j : Journey τ σ) :
    (e.execute w leads j).1.runs = (e.process w leads j).1.1 ++ (e.process w leads j).1.2 := by
  unfold execute
  split
  · rename_i hempty
    rw [List.isEmpty_iff.mp hempty]
    rfl
  · rfl

theorem length_process (e : Engine τ σ) (w : Workflow) (leads : List Lead) (j : Journey τ σ) :
    ((e.process w leads j).1.1 ++ (e.process w leads j).1.2).length = leads.length := by
  unfold process
  dsimp only
  generalize Timeline.add j.time (Timeline.ofSeconds e.context.settings.batchTimeout) = deadline
  obtain ⟨⟨⟨finished, cut⟩, j₁⟩, hrun⟩ : ∃ x, e.runLeads w deadline leads j = x := ⟨_, rfl⟩
  obtain ⟨first, j₀, hsplit, hlength, -, -⟩ := runLeads_finishes hrun
  have hcut := congrArg List.length (cutOffAll_spec e w cut j₁).1
  rw [List.length_map, List.length_map] at hcut
  rw [hrun, hsplit, List.length_append, List.length_append, hlength, hcut]

/-- The steps of a batch go the same way with more leads at its end, and only go on behind it. -/
theorem process_append (e : Engine τ σ) (w : Workflow) (leads later : List Lead) (j : Journey τ σ) :
    ((e.process w leads j).1.1 ++ (e.process w leads j).1.2 <+:
        (e.process w (leads ++ later) j).1.1 ++ (e.process w (leads ++ later) j).1.2) ∧
      (e.process w leads j).2.calls <+: (e.process w (leads ++ later) j).2.calls := by
  unfold process
  dsimp only
  generalize Timeline.add j.time (Timeline.ofSeconds e.context.settings.batchTimeout) = deadline
  obtain ⟨⟨⟨finished, cut⟩, j₁⟩, hrun⟩ : ∃ x, e.runLeads w deadline leads j = x := ⟨_, rfl⟩
  have hidle := fun cut j => (cutOffAll_spec e w cut j).2.2.calls
  rw [hrun]
  cases cut with
  | nil =>
    rw [runLeads_append_of_finished hrun later]
    dsimp only
    rw [hidle, hidle]
    constructor
    · rw [cutOffAll, List.append_nil, List.append_assoc]
      exact List.prefix_append _ _
    · exact runLeads_calls e w deadline later j₁
  | cons lead cut =>
    rw [runLeads_append_of_cut hrun later]
    dsimp only
    rw [hidle, hidle]
    constructor
    · rw [cutOffAll_append, ← List.append_assoc]
      exact List.prefix_append _ _
    · exact List.prefix_refl _

/-! ## The calls of steps -/

/-- The calls that the steps of a batch make, each with its time: all but those for its books. -/
def stepCalls (e : Engine τ σ) (w : Workflow) (leads : List Lead) (j : Journey τ σ) :
    List (τ × calls.Call) :=
  ((e.execute w leads j).2.calls.drop j.calls.length).filter fun c => !c.2.isBookkeeping

/-- Calls for the books. -/
abbrev KeepsBooks (j j' : Journey τ σ) : Prop := Gains (fun c => c.isBookkeeping = true) j j'

theorem callOnce_books (e : Engine τ σ) {c : Call} (hc : c.isBookkeeping = true) (j : Journey τ σ) :
    KeepsBooks j (e.callOnce c j).2 := by
  have hasks : (Program.perform (I := calls) c).Asks fun c : Call => c.isBookkeeping = true :=
    Program.keepsTo_perform hc
  exact Program.complete_asks e.outside hasks j

theorem storeRuns_books (e : Engine τ σ) (w : Workflow) (runs : List Run) (j : Journey τ σ) :
    KeepsBooks j (e.storeRuns w runs j).2 := by
  induction runs generalizing j with
  | nil => exact .refl j
  | cons run rest ih =>
    have hsave := callOnce_books e (c := .saveRun w.id run.leadId run) rfl j
    have hrest := ih (e.callOnce (.saveRun w.id run.leadId run) j).2
    rw [snd_storeRuns_cons]
    exact hsave.trans hrest

theorem foldStats_books (e : Engine τ σ) (w : Workflow) (runs : List Run) (j : Journey τ σ) :
    KeepsBooks j (e.foldStats w runs j).2 := by
  cases runs with
  | nil => exact .refl j
  | cons run rest =>
    rw [snd_foldStats e w j (List.cons_ne_nil run rest)]
    exact callOnce_books e rfl j

/-- Behind its steps a batch only keeps its books. -/
theorem execute_books (e : Engine τ σ) (w : Workflow) (leads : List Lead) (j : Journey τ σ) :
    KeepsBooks (e.process w leads j).2 (e.execute w leads j).2 := by
  unfold execute
  split
  · rename_i hempty
    rw [List.isEmpty_iff.mp hempty]
    exact .refl j
  · obtain ⟨⟨⟨finished, cutRuns⟩, j₁⟩, hprocess⟩ : ∃ x, e.process w leads j = x := ⟨_, rfl⟩
    rw [hprocess]
    dsimp only
    have hstored := storeRuns_books e w finished j₁
    have hfolded := foldStats_books e w (e.storeRuns w finished j₁).1 (e.storeRuns w finished j₁).2
    exact (hstored.trans hfolded).trans (callOnce_books e rfl _)

/-- The calls of the steps are those made before the books, if no step keeps books itself. -/
theorem stepCalls_eq {e : Engine τ σ} (he : ∀ step lead, Works (e.task step lead e.context))
    (w : Workflow) (leads : List Lead) (j : Journey τ σ) :
    j.calls ++ e.stepCalls w leads j = (e.process w leads j).2.calls := by
  obtain ⟨books, hbooks, hbook⟩ := execute_books e w leads j
  have hsteps : Gains (fun c => c.isBookkeeping = false) j (e.process w leads j).2 := by
    unfold process
    dsimp only
    generalize Timeline.add j.time (Timeline.ofSeconds e.context.settings.batchTimeout) = deadline
    obtain ⟨⟨⟨finished, cut⟩, j₁⟩, hrun⟩ : ∃ x, e.runLeads w deadline leads j = x := ⟨_, rfl⟩
    obtain ⟨first, j₀, -, -, hfinishes, hstops⟩ := runLeads_finishes hrun
    obtain ⟨made, hcalls, hmade⟩ := (hfinishes.gains he).trans (hstops.gains he)
    rw [hrun]
    exact ⟨made, by rw [(cutOffAll_spec e w cut j₁).2.2.calls, hcalls], hmade⟩
  obtain ⟨made, hcalls, hmade⟩ := hsteps
  have hkept : made.filter (fun c => !c.2.isBookkeeping) = made :=
    List.filter_eq_self.mpr fun c hc => by simp [hmade c hc]
  have hleft : books.filter (fun c => !c.2.isBookkeeping) = [] :=
    List.filter_eq_nil_iff.mpr fun c hc => by simp [hbook c hc]
  unfold stepCalls
  rw [hbooks, hcalls, List.append_assoc, List.drop_left, List.filter_append, hkept, hleft, List.append_nil]

/-! ## Leads at the end -/

/-- With more leads at its end, a batch begins with the same results, and its steps with the same calls at
the same times. -/
theorem execute_append (outside : Outside calls τ σ) (context : Context) (runId : Nat → String)
    (w : Workflow) (leads later : List Lead) (j : Journey τ σ) :
    ((builtIn outside context runId).execute w (leads ++ later) j).1.runs.take leads.length =
        ((builtIn outside context runId).execute w leads j).1.runs ∧
      (builtIn outside context runId).stepCalls w leads j <+:
        (builtIn outside context runId).stepCalls w (leads ++ later) j := by
  generalize he : builtIn outside context runId = e
  have hworks : ∀ step lead, Works (e.task step lead e.context) := by
    rw [← he]
    exact fun step lead => task_works step lead context
  obtain ⟨hruns, hcalls⟩ := process_append e w leads later j
  constructor
  · rw [runs_execute, runs_execute, ← length_process e w leads j]
    exact (List.prefix_iff_eq_take.mp hruns).symm
  · rw [← stepCalls_eq hworks, ← stepCalls_eq hworks] at hcalls
    exact (List.prefix_append_right_inj j.calls).mp hcalls

end Engine

end LeadFlow.Execution
