import LeadFlow.Proofs.Execution.Accounting
import LeadFlow.Proofs.Program.Effects

set_option autoImplicit false

/-!
# Execution: a batch by a view of the outside

Where the calls of a batch are answered by a view of the outside, the whole batch goes by that view:
its results are the same, and so is what it makes of the view.  The calls are those of the steps, and
the books: storing runs under the ids that are handed out next, folding them into the statistics, and
the closing entry.

Main statement: `execute_viewed`.
-/

namespace LeadFlow.Execution

namespace Engine

variable {τ σ : Type} [Timeline τ]

/-! ## Ids of runs -/

theorem run_issued {α : Type} (outside : Outside calls τ σ) (stop : Option τ) (p : Program calls α)
    (j : Journey τ σ) : (p.run outside stop j).2.issued = j.issued := by
  induction p generalizing j with
  | done a => rfl
  | fail e => rfl
  | now next ih => exact ih _ j
  | pause s next ih =>
    simp only [Program.run]
    split
    · exact ih _
    · rfl
  | call c next ih =>
    simp only [Program.run]
    split
    · exact ih _ _
    · rfl

theorem runStep_issued (e : Engine τ σ) (lead : Lead) (deadline : τ) (step : Step) (j : Journey τ σ) :
    (e.runStep lead deadline step j).2.2.issued = j.issued := by
  have hwithin : ∀ limit : τ,
      ((e.task step lead e.context).runWithin e.outside limit j).2.issued = j.issued := by
    intro limit
    unfold Program.runWithin
    split
    · rfl
    · exact run_issued _ _ _ j
  unfold runStep
  dsimp only
  split
  · rfl
  · split <;> exact hwithin _

theorem runSteps_issued (e : Engine τ σ) (lead : Lead) (deadline : τ) (steps : List Step)
    (s : RecordState) (j : Journey τ σ) :
    (e.runSteps lead deadline steps s j).2.issued = j.issued := by
  induction steps generalizing s j with
  | nil => rfl
  | cons step rest ih =>
    rw [runSteps]
    split
    · have hrest := ih s j
      split <;> rename_i heq <;> rw [heq] at hrest <;> exact hrest
    · have hstep := runStep_issued e lead deadline step j
      split
      · rename_i result r j₁ heq
        rw [heq] at hstep
        have hrest := (ih (s.after step.kind r) j₁).trans hstep
        split <;> rename_i heq' <;> rw [heq'] at hrest <;> exact hrest
      · rename_i heq
        rw [heq] at hstep
        exact hstep

/-- A finished run has the next id. -/
theorem runLead_id {e : Engine τ σ} {w : Workflow} {deadline : τ} {lead : Lead} {run : Run}
    {j j' : Journey τ σ} (h : e.runLead w deadline lead j = (some run, j')) :
    run.id = e.runId j.issued ∧ j'.issued = j.issued + 1 := by
  have hsteps := runSteps_issued e lead deadline w.steps .fresh j.stamp.2
  unfold runLead at h
  dsimp only at h
  split at h
  · cases h
  · rename_i steps s j₁ heq
    rw [heq] at hsteps
    have hissued : j₁.issued = j.issued := hsteps
    cases h
    exact ⟨congrArg e.runId hissued, congrArg (· + 1) hissued⟩

/-- Finished runs have the ids that are handed out one after the other. -/
theorem Finishes.ids {e : Engine τ σ} {w : Workflow} {deadline : τ} {leads : List Lead}
    {runs : List Run} {j j' : Journey τ σ} (h : e.Finishes w deadline leads runs j j') :
    runs.map Run.id = (List.range' j.issued runs.length).map e.runId := by
  induction h with
  | nil j => rfl
  | cons hleft hlead hrest ih =>
    obtain ⟨hid, hissued⟩ := runLead_id hlead
    rw [List.map_cons, List.length_cons, List.range'_succ, List.map_cons, hid, ih, hissued]

/-! ## Going by a view -/

theorem cutOffAll_viewed (view : σ → σ) (e : Engine τ σ) (w : Workflow) (leads : List Lead)
    (j : Journey τ σ) :
    e.cutOffAll w leads (j.viewed view) =
      ((e.cutOffAll w leads j).1, (e.cutOffAll w leads j).2.viewed view) := by
  induction leads generalizing j with
  | nil => rfl
  | cons lead rest ih =>
    have hcut : e.cutOff w lead (j.viewed view) =
        ((e.cutOff w lead j).1, (e.cutOff w lead j).2.viewed view) := rfl
    rw [cutOffAll, cutOffAll, hcut]
    dsimp only
    rw [ih]

section Viewing

variable {e : Engine τ σ} {view : σ → σ} {inv : σ → Prop} {P : Call → Prop}
  (h : Program.GoesBy (I := calls) e.outside view inv P)
  (htask : ∀ step lead, (e.task step lead e.context).Asks P)

include h htask

theorem runStep_viewed (lead : Lead) (deadline : τ) (step : Step) (j : Journey τ σ)
    (hj : inv j.world) :
    e.runStep lead deadline step (j.viewed view) =
        ((e.runStep lead deadline step j).1, (e.runStep lead deadline step j).2.1,
          (e.runStep lead deadline step j).2.2.viewed view) ∧
      inv (e.runStep lead deadline step j).2.2.world := by
  have hrun := fun limit => Program.runWithin_viewed h limit (htask step lead) j hj
  have hkeeps := fun limit => Program.runWithin_keeps h.keeps limit (htask step lead) j hj
  have htime : (j.viewed view).time = j.time := rfl
  unfold runStep
  dsimp only
  rw [htime]
  split
  · exact ⟨rfl, hj⟩
  · rw [hrun]
    dsimp only
    split <;> exact ⟨rfl, hkeeps _⟩

theorem runSteps_viewed (lead : Lead) (deadline : τ) (steps : List Step) (s : RecordState)
    (j : Journey τ σ) (hj : inv j.world) :
    e.runSteps lead deadline steps s (j.viewed view) =
        ((e.runSteps lead deadline steps s j).1,
          (e.runSteps lead deadline steps s j).2.viewed view) ∧
      inv (e.runSteps lead deadline steps s j).2.world := by
  induction steps generalizing s j with
  | nil => exact ⟨rfl, hj⟩
  | cons step rest ih =>
    rw [runSteps, runSteps]
    cases s.latched with
    | true =>
      obtain ⟨hrest, hinv⟩ := ih s j hj
      rw [hrest]
      obtain ⟨⟨o, j₁⟩, hx⟩ : ∃ x, e.runSteps lead deadline rest s j = x := ⟨_, rfl⟩
      rw [hx] at hinv ⊢
      cases o <;> exact ⟨rfl, hinv⟩
    | false =>
      obtain ⟨hstep, hinv⟩ := runStep_viewed h htask lead deadline step j hj
      rw [hstep]
      obtain ⟨⟨result, r, j₁⟩, hx⟩ : ∃ x, e.runStep lead deadline step j = x := ⟨_, rfl⟩
      rw [hx] at hinv ⊢
      cases result with
      | none => exact ⟨rfl, hinv⟩
      | some result =>
        cases r with
        | none => exact ⟨rfl, hinv⟩
        | some r =>
          obtain ⟨hrest, hinv⟩ := ih (s.after step.kind r) j₁ hinv
          obtain ⟨⟨o, j₂⟩, hx⟩ : ∃ x, e.runSteps lead deadline rest (s.after step.kind r) j₁ = x :=
            ⟨_, rfl⟩
          simp only [Bool.false_eq_true, if_false]
          rw [hrest]
          rw [hx] at hinv ⊢
          cases o <;> exact ⟨rfl, hinv⟩

theorem runLead_viewed (w : Workflow) (deadline : τ) (lead : Lead) (j : Journey τ σ)
    (hj : inv j.world) :
    e.runLead w deadline lead (j.viewed view) =
        ((e.runLead w deadline lead j).1, (e.runLead w deadline lead j).2.viewed view) ∧
      inv (e.runLead w deadline lead j).2.world := by
  obtain ⟨hsteps, hinv⟩ := runSteps_viewed h htask lead deadline w.steps .fresh j.stamp.2 hj
  have hstamp : (j.viewed view).stamp = (j.stamp.1, j.stamp.2.viewed view) := rfl
  unfold runLead
  rw [hstamp]
  dsimp only
  rw [hsteps]
  obtain ⟨⟨o, j₁⟩, hx⟩ : ∃ x, e.runSteps lead deadline w.steps .fresh j.stamp.2 = x := ⟨_, rfl⟩
  rw [hx] at hinv ⊢
  cases o <;> exact ⟨rfl, hinv⟩

theorem runLeads_viewed (w : Workflow) (deadline : τ) (leads : List Lead) (j : Journey τ σ)
    (hj : inv j.world) :
    e.runLeads w deadline leads (j.viewed view) =
        ((e.runLeads w deadline leads j).1, (e.runLeads w deadline leads j).2.viewed view) ∧
      inv (e.runLeads w deadline leads j).2.world := by
  induction leads generalizing j with
  | nil => exact ⟨rfl, hj⟩
  | cons lead rest ih =>
    have htime : (j.viewed view).time = j.time := rfl
    rw [runLeads, runLeads, htime]
    split
    · exact ⟨rfl, hj⟩
    · obtain ⟨hlead, hinv⟩ := runLead_viewed h htask w deadline lead j hj
      rw [hlead]
      obtain ⟨⟨o, j₁⟩, hx⟩ : ∃ x, e.runLead w deadline lead j = x := ⟨_, rfl⟩
      rw [hx] at hinv ⊢
      cases o with
      | none => exact ⟨rfl, hinv⟩
      | some run =>
        obtain ⟨hrest, hinv⟩ := ih j₁ hinv
        dsimp only
        rw [hrest]
        exact ⟨rfl, hinv⟩

omit htask

/-! ## The books by a view -/

theorem callOnce_viewed {c : Call} (hc : P c) (j : Journey τ σ) (hj : inv j.world) :
    e.callOnce c (j.viewed view) = ((e.callOnce c j).1, (e.callOnce c j).2.viewed view) ∧
      inv (e.callOnce c j).2.world :=
  Program.complete_viewed h (Program.keepsTo_perform hc) j hj

theorem storeRuns_viewed (w : Workflow) {runs : List Run}
    (hruns : ∀ run ∈ runs, P (.saveRun w.id run.leadId run)) (j : Journey τ σ) (hj : inv j.world) :
    e.storeRuns w runs (j.viewed view) =
        ((e.storeRuns w runs j).1, (e.storeRuns w runs j).2.viewed view) ∧
      inv (e.storeRuns w runs j).2.world := by
  induction runs generalizing j with
  | nil => exact ⟨rfl, hj⟩
  | cons run rest ih =>
    obtain ⟨hrun, hrest⟩ := List.forall_mem_cons.mp hruns
    obtain ⟨hcall, hinv⟩ := callOnce_viewed h hrun j hj
    obtain ⟨hstored, hinv⟩ := ih hrest (e.callOnce (.saveRun w.id run.leadId run) j).2 hinv
    rw [storeRuns, storeRuns, hcall]
    dsimp only
    rw [hstored]
    dsimp only
    cases (e.callOnce (.saveRun w.id run.leadId run) j).1 <;> exact ⟨rfl, hinv⟩

theorem foldStats_viewed (w : Workflow) (runs : List Run)
    (hfold : P (.updateStats w.id runs e.context.settings.hoursPerRecord)) (j : Journey τ σ)
    (hj : inv j.world) :
    e.foldStats w runs (j.viewed view) =
        ((e.foldStats w runs j).1, (e.foldStats w runs j).2.viewed view) ∧
      inv (e.foldStats w runs j).2.world := by
  obtain ⟨hcall, hinv⟩ := callOnce_viewed h hfold j hj
  unfold foldStats
  split
  · exact ⟨rfl, hj⟩
  · rw [hcall]
    obtain ⟨⟨o, j₁⟩, hx⟩ : ∃ x,
        e.callOnce (.updateStats w.id runs e.context.settings.hoursPerRecord) j = x := ⟨_, rfl⟩
    rw [hx] at hinv ⊢
    cases o <;> exact ⟨rfl, hinv⟩

include htask

/-- The batch of a workflow goes by a view of the outside, if the calls of its steps and its books
do. -/
theorem execute_viewed (w : Workflow) (leads : List Lead) (j : Journey τ σ) (hj : inv j.world)
    (hsave : ∀ n leadId run, j.issued ≤ n → run.id = e.runId n → P (.saveRun w.id leadId run))
    (hfold : ∀ runs hours, P (.updateStats w.id runs hours))
    (hclose : ∀ details, P (.audit e.context.actor .executed details)) :
    e.execute w leads (j.viewed view) =
        ((e.execute w leads j).1, (e.execute w leads j).2.viewed view) ∧
      inv (e.execute w leads j).2.world := by
  unfold execute process
  split
  · exact ⟨rfl, hj⟩
  · have htime : (j.viewed view).time = j.time := rfl
    dsimp only
    rw [htime]
    generalize Timeline.add j.time (Timeline.ofSeconds e.context.settings.batchTimeout) = deadline
    obtain ⟨hleads, hinv⟩ := runLeads_viewed h htask w deadline leads j hj
    rw [hleads]
    obtain ⟨⟨⟨finished, cut⟩, j₁⟩, hrun⟩ : ∃ x, e.runLeads w deadline leads j = x := ⟨_, rfl⟩
    obtain ⟨first, j₀, -, -, hfinishes, -⟩ := runLeads_finishes hrun
    rw [hrun] at hinv ⊢
    dsimp only at hinv ⊢
    rw [cutOffAll_viewed view e]
    have hinv₂ : inv (e.cutOffAll w cut j₁).2.world := by
      rw [(cutOffAll_spec e w cut j₁).2.2.world]
      exact hinv
    obtain ⟨⟨cutRuns, j₂⟩, hcut⟩ : ∃ x, e.cutOffAll w cut j₁ = x := ⟨_, rfl⟩
    rw [hcut] at hinv₂ ⊢
    dsimp only at hinv₂ ⊢
    have hruns : ∀ run ∈ finished, P (.saveRun w.id run.leadId run) := by
      intro run hmem
      have hid : run.id ∈ finished.map Run.id := List.mem_map_of_mem hmem
      rw [hfinishes.ids] at hid
      obtain ⟨n, hn, hid⟩ := List.mem_map.mp hid
      exact hsave n _ run (List.mem_range'_1.mp hn).1 hid.symm
    obtain ⟨hstore, hinv₃⟩ := storeRuns_viewed h w hruns j₂ hinv₂
    rw [hstore]
    obtain ⟨⟨stored, j₃⟩, hx⟩ : ∃ x, e.storeRuns w finished j₂ = x := ⟨_, rfl⟩
    rw [hx] at hinv₃ ⊢
    dsimp only at hinv₃ ⊢
    obtain ⟨hstats, hinv₄⟩ := foldStats_viewed h w stored (hfold _ _) j₃ hinv₃
    rw [hstats]
    obtain ⟨⟨w', j₄⟩, hx⟩ : ∃ x, e.foldStats w stored j₃ = x := ⟨_, rfl⟩
    rw [hx] at hinv₄ ⊢
    dsimp only at hinv₄ ⊢
    obtain ⟨hcall, hinv₅⟩ := callOnce_viewed h (hclose (summaryText w (finished ++ cutRuns))) j₄ hinv₄
    rw [hcall]
    exact ⟨rfl, hinv₅⟩

end Viewing

end Engine

end LeadFlow.Execution
