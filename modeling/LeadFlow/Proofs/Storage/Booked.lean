import LeadFlow.Proofs.Execution.Viewed
import LeadFlow.Proofs.Storage.Ledger
import LeadFlow.Storage.Execute
import Mathlib.Data.List.Forall2

set_option autoImplicit false

/-!
# Storage: an execution in the books

An execution leaves its session open.  In the books it adds one row for each run that was not cut off,
counts these in the statistics of its workflow, and adds one entry.  The steps change nothing there,
whatever they do to leads, messages and the audit log.

Main statement: `execute_booked`.
-/

namespace LeadFlow

/-- The run was cut off by the deadline of its batch. -/
def Run.isCutOff (r : Run) : Bool := r.steps.isEmpty && r.error == some Execution.deadlineMessage

/-- The runs that were not cut off. -/
def finishedOf (runs : List Run) : List Run := runs.filter fun r => !r.isCutOff

end LeadFlow

namespace LeadFlow.Storage

open Execution

/-! ## What is in the books -/

/-- The row is that of a run of a workflow for an actor. -/
def ExecutionRow.Records (actor workflowId : String) (run : Run) (row : ExecutionRow) : Prop :=
  ∃ stamp : Stamp, stamp.id = run.id ∧ row = executionRow actor workflowId run.leadId run stamp

/-- The workflow has statistics, and its figures are not negative. -/
def WorkflowRow.IsCounted (r : WorkflowRow) : Prop :=
  ∃ stats, r.statistics = .ok stats ∧ 0 ≤ stats.leadsProcessed ∧ 0 ≤ stats.timeSavedHrs

/-- A workflow that has not counted anything has figures. -/
theorem WorkflowRow.IsCounted.of_zero {r : WorkflowRow} (h : r.statistics = .ok .zero) : r.IsCounted := by
  refine ⟨_, h, ?_, ?_⟩
  · decide
  · decide +kernel

/-- So many leads are counted for the workflow of an id, and another one is left alone. -/
structure WorkflowRow.Credited (workflowId : String) (leads : Nat) (before after : WorkflowRow) : Prop where
  id : after.id = before.id
  counted : before.id = workflowId → ∀ stats, before.statistics = .ok stats →
    ∃ stats', after.statistics = .ok stats' ∧ stats'.leadsProcessed = stats.leadsProcessed + leads
  others : before.id ≠ workflowId → after = before
  sound : before.IsCounted → after.IsCounted

/-- The books after an execution: a row for each run that was not cut off, as many leads counted for the
workflow, and one entry of the actor. -/
structure Books.Booked (books : Books) (actor workflowId : String) (runs : List Run) (after : Books) :
    Prop where
  executions : ∃ rows, after.executions = books.executions ++ rows ∧
    List.Forall₂ (ExecutionRow.Records actor workflowId) (finishedOf runs) rows
  workflows : List.Forall₂ (WorkflowRow.Credited workflowId (finishedOf runs).length) books.workflows
    after.workflows
  closing : ∃ entry, after.closings = books.closings ++ [entry] ∧ entry.actor = actor

/-- Every new row is that of a run. -/
theorem exists_run_of_mem {actor workflowId : String} {runs : List Run} {rows : List ExecutionRow}
    (h : List.Forall₂ (ExecutionRow.Records actor workflowId) runs rows) {row : ExecutionRow}
    (hrow : row ∈ rows) : ∃ run ∈ runs, ExecutionRow.Records actor workflowId run row := by
  induction h with
  | nil => cases hrow
  | cons hfirst hrest ih =>
    obtain rfl | hrow := List.mem_cons.mp hrow
    · exact ⟨_, List.mem_cons_self, hfirst⟩
    · obtain ⟨run, hmem, hrecords⟩ := ih hrow
      exact ⟨run, List.mem_cons_of_mem _ hmem, hrecords⟩

/-- Nothing is counted. -/
theorem WorkflowRow.credited_zero (workflowId : String) (r : WorkflowRow) : r.Credited workflowId 0 r :=
  ⟨rfl, fun _ stats hstats => ⟨stats, hstats, (Int.add_zero _).symm⟩, fun _ => rfl, fun h => h⟩

/-- New statistics that can be read and have counted so many leads more. -/
theorem credited_folded {rows : List WorkflowRow} {row : WorkflowRow} {stats after : Stats} {leads : Nat}
    (hunique : (rows.map (·.id)).Nodup) (hrow : row ∈ rows) (hstats : row.statistics = .ok stats)
    (hleads : after.leadsProcessed = stats.leadsProcessed + leads) (hprocessed : 0 ≤ stats.leadsProcessed)
    (hhours : 0 ≤ after.timeSavedHrs) (now : Calendar.Moment) :
    List.Forall₂ (WorkflowRow.Credited row.id leads) rows
      (replaced .workflows row.id (row.folded after now) rows) := by
  have hfolded : (row.folded after now).statistics = .ok after := rfl
  refine List.forall₂_map_right_iff.mpr (List.forall₂_same.mpr fun r hr => ?_)
  by_cases hid : r.id = row.id
  · obtain rfl : r = row := List.inj_on_of_nodup_map hunique hr hrow hid
    have hsame : (TableName.idOf .workflows r == r.id) = true := beq_self_eq_true r.id
    rw [if_pos hsame]
    refine ⟨rfl, fun _ stats' hstats' => ⟨after, hfolded, ?_⟩, fun hne => absurd rfl hne, fun _ => ?_⟩
    · obtain rfl : stats = stats' := Except.ok.inj (hstats.symm.trans hstats')
      exact hleads
    · exact ⟨after, hfolded, by omega, hhours⟩
  · have hother : ¬ (TableName.idOf .workflows r == row.id) = true := by
      simpa [TableName.idOf, TableName.stamp] using hid
    rw [if_neg hother]
    exact ⟨rfl, fun heq => absurd heq hid, fun _ => rfl, fun h => h⟩

/-! ## Calls in a session -/

section Executing

variable {τ ω : Type} [Timeline τ] {d : Desk τ ω} {start : Database} {books : Books}

/-- A call that storage answers, outside of any step. -/
theorem callOnce_backed {c : Call} {work : Storage c.Reply} {j : Journey τ (Session × ω)}
    {o : Outcome c.Reply} {s : Session} (hwork : answerTo d.context.actor c = some work)
    (hrun : work.runIn ⟨j.now, d.rowId⟩ j.world.1 = (o, s)) :
    ∃ j', d.engine.callOnce c j = (o, j') ∧ j'.world = (s, j.world.2) ∧ j'.issued = j.issued := by
  have hanswer : d.engine.outside j.now c j.world = ⟨Timeline.zero, o, (s, j.world.2)⟩ := by
    change backed d.context.actor d.rowId d.others j.now c (j.world.1, j.world.2) = _
    unfold backed
    dsimp only
    rw [hwork]
    dsimp only
    rw [hrun]
  obtain ⟨t, ht⟩ : ∃ t : τ, Timeline.after none j.time Timeline.zero = some t := by
    unfold Timeline.after
    split <;> exact ⟨_, rfl⟩
  refine ⟨{ j.noting c (s, j.world.2) with time := t }, ?_, rfl, rfl⟩
  unfold Engine.callOnce Program.complete Program.perform
  simp only [Program.run, hanswer, ht]
  cases o <;> rfl

/-- Steps leave the books alone. -/
theorem runLeads_open (hsupply : Function.Injective d.rowId) (htask : d.task = Registry.builtIn.task)
    (w : Workflow) (deadline : τ) (leads : List Lead) {j : Journey τ (Session × ω)}
    (hj : j.world.1.Open d.rowId start books) :
    (d.engine.runLeads w deadline leads j).2.world.1.Open d.rowId start books := by
  have hgoes : Program.GoesBy (I := calls) d.engine.outside id
      (fun world => world.1.Open d.rowId start books)
      (fun c => Call.isOfStep d.context.actor c = true) := by
    refine ⟨fun now c world _ _ => rfl, fun now c world hc hworld => ?_⟩
    change (backed d.context.actor d.rowId d.others now c world).world.1.Open d.rowId start books
    unfold backed
    cases hwork : answerTo d.context.actor c with
    | none => exact hworld
    | some work => exact (answerTo_maintains hsupply hc hwork now world.1 hworld).1
  have hsteps : ∀ step lead, (d.engine.task step lead d.engine.context).Asks
      fun c => Call.isOfStep d.context.actor c = true := by
    intro step lead
    have hasks := task_asks_isOfStep step lead d.context
    rw [← htask] at hasks
    exact hasks
  exact (Engine.runLeads_viewed hgoes hsteps w deadline leads j hj).2

omit [Timeline τ] in
/-- The workflow that is chosen is in the books, and nothing is written to find it. -/
theorem maintains_chosen (workflowId : String) (q : LeadQuery) (db : Database) :
    Maintains d.rowId (Untouched d.rowId start books db) (d.chosen workflowId q) fun x =>
      x.1.id = workflowId ∧ ∃ r ∈ books.workflows, r.id = workflowId := by
  refine Maintains.bind (maintains_findWorkflow _ workflowId) fun w hw => ?_
  exact Maintains.bind (maintains_selectLeads _ q) fun leads _ => maintains_pure hw

/-! ## Ids of runs -/

/-- As many ids are handed out as leads are finished. -/
theorem runLeads_issued (e : Engine τ ω) (w : Workflow) (deadline : τ) (leads : List Lead)
    (j : Journey τ ω) :
    (e.runLeads w deadline leads j).2.issued =
      j.issued + (e.runLeads w deadline leads j).1.1.length := by
  induction leads generalizing j with
  | nil => rfl
  | cons lead rest ih =>
    rw [Engine.runLeads]
    split
    · rfl
    · obtain ⟨⟨o, j₁⟩, hlead⟩ : ∃ x, e.runLead w deadline lead j = x := ⟨_, rfl⟩
      rw [hlead]
      cases o with
      | none =>
        have hsteps := Engine.runSteps_issued e lead deadline w.steps .fresh j.stamp.2
        unfold Engine.runLead at hlead
        dsimp only at hlead
        split at hlead
        · rename_i heq
          rw [heq] at hsteps
          cases hlead
          exact hsteps
        · cases hlead
      | some run =>
        have hrest := ih j₁
        obtain ⟨⟨⟨runs, cut⟩, j₂⟩, hx⟩ : ∃ x, e.runLeads w deadline rest j₁ = x := ⟨_, rfl⟩
        rw [hx, (Engine.runLead_id hlead).2] at hrest
        dsimp only at hrest ⊢
        rw [hx]
        dsimp only
        rw [hrest, List.length_cons]
        omega

theorem cutOffAll_issued (e : Engine τ ω) (w : Workflow) (leads : List Lead) (j : Journey τ ω) :
    j.issued ≤ (e.cutOffAll w leads j).2.issued := by
  induction leads generalizing j with
  | nil => exact Nat.le_refl _
  | cons lead rest ih =>
    have hrest := ih (e.cutOff w lead j).2
    have hfirst : (e.cutOff w lead j).2.issued = j.issued + 1 := rfl
    rw [hfirst] at hrest
    exact Nat.le_of_succ_le hrest

/-! ## The books -/

/-- Finished runs are stored one after the other, each under a new id. -/
theorem storeRuns_booked (w : Workflow) {runs : List Run} (hids : (runs.map Run.id).Nodup)
    (hnew : ∀ run ∈ runs, ∀ r ∈ books.executions, r.id ≠ run.id) {j : Journey τ (Session × ω)}
    (hj : j.world.1.Open d.rowId start books) :
    ∃ rows j', d.engine.storeRuns w runs j = (runs, j') ∧ j'.issued = j.issued ∧
      List.Forall₂ (ExecutionRow.Records d.context.actor w.id) runs rows ∧
      j'.world.1.Open d.rowId start { books with executions := books.executions ++ rows } := by
  induction runs generalizing books j with
  | nil =>
    refine ⟨[], j, rfl, rfl, .nil, ?_⟩
    rw [List.append_nil]
    exact hj
  | cons run rest ih =>
    obtain ⟨hrun, hrest⟩ := List.forall_mem_cons.mp hnew
    obtain ⟨hid, hids⟩ := List.nodup_cons.mp hids
    obtain ⟨stamp, s, hsave, hstamp, hs⟩ :=
      runIn_saveRun j.now d.context.actor w.id run.leadId hrun hj
    obtain ⟨j₁, hcall, hworld, hissued⟩ := callOnce_backed
      (show answerTo d.context.actor (.saveRun w.id run.leadId run) = some _ from rfl) hsave
    have hnew₁ : ∀ later ∈ rest, ∀ r ∈ books.executions ++
        [executionRow d.context.actor w.id run.leadId run stamp], r.id ≠ later.id := by
      intro later hlater r hr
      obtain hr | hr := List.mem_append.mp hr
      · exact hrest later hlater r hr
      · obtain rfl : r = _ := List.mem_singleton.mp hr
        intro heq
        have hsame : run.id = later.id := hstamp.symm.trans heq
        exact hid (hsame ▸ List.mem_map_of_mem hlater)
    have hj₁ : j₁.world.1.Open d.rowId start { books with executions := books.executions ++
        [executionRow d.context.actor w.id run.leadId run stamp] } := by
      rw [hworld]
      exact hs
    obtain ⟨rows, j', hstore, hissued', hrows, hj'⟩ := ih hids hnew₁ hj₁
    refine ⟨_ :: rows, j', ?_, hissued'.trans hissued, .cons ⟨stamp, hstamp, rfl⟩ hrows, ?_⟩
    · rw [Engine.storeRuns, hcall]
      dsimp only
      rw [hstore]
    · rw [List.append_assoc] at hj'
      exact hj'

/-- Runs are folded into the statistics of their workflow.  That gives new ones as long as the figures
are where whole numbers are exact, and touches nothing else in any case. -/
theorem foldStats_booked (hhours : d.context.settings.hoursPerRecord = Settings.default.hoursPerRecord)
    {w : Workflow} (runs : List Run) {j : Journey τ (Session × ω)} (hj : j.world.1.Open d.rowId start books)
    {row : WorkflowRow} (hunique : (books.workflows.map (·.id)).Nodup) (hrow : row ∈ books.workflows)
    (hid : row.id = w.id) (hcounted : row.IsCounted) :
    ∃ w' j' workflows, d.engine.foldStats w runs j = (w', j') ∧ w'.id = w.id ∧ j'.issued = j.issued ∧
      j'.world.1.Open d.rowId start { books with workflows := workflows } ∧
      ((∀ stats, row.statistics = .ok stats → stats.leadsProcessed + runs.length < 2 ^ 53 ∧
          stats.timeSavedHrs < 9007199254740992) →
        List.Forall₂ (WorkflowRow.Credited w.id runs.length) books.workflows workflows) := by
  obtain ⟨before, hbefore, hprocessed, hleast⟩ := hcounted
  by_cases hruns : runs = []
  · subst hruns
    refine ⟨w, j, books.workflows, rfl, rfl, rfl, hj, fun _ => ?_⟩
    exact List.forall₂_same.mpr fun r _ => r.credited_zero w.id
  have hstatuses : runs.map (·.status) ≠ [] := by simpa using hruns
  obtain ⟨saving, hsaving⟩ : ∃ saving, Stats.saving (.float d.context.settings.hoursPerRecord) = saving :=
    ⟨_, rfl⟩
  have hok : (∀ stats, row.statistics = .ok stats → stats.leadsProcessed + runs.length < 2 ^ 53 ∧
      stats.timeSavedHrs < 9007199254740992) →
      ∃ after, before.accumulate (runs.map (·.status)) saving = .ok after ∧ 0 ≤ after.timeSavedHrs := by
    intro hroom
    obtain ⟨hsum, hmost⟩ := hroom before hbefore
    rw [← List.length_map (·.status)] at hsum
    rw [← hsaving, hhours]
    exact Stats.accumulate_ok hprocessed hsum hleast hmost
  have hanswer : answerTo d.context.actor (.updateStats w.id runs d.context.settings.hoursPerRecord) =
      some (foldRuns w.id (runs.map (·.status)) saving) := by
    rw [← hsaving]
    rfl
  have hfold := runIn_foldRuns j.now saving hj hunique hrow hbefore hstatuses
  rw [hid] at hfold
  cases haccumulate : before.accumulate (runs.map (·.status)) saving with
  | ok after =>
    rw [haccumulate] at hfold
    obtain ⟨s, hrun, hs⟩ := hfold
    obtain ⟨j', hcall, hworld, hissued⟩ := callOnce_backed hanswer hrun
    have hfolded := (d.engine.snd_foldStats w j hruns).trans (congrArg Prod.snd hcall)
    refine ⟨_, j', _, Prod.ext rfl hfolded, d.engine.id_foldStats w j runs, hissued,
      by rw [hworld]; exact hs, fun hroom => ?_⟩
    obtain ⟨after', hafter', hafterHours⟩ := hok hroom
    obtain rfl : after = after' := Except.ok.inj (haccumulate.symm.trans hafter')
    have hleads := Stats.leadsProcessed_of_accumulate haccumulate
    rw [List.length_map] at hleads
    rw [← hid]
    exact credited_folded hunique hrow hbefore hleads hprocessed hafterHours j.now
  | error f =>
    rw [haccumulate] at hfold
    obtain ⟨f', s, hrun, hs⟩ := hfold
    obtain ⟨j', hcall, hworld, hissued⟩ := callOnce_backed hanswer hrun
    have hfolded := (d.engine.snd_foldStats w j hruns).trans (congrArg Prod.snd hcall)
    refine ⟨_, j', books.workflows, Prod.ext rfl hfolded, d.engine.id_foldStats w j runs, hissued,
      by rw [hworld]; exact hs, fun hroom => ?_⟩
    obtain ⟨after, hafter, -⟩ := hok hroom
    rw [haccumulate] at hafter
    cases hafter

/-! ## The whole execution -/

/-- A finished run without steps has no error, so it does not look like one that was cut off. -/
theorem Finishes.not_cutOff {e : Engine τ ω} {w : Workflow} {deadline : τ} {leads : List Lead}
    {runs : List Run} {j j' : Journey τ ω} (h : e.Finishes w deadline leads runs j j') :
    ∀ r ∈ runs, r.isCutOff = false := by
  induction h with
  | nil j => simp
  | @cons lead leads run runs j j₁ j₂ hleft hlead hrest ih =>
    obtain ⟨s, j', hsteps, -, -, -, herror, -⟩ := Engine.runLead_eq_some hlead
    have hsums : s.Sums run.steps := by simpa using Engine.runSteps_sums RecordState.sums_fresh hsteps
    refine List.forall_mem_cons.mpr ⟨?_, ih⟩
    unfold Run.isCutOff
    cases hempty : run.steps with
    | nil =>
      have hnone := hsums.error
      rw [hempty, ← herror] at hnone
      have herror : run.error = none := by simpa [lastFailure?] using hnone
      simp [herror]
    | cons result results => simp

/-- The runs of a batch that were not cut off are the finished ones. -/
theorem finishedOf_append {finished cut : List Run} (hfinished : ∀ r ∈ finished, r.isCutOff = false)
    (hcut : ∀ r ∈ cut, r.isCutOff = true) : finishedOf (finished ++ cut) = finished := by
  have hall : finished.filter (fun r => !r.isCutOff) = finished :=
    List.filter_eq_self.mpr fun r hr => by simp [hfinished r hr]
  have hnone : cut.filter (fun r => !r.isCutOff) = [] :=
    List.filter_eq_nil_iff.mpr fun r hr => by simp [hcut r hr]
  rw [finishedOf, List.filter_append, hall, hnone, List.append_nil]

/-- The runs can all be stored: no id is taken, neither by a stored run nor by another one of them. -/
def Books.TakesIn (books : Books) (runs : List Run) : Prop :=
  (runs.map Run.id).Nodup ∧ ∀ run ∈ runs, ∀ r ∈ books.executions, r.id ≠ run.id

/-- The second half of a batch: storing the finished runs, folding them into the statistics, and the
closing entry for all runs. -/
def bookkeep (e : Engine τ ω) (w : Workflow) (finished runs : List Run) (j : Journey τ ω) :
    Workflow × Journey τ ω :=
  let (stored, j) := e.storeRuns w finished j
  let (w', j) := e.foldStats w stored j
  let (_, j) := e.callOnce (.audit e.context.actor .executed (Engine.summaryText w runs)) j
  (w', j)

/-- A batch for some leads is processed, and then booked. -/
theorem execute_eq_bookkeep (e : Engine τ ω) (w : Workflow) {leads : List Lead} (hleads : leads ≠ [])
    {finished cutRuns : List Run} {j j' : Journey τ ω}
    (hprocess : e.process w leads j = ((finished, cutRuns), j')) :
    e.execute w leads j =
      (⟨finished ++ cutRuns, (bookkeep e w finished (finished ++ cutRuns) j').1⟩,
        (bookkeep e w finished (finished ++ cutRuns) j').2) := by
  have hempty : ¬ leads.isEmpty = true := by simpa using hleads
  unfold Engine.execute
  rw [if_neg hempty, hprocess]
  rfl

/-- Processing leaves the session open.  The runs that were not cut off are the finished ones; they have
the ids that are handed out next. -/
theorem process_open (hsupply : Function.Injective d.rowId) (htask : d.task = Registry.builtIn.task)
    (w : Workflow) (leads : List Lead) {j : Journey τ (Session × ω)} (hj : j.world.1.Open d.rowId start books) :
    ∃ finished cutRuns j', d.engine.process w leads j = ((finished, cutRuns), j') ∧
      j'.world.1.Open d.rowId start books ∧ finishedOf (finished ++ cutRuns) = finished ∧
      (finished ++ cutRuns).length = leads.length ∧
      finished.map Run.id = (List.range' j.issued finished.length).map d.runId ∧
      j.issued + finished.length ≤ j'.issued := by
  obtain ⟨deadline, hdeadline⟩ : ∃ deadline,
      Timeline.add j.time (Timeline.ofSeconds d.engine.context.settings.batchTimeout) = deadline := ⟨_, rfl⟩
  have hopen₁ := runLeads_open hsupply htask w deadline leads hj
  have hissued₁ := runLeads_issued d.engine w deadline leads j
  obtain ⟨⟨⟨finished, cut⟩, j₁⟩, hrun⟩ : ∃ x, d.engine.runLeads w deadline leads j = x := ⟨_, rfl⟩
  rw [hrun] at hopen₁ hissued₁
  obtain ⟨first, j₀, hsplit, hlength, hfinishes, -⟩ := Engine.runLeads_finishes hrun
  obtain ⟨horder, hcut, hidles⟩ := Engine.cutOffAll_spec d.engine w cut j₁
  have hissued₂ := cutOffAll_issued d.engine w cut j₁
  obtain ⟨⟨cutRuns, j₂⟩, hcutOff⟩ : ∃ x, d.engine.cutOffAll w cut j₁ = x := ⟨_, rfl⟩
  rw [hcutOff] at horder hcut hidles hissued₂
  dsimp only at hissued₁ hissued₂
  refine ⟨finished, cutRuns, j₂, ?_, ?_, ?_, ?_, hfinishes.ids, by omega⟩
  · unfold Engine.process
    rw [hdeadline]
    dsimp only
    rw [hrun]
    dsimp only
    rw [hcutOff]
  · rw [show j₂.world = j₁.world from hidles.world]
    exact hopen₁
  · refine finishedOf_append (Finishes.not_cutOff hfinishes) fun r hr => ?_
    obtain ⟨-, hsteps, herror⟩ := hcut r hr
    simp [Run.isCutOff, hsteps, herror]
  · have hcutLength : cutRuns.length = cut.length := by simpa using congrArg List.length horder
    rw [hsplit, List.length_append, List.length_append, hlength, hcutLength]

/-- Where all finished runs can be stored, the session stays open.  Its books have a row for each of
them, and one entry more; and as long as the figures are where whole numbers are exact, the workflow has
counted as many leads. -/
theorem bookkeep_booked (hsupply : Function.Injective d.rowId)
    (hhours : d.context.settings.hoursPerRecord = Settings.default.hoursPerRecord) {w : Workflow}
    {row : WorkflowRow} (hunique : (books.workflows.map (·.id)).Nodup) (hrow : row ∈ books.workflows)
    (hid : row.id = w.id) (hcounted : row.IsCounted) {finished runs : List Run}
    (hfinished : finishedOf runs = finished) (htakes : books.TakesIn finished)
    {j : Journey τ (Session × ω)} (hj : j.world.1.Open d.rowId start books) :
    ∃ w' j' after rows, bookkeep d.engine w finished runs j = (w', j') ∧ w'.id = w.id ∧
      j'.issued = j.issued ∧ j'.world.1.Open d.rowId start after ∧
      after.executions = books.executions ++ rows ∧
      List.Forall₂ (ExecutionRow.Records d.context.actor w.id) finished rows ∧
      ((∀ stats, row.statistics = .ok stats →
          stats.leadsProcessed + finished.length < 2 ^ 53 ∧ stats.timeSavedHrs < 9007199254740992) →
        books.Booked d.context.actor w.id runs after) := by
  obtain ⟨rows, j₁, hstore, hissued₁, hrows, hopen₁⟩ := storeRuns_booked w htakes.1 htakes.2 hj
  obtain ⟨w', j₂, workflows, hfold, hsame, hissued₂, hopen₂, hcredited⟩ :=
    foldStats_booked hhours finished hopen₁ hunique hrow hid hcounted
  obtain ⟨entry, s, hclose, hactor, -, hs⟩ := runIn_closing hsupply j₂.now d.context.actor
    (Engine.summaryText w runs) hopen₂
  obtain ⟨j₃, hcall, hworld, hissued₃⟩ := callOnce_backed
    (show answerTo d.context.actor (.audit d.context.actor .executed (Engine.summaryText w runs)) = some _ from rfl)
    hclose
  have hbookkeep : bookkeep d.engine w finished runs j = (w', j₃) := by
    have hcall : d.engine.callOnce (.audit d.engine.context.actor .executed (Engine.summaryText w runs)) j₂ =
        (.ok (), j₃) := hcall
    unfold bookkeep
    rw [hstore]
    dsimp only
    rw [hfold]
    dsimp only
    rw [hcall]
  refine ⟨w', j₃, _, rows, hbookkeep, hsame, by omega, by rw [hworld]; exact hs, rfl, hrows, fun hroom => ?_⟩
  exact ⟨⟨rows, rfl, by rw [hfinished]; exact hrows⟩, by rw [hfinished]; exact hcredited hroom, entry, rfl, hactor⟩

/-- An execution for some leads leaves its session open.  Its books have a row for each run that was not
cut off, and one entry more; and as long as the figures are where whole numbers are exact, its workflow
has counted as many leads. -/
theorem execute_booked (hsupply : Function.Injective d.rowId) (hruns : Function.Injective d.runId)
    (htask : d.task = Registry.builtIn.task)
    (hhours : d.context.settings.hoursPerRecord = Settings.default.hoursPerRecord)
    {w : Workflow} {leads : List Lead} (hleads : leads ≠ []) {row : WorkflowRow}
    (hunique : (books.workflows.map (·.id)).Nodup) (hrow : row ∈ books.workflows) (hid : row.id = w.id)
    (hcounted : row.IsCounted) {j : Journey τ (Session × ω)} (hj : j.world.1.Open d.rowId start books)
    (hfresh : ∀ n, j.issued ≤ n → ∀ r ∈ books.executions, r.id ≠ d.runId n) :
    ∃ batch j' after rows, d.engine.execute w leads j = (batch, j') ∧ batch.workflow.id = w.id ∧
      batch.runs.length = leads.length ∧ j'.world.1.Open d.rowId start after ∧ j.issued ≤ j'.issued ∧
      (∀ n, j'.issued ≤ n → ∀ r ∈ after.executions, r.id ≠ d.runId n) ∧
      after.executions = books.executions ++ rows ∧
      List.Forall₂ (ExecutionRow.Records d.context.actor w.id) (finishedOf batch.runs) rows ∧
      ((∀ stats, row.statistics = .ok stats →
          stats.leadsProcessed + (finishedOf batch.runs).length < 2 ^ 53 ∧
            stats.timeSavedHrs < 9007199254740992) →
        books.Booked d.context.actor w.id batch.runs after) := by
  obtain ⟨finished, cutRuns, j₁, hprocess, hopen₁, hfinished, hcount, hids, hissued⟩ :=
    process_open hsupply htask w leads hj
  -- the ids of the finished runs
  have hnew : ∀ run ∈ finished, ∃ n, j.issued ≤ n ∧ n < j.issued + finished.length ∧ run.id = d.runId n := by
    intro run hmem
    have hmem : run.id ∈ finished.map Run.id := List.mem_map_of_mem hmem
    rw [hids] at hmem
    obtain ⟨n, hn, heq⟩ := List.mem_map.mp hmem
    obtain ⟨hleast, hmost⟩ := List.mem_range'_1.mp hn
    exact ⟨n, hleast, hmost, heq.symm⟩
  have htakes : books.TakesIn finished := by
    refine ⟨hids ▸ List.Nodup.map hruns List.nodup_range', fun run hmem r hr => ?_⟩
    obtain ⟨n, hleast, -, heq⟩ := hnew run hmem
    rw [heq]
    exact hfresh n hleast r hr
  -- the books
  obtain ⟨w', j₂, after, rows, hbookkeep, hsame, hissued₂, hopen₂, hafter, hrows, hbooked⟩ :=
    bookkeep_booked hsupply hhours hunique hrow hid hcounted hfinished htakes hopen₁
  refine ⟨⟨finished ++ cutRuns, w'⟩, j₂, after, rows, ?_, hsame, hcount, hopen₂, by omega, ?_, hafter, ?_, ?_⟩
  · rw [execute_eq_bookkeep d.engine w hleads hprocess, hbookkeep]
  · intro n hn r hr
    rw [hafter] at hr
    obtain hr | hr := List.mem_append.mp hr
    · exact hfresh n (by omega) r hr
    · obtain ⟨run, hmem, stamp, hstamp, rfl⟩ := exists_run_of_mem hrows hr
      obtain ⟨m, -, hmost, heq⟩ := hnew run hmem
      intro hsameId
      have hsameId : stamp.id = d.runId n := hsameId
      have hlast : m = n := hruns (heq.symm.trans (hstamp.symm.trans hsameId))
      omega
  · rw [hfinished]
    exact hrows
  · intro hroom
    rw [hfinished] at hroom
    exact hbooked hroom

end Executing

end LeadFlow.Storage
