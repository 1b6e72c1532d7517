import LeadFlow.Proofs.Execution.Independent
import LeadFlow.Proofs.Execution.Knowledge
import LeadFlow.Proofs.Storage.Balance
import LeadFlow.Proofs.Storage.Concurrent

set_option autoImplicit false

/-!
# Storage: a run that cannot be stored

All that a batch asks of storage goes through one session.  The batch goes on after a run that cannot
be stored because its id is taken, but the session does not: everything written in it is taken back,
every later use of it fails, and it cannot be committed.  So a batch is booked as a whole or leaves
nothing behind.

Main statement: `Deployment.execute_allOrNothing`.
-/

namespace LeadFlow.Storage

open Calendar Execution

/-! ## Broken sessions -/

/-- The transaction of the session is over, after a write that failed. -/
def Session.IsBroken (s : Session) : Prop := s.failure ≠ none

theorem isBroken_collapsed (s : Session) (f : Fault) : (s.collapsed f).IsBroken := Option.some_ne_none _

section Broken

variable {α : Type} {rowId : Nat → String} {s : Session}

/-- Work that a broken session turns down, and that leaves it broken. -/
abbrev TurnedDown (rowId : Nat → String) (p : Storage α) : Prop :=
  Maintains rowId Session.IsBroken p fun _ => False

theorem turnedDown_usable : TurnedDown rowId usable := by
  intro now s hs
  cases hfailure : s.failure with
  | none => exact absurd hfailure hs
  | some failure =>
    have hget : (get : Storage Session).runIn ⟨now, rowId⟩ s = (.ok s, s) := rfl
    rw [usable, runIn_bind_of_ok hget, hfailure]
    exact ⟨hs, fun _ h => by cases h⟩

/-- What starts with work that is turned down is turned down. -/
theorem Maintains.turnsDown {β : Type} {p : Storage α} (hp : TurnedDown rowId p) (f : α → Storage β) :
    TurnedDown rowId (p >>= f) :=
  Maintains.bind hp fun _ h => h.elim

theorem turnedDown_insert {t : TableName} (id? : Option String) (make : Stamp → t.Row) :
    TurnedDown rowId (insert t id? make) := Maintains.turnsDown turnedDown_usable _

theorem turnedDown_saveRun (actor workflowId leadId : String) (run : Run) :
    TurnedDown rowId (saveRun actor workflowId leadId run) :=
  Maintains.explained (Maintains.turnsDown (turnedDown_insert _ _) _)

theorem turnedDown_appendAudit (actor : String) (action details : Option String) :
    TurnedDown rowId (appendAudit actor action details) :=
  Maintains.explained (Maintains.turnsDown (turnedDown_insert _ _) _)

theorem turnedDown_foldRuns (workflowId : String) (statuses : List RunStatus) (saving : Nat → Outcome Float) :
    TurnedDown rowId (foldRuns workflowId statuses saving) :=
  Maintains.explained (Maintains.turnsDown (Maintains.turnsDown (Maintains.turnsDown turnedDown_usable _) _) _)

/-- A run whose id is taken breaks the session. -/
theorem runIn_saveRun_taken {start : Database} {books : Books} (now : Moment)
    (actor workflowId leadId : String) {run : Run} (hs : s.Open rowId start books) {r : ExecutionRow}
    (hr : r ∈ books.executions) (hid : r.id = run.id) :
    ∃ f s', (saveRun actor workflowId leadId run).runIn ⟨now, rowId⟩ s = (.error f, s') ∧ s'.IsBroken := by
  have hrows : r ∈ s.database.rowsOf .executions := by
    rw [← hs.accounts] at hr
    exact hr
  have hstamp : (newStamp (some run.id)).runIn ⟨now, rowId⟩ s = (.ok ⟨run.id, now, now⟩, s) := rfl
  have htaken : withNew .executions (s.database.rowsOf .executions)
      (executionRow actor workflowId leadId run ⟨run.id, now, now⟩) = .error (takenId .executions) := by
    refine if_pos (List.any_eq_true.mpr ⟨r, hrows, ?_⟩)
    exact beq_iff_eq.mpr hid
  have hinsert : (insert .executions (some run.id) (executionRow actor workflowId leadId run)).runIn
      ⟨now, rowId⟩ s = (.error (takenId .executions), s.collapsed (takenId .executions)) := by
    unfold insert
    rw [runIn_bind_of_ok (runIn_usable hs.alive), runIn_bind_of_ok hstamp, runIn_bind, runIn_add,
      hs.ready.rows_eq]
    simp only [Except.bind, htaken]
  unfold saveRun
  rw [runIn_explained_eq, runIn_bind, hinsert]
  exact ⟨_, _, rfl, isBroken_collapsed s _⟩

end Broken

/-! ## A batch in a broken session -/

section Batches

variable {τ ω : Type} [Timeline τ] {d : Desk τ ω} {start : Database} {books : Books}

/-- A call that a broken session turns down. -/
theorem callOnce_broken {c : Call} {work : Storage c.Reply} (hwork : answerTo d.context.actor c = some work)
    (hdown : TurnedDown d.rowId work) {j : Journey τ (Session × ω)} (hj : j.world.1.IsBroken) :
    (d.engine.callOnce c j).2.world.1.IsBroken := by
  obtain ⟨hbroken, -⟩ := hdown j.now j.world.1 hj
  obtain ⟨j', hcall, hworld, -⟩ := callOnce_backed hwork rfl
  rw [hcall, hworld]
  exact hbroken

theorem storeRuns_broken (w : Workflow) (runs : List Run) {j : Journey τ (Session × ω)}
    (hj : j.world.1.IsBroken) : (d.engine.storeRuns w runs j).2.world.1.IsBroken := by
  induction runs generalizing j with
  | nil => exact hj
  | cons run rest ih =>
    have hfirst := callOnce_broken (c := .saveRun w.id run.leadId run) rfl
      (turnedDown_saveRun d.context.actor w.id run.leadId run) hj
    rw [Engine.snd_storeRuns_cons]
    exact ih hfirst

theorem foldStats_broken (w : Workflow) (runs : List Run) {j : Journey τ (Session × ω)}
    (hj : j.world.1.IsBroken) : (d.engine.foldStats w runs j).2.world.1.IsBroken := by
  cases runs with
  | nil => exact hj
  | cons run rest =>
    rw [Engine.snd_foldStats _ _ _ (List.cons_ne_nil run rest)]
    exact callOnce_broken rfl (turnedDown_foldRuns _ _ _) hj

/-- If not all runs can be stored, storing them breaks the session. -/
theorem storeRuns_collides (w : Workflow) {runs : List Run} {j : Journey τ (Session × ω)}
    (hj : j.world.1.Open d.rowId start books) (hruns : ¬ books.TakesIn runs) :
    (d.engine.storeRuns w runs j).2.world.1.IsBroken := by
  induction runs generalizing books j with
  | nil => exact absurd ⟨List.nodup_nil, fun _ h => by cases h⟩ hruns
  | cons run rest ih =>
    by_cases htaken : ∃ r ∈ books.executions, r.id = run.id
    · obtain ⟨r, hr, hid⟩ := htaken
      obtain ⟨f, s, hsave, hs⟩ := runIn_saveRun_taken j.now d.context.actor w.id run.leadId hj hr hid
      obtain ⟨j₁, hcall, hworld, -⟩ := callOnce_backed
        (show answerTo d.context.actor (.saveRun w.id run.leadId run) = some _ from rfl) hsave
      rw [Engine.snd_storeRuns_cons, hcall]
      exact storeRuns_broken w rest (hworld ▸ hs)
    -- a row more in the books, and still not all of the rest can be stored
    have hnew : ∀ r ∈ books.executions, r.id ≠ run.id := fun r hr hid => htaken ⟨r, hr, hid⟩
    obtain ⟨stamp, s, hsave, hstamp, hs⟩ := runIn_saveRun j.now d.context.actor w.id run.leadId hnew hj
    obtain ⟨j₁, hcall, hworld, -⟩ := callOnce_backed
      (show answerTo d.context.actor (.saveRun w.id run.leadId run) = some _ from rfl) hsave
    have hrest : ¬ Books.TakesIn { books with executions := books.executions ++
        [executionRow d.context.actor w.id run.leadId run stamp] } rest := by
      rintro ⟨hids, hothers⟩
      refine hruns ⟨List.nodup_cons.mpr ⟨fun hmem => ?_, hids⟩, List.forall_mem_cons.mpr ⟨hnew, ?_⟩⟩
      · obtain ⟨later, hlater, hsame⟩ := List.mem_map.mp hmem
        exact hothers later hlater _ (List.mem_append_right _ List.mem_cons_self) (hstamp.trans hsame.symm)
      · exact fun later hlater r hr => hothers later hlater r (List.mem_append_left _ hr)
    rw [Engine.snd_storeRuns_cons, hcall]
    exact ih (hworld ▸ hs) hrest

/-- If not all finished runs can be stored, the bookkeeping ends in a broken session. -/
theorem bookkeep_collides (w : Workflow) {finished : List Run} (runs : List Run)
    {j : Journey τ (Session × ω)} (hj : j.world.1.Open d.rowId start books)
    (hruns : ¬ books.TakesIn finished) :
    (bookkeep d.engine w finished runs j).2.world.1.IsBroken := by
  have hstored := storeRuns_collides w hj hruns
  unfold bookkeep
  obtain ⟨⟨stored, j₁⟩, hstore⟩ : ∃ x, d.engine.storeRuns w finished j = x := ⟨_, rfl⟩
  rw [hstore] at hstored ⊢
  exact callOnce_broken (c := .audit d.context.actor .executed (Engine.summaryText w runs)) rfl
    (turnedDown_appendAudit _ _ _) (foldStats_broken w stored hstored)

end Batches

/-! ## All or nothing -/

namespace Deployment

variable {τ ω : Type} {d d' : Deployment ω}

/-- A broken session cannot be committed, and leaves the database as it was. -/
theorem after_broken {j : Journey τ (Session × ω)} (hj : j.world.1.IsBroken) :
    (∃ f, j.world.1.commit = .error f) ∧ (d.after j true).database = d.database := by
  obtain ⟨failure, hfailure⟩ := Option.ne_none_iff_exists'.mp hj
  have hcommit : j.world.1.commit = .error (Session.pending failure) := by
    unfold Session.commit
    rw [hfailure]
  refine ⟨⟨_, hcommit⟩, ?_⟩
  unfold Deployment.after
  rw [if_pos rfl, hcommit]
  rfl

/-- If a finished run of a batch has an id that is taken, nothing of the batch is kept: neither the other
runs, nor what is counted, nor an entry.  If they can all be stored, the batch is committed: each of them
has a row, and as long as there is room they are counted and the batch has its entry. -/
theorem execute_allOrNothing [Timeline τ] (desk : Desk τ ω) (hsupply : Function.Injective desk.rowId)
    (htask : desk.task = Registry.builtIn.task) (hready : d.database.Ready desk.rowId d.rowsIssued)
    {workflowId : String} {q : LeadQuery} {e : Executed τ}
    (hexecute : d.execute desk workflowId q = (.ok e, d')) (hruns : e.batch.runs ≠ []) :
    (¬ d.database.books.TakesIn (finishedOf e.batch.runs) →
      (∃ f, e.committed = .error f) ∧ d'.database = d.database) ∧
    (d.database.books.TakesIn (finishedOf e.batch.runs) →
      (d.database.books.workflows.map (·.id)).Nodup → (∀ r ∈ d.database.books.workflows, r.IsCounted) →
      desk.context.settings.hoursPerRecord = Settings.default.hoursPerRecord →
      e.committed = .ok () ∧ ∃ rows, d'.database.books.executions = d.database.books.executions ++ rows ∧
        List.Forall₂ (ExecutionRow.Records desk.context.actor workflowId) (finishedOf e.batch.runs) rows ∧
        (d.database.books.HasRoom d'.database.books →
          d.database.books.Booked desk.context.actor workflowId e.batch.runs d'.database.books)) := by
  obtain ⟨f, d'', hfault, -⟩ | ⟨w, leads, j, hid, ⟨row, hrow, hrowId⟩, hopen, hdb, hissued, hgoes⟩ :=
    execute_begins desk hready workflowId q
  · rw [hfault] at hexecute
    cases hexecute
  rw [hgoes] at hexecute
  have hleads : leads ≠ [] := by
    rintro rfl
    cases hexecute
    exact hruns rfl
  obtain ⟨finished, cutRuns, j₁, hprocess, hopen₁, hfinished, -⟩ := process_open hsupply htask w leads hopen
  rw [execute_eq_bookkeep desk.engine w hleads hprocess] at hexecute
  obtain ⟨he, hd'⟩ := Prod.mk.inj hexecute
  obtain rfl := Except.ok.inj he
  subst hd'
  dsimp only
  rw [hfinished]
  refine ⟨fun htaken => ?_, fun htakes hunique hcounted hhours => ?_⟩
  · have hbroken := bookkeep_collides w (finished ++ cutRuns) hopen₁ htaken
    obtain ⟨⟨f, hcommit⟩, hsame⟩ := after_broken (d := d) hbroken
    exact ⟨⟨f, by rw [hcommit]; rfl⟩, hsame⟩
  · obtain ⟨w', j₂, after, rows, hbookkeep, -, -, hopen₂, hafter, hrecords, hbooked⟩ :=
      bookkeep_booked hsupply hhours hunique hrow (hrowId.trans hid.symm) (hcounted row hrow) hfinished
        htakes hopen₁
    rw [hbookkeep]
    rw [hid] at hrecords hbooked
    have hbooks : (d.after j₂ true).database.books = after := by
      rw [after_open hopen₂]
      exact hopen₂.accounts
    rw [commit_open hopen₂, hbooks]
    refine ⟨rfl, rows, hafter, hrecords, fun hroom => hbooked ?_⟩
    have hroomy := hroom.room hrow hrowId hafter (hfinished.symm ▸ hrecords)
    rw [hfinished] at hroomy
    exact hroomy

/-! ## A run in the way -/

/-- Workflows are executed for the user, and run ids are numbered. -/
def clerk : Desk Float Unit :=
  ⟨promptOutside, Registry.builtIn.task, promptContext, numbered "row", numbered "run"⟩

/-- A run stored long ago, under the first id of the supply. -/
def runInTheWay : ExecutionRow where
  id := "run-1"
  createdAt := ⟨0, none, false⟩
  updatedAt := ⟨0, none, false⟩
  workflowId := "w"
  actor := "user-1"
  leadId := "ann"
  leadName := "Ann Lee"
  workflowName := "Nurture"
  status := "success"
  steps := .list []
  startedAt := ⟨0, none, false⟩
  completedAt := ⟨0, none, false⟩
  error := none

/-- A deployment with two leads, a workflow without steps, and these runs. -/
def withRuns (runs : List ExecutionRow) : Deployment Unit :=
  ⟨((Database.empty.withRows .leads [annRow, { annRow with id := "bert" }]).withRows .workflows
    [Executions.nurtureRow]).withRows .executions runs, 0, 0, 0, 0, ()⟩

/-- The one lead. -/
def onlyAnn : LeadQuery := ⟨some ["ann"], none, none, 10, none⟩

theorem ready_withRuns (stored : List ExecutionRow) : (withRuns stored).database.Ready clerk.rowId 0 :=
  .of_unnumbered rfl (fun t => by cases t <;> exact ⟨_, rfl⟩)
    (List.forall_mem_cons.mpr ⟨⟨_, rfl⟩, List.forall_mem_singleton.mpr ⟨_, rfl⟩⟩) rfl rfl

/-- An execution that finishes one run. -/
theorem exists_execute (stored : List ExecutionRow) (id : String)
    (h : ((withRuns stored).execute clerk "w" onlyAnn).1.toOption.map
      (fun e => (finishedOf e.batch.runs).map Run.id) = some [id]) :
    ∃ e, (withRuns stored).execute clerk "w" onlyAnn =
        (.ok e, ((withRuns stored).execute clerk "w" onlyAnn).2) ∧ e.batch.runs ≠ [] ∧
      (finishedOf e.batch.runs).map Run.id = [id] := by
  obtain ⟨⟨o, d'⟩, hexecute⟩ : ∃ x, (withRuns stored).execute clerk "w" onlyAnn = x := ⟨_, rfl⟩
  rw [hexecute] at h ⊢
  cases o with
  | error f => cases h
  | ok e =>
    have hids : (finishedOf e.batch.runs).map Run.id = [id] := Option.some.inj h
    refine ⟨e, rfl, fun hnone => ?_, hids⟩
    rw [hnone] at hids
    cases hids

/-- The batch of one lead leaves nothing behind if the id of its run is taken, and is booked if not. -/
theorem execute_allOrNothing_onlyAnn :
    ((withRuns [runInTheWay]).execute clerk "w" onlyAnn).2.database = (withRuns [runInTheWay]).database ∧
      ∃ runs, (withRuns []).database.books.Booked "user-1" "w" runs
        ((withRuns []).execute clerk "w" onlyAnn).2.database.books := by
  obtain ⟨e, hexecute, hruns, hids⟩ := exists_execute [runInTheWay] "run-1" (by decide +kernel)
  obtain ⟨e', hexecute', hruns', hids'⟩ := exists_execute [] "run-1" (by decide +kernel)
  have htaken : ¬ (withRuns [runInTheWay]).database.books.TakesIn (finishedOf e.batch.runs) := by
    rintro ⟨-, hnew⟩
    obtain ⟨run, hrun, hid⟩ := List.mem_map.mp (hids ▸ List.mem_singleton_self "run-1")
    exact hnew run hrun runInTheWay (List.mem_singleton_self _) hid.symm
  have htakes : (withRuns []).database.books.TakesIn (finishedOf e'.batch.runs) := by
    refine ⟨hids' ▸ List.nodup_singleton _, fun run _ r hr => ?_⟩
    cases hr
  refine ⟨((execute_allOrNothing clerk (numbered_injective "row") rfl (ready_withRuns _) hexecute
    hruns).1 htaken).2, e'.batch.runs, ?_⟩
  obtain ⟨-, rows, -, -, hbooked⟩ := (execute_allOrNothing clerk (numbered_injective "row") rfl
    (ready_withRuns _) hexecute' hruns').2 htakes (List.nodup_singleton _)
    (List.forall_mem_singleton.mpr (.of_zero rfl)) rfl
  exact hbooked (by decide +kernel)

/-- The ids of the finished runs of a batch for two leads, and the books after it. -/
def afterTwo (stored : List ExecutionRow) : List String × Books :=
  let (batch, j) := clerk.engine.execute { warmUp with id := "w", steps := [] }
    [ann, { ann with id := "bert" }] (withRuns stored).journey
  ((finishedOf batch.runs).map (·.id), ((withRuns stored).after j true).database.books)

/-- Where the first of two runs has an id that is taken, the second is not stored, it is not counted, and
there is no entry for the batch. -/
theorem not_stored_besideInTheWay :
    (afterTwo [runInTheWay]).1 = ["run-1", "run-2"] ∧
      (afterTwo [runInTheWay]).2.executions.map (·.id) = ["run-1"] ∧
      (afterTwo [runInTheWay]).2.workflows.map (·.statistics.toOption.map (·.leadsProcessed)) = [some 0] ∧
      (afterTwo [runInTheWay]).2.closings.length = 0 := by
  decide +kernel

/-- Without that run, both are stored and counted, and there is an entry. -/
example : (afterTwo []).2.executions.map (·.id) = ["run-1", "run-2"] ∧
    (afterTwo []).2.workflows.map (·.statistics.toOption.map (·.leadsProcessed)) = [some 2] ∧
    (afterTwo []).2.closings.length = 1 := by
  decide +kernel

end Deployment

end LeadFlow.Storage
