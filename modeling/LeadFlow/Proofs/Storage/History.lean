import LeadFlow.Proofs.Storage.Fresh
import LeadFlow.Proofs.Storage.Shown

set_option autoImplicit false

/-!
# Storage: the history of runs

Runs are saved in one transaction after the other, each under the actor of its session, and read back in
a later one.  Nothing is lost: a listing gives the latest of the runs saved under an actor, and of a
workflow if one is named, as many as are asked for, each as it was saved.  Only the times are others: they
are read back in UTC.

Main statement: `listRuns_of_history`.
-/

namespace LeadFlow

/-- A stored result is read as it was. -/
theorem StepResult.ofValue_toFields (r : StepResult) : ofValue (.object r.toFields) = .ok r := by
  cases r with
  | mk nodeId title kind verdict message durationMs => cases kind <;> cases verdict <;> rfl

theorem RunStatus.ofValue_word (s : RunStatus) : Vocabulary.ofValue (.str s.word) = .ok s := by
  cases s <;> rfl

/-- The other moment is the same instant in UTC, within the calendar. -/
structure Calendar.Moment.ReadInUtc (m other : Moment) : Prop where
  zone : other.zone = some .utc
  instant : other.instant = m.instant
  inRange : inRange other.wall = true

theorem Calendar.Moment.readInUtc_toUtc {m : Moment} (h : inRange m.instant = true) :
    m.ReadInUtc m.toUtc :=
  ⟨rfl, Int.sub_zero _, h⟩

namespace Storage

open Calendar

/-- A list stands for itself, the empty one too. -/
theorem valueOr_list (vs : List Value) : valueOr (.list []) (.list vs) = .list vs := by
  cases vs <;> rfl

/-! ## Saved runs -/

/-- A run that is saved: under which actor, as a run of which workflow, and for which lead.  Its times have
a reading in UTC. -/
structure Save where
  actor : String
  workflowId : String
  leadId : String
  run : Run
  started : Moment.inRange run.startedAt.instant = true
  completed : Moment.inRange run.completedAt.instant = true

namespace Save

/-- The run as it is read back. -/
def restored (e : Save) : Run :=
  { e.run with
    workflowId := e.workflowId
    leadId := e.leadId
    startedAt := e.run.startedAt.toUtc
    completedAt := e.run.completedAt.toUtc }

/-- The run is one of the actor, and of the workflow if one is named. -/
def isOf (actor : String) (workflow? : Option String) (e : Save) : Bool :=
  e.actor == actor && workflow?.all (e.workflowId == ·)

/-- The row is the one that the run is saved in. -/
def Records (e : Save) (row : ExecutionRow) : Prop :=
  ∃ stamp : Stamp, stamp.id = e.run.id ∧ row = executionRow e.actor e.workflowId e.leadId e.run stamp

theorem Records.id {e : Save} {row : ExecutionRow} (h : e.Records row) : row.id = e.run.id := by
  obtain ⟨stamp, hstamp, rfl⟩ := h
  exact hstamp

/-- A saved run is read back. -/
theorem Records.run {e : Save} {row : ExecutionRow} (h : e.Records row) : row.run = .ok e.restored := by
  obtain ⟨stamp, hstamp, rfl⟩ := h
  have hsteps : (e.run.steps.map fun r => Value.object r.toFields).mapM StepResult.ofValue =
      .ok e.run.steps := by
    rw [mapM_eq_ok_iff, List.forall₂_map_left_iff, List.forall₂_same]
    exact fun r _ => r.ofValue_toFields
  have hresults : (executionRow e.actor e.workflowId e.leadId e.run stamp).results = .ok e.run.steps := by
    unfold ExecutionRow.results executionRow
    rw [valueOr_list]
    exact hsteps
  unfold ExecutionRow.run
  rw [hresults]
  change (do
    let status ← Vocabulary.ofValue (.str e.run.status.word)
    return _ : Outcome Run) = _
  rw [RunStatus.ofValue_word]
  change Except.ok { e.restored with id := stamp.id } = .ok e.restored
  rw [hstamp]
  rfl

/-- The run is the saved one, of the workflow and the lead that it was saved for, with its times in UTC. -/
structure Restores (e : Save) (r : Run) : Prop where
  run : r = { e.run with
    workflowId := e.workflowId, leadId := e.leadId, startedAt := r.startedAt, completedAt := r.completedAt }
  startedAt : e.run.startedAt.ReadInUtc r.startedAt
  completedAt : e.run.completedAt.ReadInUtc r.completedAt

theorem restores_restored (e : Save) : e.Restores e.restored :=
  ⟨rfl, Moment.readInUtc_toUtc e.started, Moment.readInUtc_toUtc e.completed⟩

theorem Records.startedAt {e : Save} {row : ExecutionRow} (h : e.Records row) :
    row.startedAt.instant = e.run.startedAt.instant := by
  obtain ⟨stamp, -, rfl⟩ := h
  exact (Moment.readInUtc_toUtc e.started).instant

theorem Records.isOf {e : Save} {row : ExecutionRow} (h : e.Records row) {actor : String}
    {workflow? : Option String} (hworkflow : workflow? ≠ some "") :
    e.isOf actor workflow? = row.isOf actor (workflow?.getD "") := by
  obtain ⟨stamp, -, rfl⟩ := h
  cases workflow? with
  | none => simp [Save.isOf, ExecutionRow.isOf, executionRow]
  | some workflowId =>
    have hne : (workflowId == "") = false := by simpa using hworkflow
    simp [Save.isOf, ExecutionRow.isOf, executionRow, hne]

end Save

/-- The executions of the database are the saved runs, in their order. -/
def Database.Recorded (db : Database) (saves : List Save) : Prop :=
  ∃ rows : List ExecutionRow, db.rows .executions = .ok rows ∧ List.Forall₂ Save.Records saves rows

/-! ## Saving -/

/-- A session that can be used and in which these runs are recorded. -/
structure Session.Recording (s : Session) (saves : List Save) : Prop where
  alive : s.failure = none
  recorded : s.database.Recorded saves

/-- Saves runs one after the other. -/
def saveAll (saves : List Save) : Storage Unit :=
  saves.forM fun e => saveRun e.actor e.workflowId e.leadId e.run

section Saving

variable {s : Session} {past : List Save}

/-- A run with a new id is recorded behind all others. -/
theorem runIn_saveRun_recording (around : Surroundings) (hs : s.Recording past) {e : Save}
    (hnew : e.run.id ∉ past.map (·.run.id)) :
    ∃ s', (saveRun e.actor e.workflowId e.leadId e.run).runIn around s = (.ok (), s') ∧
      s'.Recording (past ++ [e]) := by
  obtain ⟨halive, rows, hrows, hrecords⟩ := hs
  have hid : ∀ stamp, TableName.executions.idOf (executionRow e.actor e.workflowId e.leadId e.run stamp) =
      stamp.id := fun _ => rfl
  have hids : past.map (·.run.id) = rows.map (·.id) := map_eq_map_of_forall₂ hrecords fun _ _ h => h.id.symm
  have hnewRow : ∀ r ∈ rows, TableName.idOf .executions r ≠
      (some e.run.id).getD (around.rowId s.issued) := by
    rintro r hr hid
    rw [hids] at hnew
    exact hnew (List.mem_map.mpr ⟨r, hr, hid⟩)
  obtain ⟨stamp, hstamp, hrun⟩ := runIn_insert around hid halive hrows hnewRow
  refine ⟨_, runIn_explained (runIn_bind_of_ok hrun _), halive, _, ?_,
    List.rel_append hrecords (.cons ⟨stamp, hstamp, rfl⟩ .nil)⟩
  exact Database.rows_withRows_self _ _ _ (Database.rows_eq_ok_iff.mp hrows).1

theorem runIn_saveAll_recording (around : Surroundings) (hs : s.Recording past) {saves : List Save}
    (hdistinct : ((past ++ saves).map (·.run.id)).Nodup) :
    ∃ s', (saveAll saves).runIn around s = (.ok (), s') ∧ s'.Recording (past ++ saves) := by
  induction saves generalizing s past with
  | nil => exact ⟨s, rfl, by rwa [List.append_nil]⟩
  | cons e saves ih =>
    have hnew : e.run.id ∉ past.map (·.run.id) := by
      rw [List.map_append, List.map_cons] at hdistinct
      exact fun hpast => (List.nodup_append.mp hdistinct).2.2 _ hpast _ List.mem_cons_self rfl
    obtain ⟨s₁, hfirst, hs₁⟩ := runIn_saveRun_recording around hs hnew
    rw [List.append_cons] at hdistinct ⊢
    obtain ⟨s', hrest, hs'⟩ := ih hs₁ hdistinct
    refine ⟨s', ?_, hs'⟩
    change (saveRun e.actor e.workflowId e.leadId e.run >>= fun _ => saveAll saves).runIn around s = _
    rw [runIn_bind_of_ok hfirst]
    exact hrest

end Saving

/-! ## Transactions -/

/-- Runs that are saved in one transaction, and its surroundings. -/
structure Sitting where
  around : Surroundings
  saves : List Save

/-- The runs saved in transactions one after the other. -/
def Sitting.allSaves (sittings : List Sitting) : List Save := sittings.flatMap Sitting.saves

/-- The database after transactions one after the other, and how many row ids have been handed out then.
It faults as the first transaction that does. -/
def Database.after (db : Database) (issued : Nat) : List Sitting → Outcome (Database × Nat)
  | [] => .ok (db, issued)
  | b :: bs =>
    match transact (saveAll b.saves) b.around db issued with
    | (.ok (), db', issued') => db'.after issued' bs
    | (.error f, _, _) => .error f

section Transactions

variable {db : Database} {past : List Save}

/-- Runs with new ids are recorded for good. -/
theorem transact_saveAll (hdb : db.Recorded past) (issued : Nat) (b : Sitting)
    (hdistinct : ((past ++ b.saves).map (·.run.id)).Nodup) :
    ∃ db' issued', transact (saveAll b.saves) b.around db issued = (.ok (), db', issued') ∧
      db'.Recorded (past ++ b.saves) := by
  have hs : (Session.begin db issued).Recording past := ⟨rfl, hdb⟩
  obtain ⟨s', hrun, halive, hrecorded⟩ := runIn_saveAll_recording b.around hs hdistinct
  refine ⟨s'.database, s'.issued, ?_, hrecorded⟩
  unfold transact Session.commit
  rw [hrun]
  dsimp only
  rw [halive]

theorem after_recorded (hdb : db.Recorded past) (issued : Nat) (sittings : List Sitting)
    (hdistinct : ((past ++ Sitting.allSaves sittings).map (·.run.id)).Nodup) :
    ∃ db' issued', db.after issued sittings = .ok (db', issued') ∧
      db'.Recorded (past ++ Sitting.allSaves sittings) := by
  induction sittings generalizing db issued past with
  | nil => exact ⟨db, issued, rfl, by rwa [Sitting.allSaves, List.flatMap_nil, List.append_nil]⟩
  | cons b bs ih =>
    rw [Sitting.allSaves, List.flatMap_cons, ← List.append_assoc] at hdistinct ⊢
    have hfirst : ((past ++ b.saves).map (·.run.id)).Nodup := by
      rw [List.map_append] at hdistinct
      exact (List.nodup_append.mp hdistinct).1
    obtain ⟨db₁, issued₁, htransact, hdb₁⟩ := transact_saveAll hdb issued b hfirst
    obtain ⟨db', issued', hafter, hdb'⟩ := ih hdb₁ issued₁ hdistinct
    refine ⟨db', issued', ?_, hdb'⟩
    rw [Database.after, htransact]
    exact hafter

end Transactions

/-! ## Listing -/

/-- A listing of recorded runs gives the latest of those that are wanted, as they were saved. -/
theorem transact_listRuns {db : Database} {saves : List Save} (hdb : db.Recorded saves) (actor : String)
    (workflow? : Option String) (hworkflow : workflow? ≠ some "") (limit : Nat) (around : Surroundings)
    (issued : Nat) :
    ∃ kept left : List Save, (kept ++ left).Perm (saves.filter (Save.isOf actor workflow?)) ∧
      kept.length = min limit (saves.filter (Save.isOf actor workflow?)).length ∧
      (kept ++ left).Pairwise (fun e e' => e'.run.startedAt.instant ≤ e.run.startedAt.instant) ∧
      (transact (listRuns actor (workflow?.getD "") limit) around db issued).1 =
        .ok (kept.map Save.restored) := by
  obtain ⟨rows, hrows, hrecords⟩ := hdb
  obtain ⟨sorted, hsorted⟩ :
      ∃ sorted, (runsFor actor (workflow?.getD "") (-1)).apply rows = sorted := ⟨_, rfl⟩
  have hperm := runsFor_perm actor (workflow?.getD "") rows
  have hordered := runsFor_pairwise actor (workflow?.getD "") rows
  rw [hsorted] at hperm hordered
  have hwanted : List.Forall₂ Save.Records (saves.filter (Save.isOf actor workflow?))
      (rows.filter (ExecutionRow.isOf actor (workflow?.getD ""))) :=
    List.rel_filter (p := Save.isOf actor workflow?) (q := ExecutionRow.isOf actor (workflow?.getD ""))
      (fun _ _ h => iff_of_eq (congrArg (· = true) (Save.Records.isOf h hworkflow))) hrecords
  -- the saved runs are brought into the order of the rows
  obtain ⟨ordered, hmatched, hsame⟩ := List.perm_comp_forall₂ hperm hwanted.flip
  have hmatched : List.Forall₂ Save.Records ordered sorted := hmatched.flip
  refine ⟨ordered.take limit, ordered.drop limit, ?_, ?_, ?_, ?_⟩
  · rwa [List.take_append_drop]
  · rw [List.length_take, hsame.length_eq]
  · have htimes : ordered.map (·.run.startedAt.instant) = sorted.map (·.startedAt.instant) :=
      map_eq_map_of_forall₂ hmatched fun _ _ h => h.startedAt.symm
    rw [List.take_append_drop, ← List.pairwise_map (f := fun e : Save => e.run.startedAt.instant)
      (R := fun a b => b ≤ a), htimes, List.pairwise_map]
    exact hordered
  · rw [transact_listRuns_fst around issued actor _ limit hrows, runsFor_take, hsorted, mapM_eq_ok_iff,
      List.forall₂_map_right_iff]
    exact ((List.forall₂_take limit hmatched).imp fun _ _ h => h.run).flip

/-- Runs are saved under distinct ids, in transactions one after the other, in a database without any.
All of them are stored.  A later listing for an actor, of one workflow if a workflow is named, gives runs
that were saved under the actor, as many as there are but no more than the limit, newest first and none
of those left out newer than any of them.  Each is read back as it was saved, with its times in UTC. -/
theorem listRuns_of_history {db : Database} (hempty : db.rows .executions = .ok []) (issued : Nat)
    (sittings : List Sitting) (hdistinct : ((Sitting.allSaves sittings).map (·.run.id)).Nodup) :
    ∃ db' issued', db.after issued sittings = .ok (db', issued') ∧
      ∀ (actor : String) (workflow? : Option String) (limit : Nat) (around : Surroundings),
        workflow? ≠ some "" →
        ∃ kept left : List Save,
          (kept ++ left).Perm ((Sitting.allSaves sittings).filter (Save.isOf actor workflow?)) ∧
          kept.length = min limit ((Sitting.allSaves sittings).filter (Save.isOf actor workflow?)).length ∧
          (kept ++ left).Pairwise (fun e e' => e'.run.startedAt.instant ≤ e.run.startedAt.instant) ∧
          ∃ runs, (transact (listRuns actor (workflow?.getD "") limit) around db' issued').1 = .ok runs ∧
            List.Forall₂ Save.Restores kept runs := by
  have hdb : db.Recorded [] := ⟨[], hempty, .nil⟩
  obtain ⟨db', issued', hafter, hdb'⟩ := after_recorded hdb issued sittings hdistinct
  refine ⟨db', issued', hafter, fun actor workflow? limit around hworkflow => ?_⟩
  obtain ⟨kept, left, hperm, hlength, hordered, hruns⟩ :=
    transact_listRuns hdb' actor workflow? hworkflow limit around issued'
  refine ⟨kept, left, hperm, hlength, hordered, _, hruns, ?_⟩
  rw [List.forall₂_map_right_iff, List.forall₂_same]
  exact fun e _ => e.restores_restored

/-! ## A run of one workflow -/

/-- A run of the workflow `flow-1`, with one step and a start in Berlin. -/
def berlinRun : Save where
  actor := "user-1"
  workflowId := "flow-1"
  leadId := "lead-1"
  run := ⟨"run-1", "flow-1", "Nurture", "lead-1", "Ann Lee", .success,
    [⟨.str "s1", .str "Hello", .action, .pass, .str "Sent", 3⟩],
    ⟨63900000000000000, some (.fixed 3600000000), false⟩, ⟨63900000000000000, none, false⟩, none⟩
  started := by decide
  completed := by decide

/-- The surroundings at the start of the calendar. -/
def firstDay : Surroundings := ⟨⟨0, some .utc, false⟩, fun n => toString n⟩

theorem eq_singleton_of_perm {α : Type} {kept left : List α} {a : α} (hperm : (kept ++ left).Perm [a])
    (hlength : kept.length = 1) : kept = [a] := by
  obtain ⟨rfl, -⟩ | ⟨hkept, -⟩ := List.append_eq_singleton_iff.mp (List.perm_singleton.mp hperm)
  · cases hlength
  · exact hkept

theorem listRuns_of_history_berlinRun :
    ∃ db' issued', Database.empty.after 0 [⟨firstDay, [berlinRun]⟩] = .ok (db', issued') ∧
      ∃ run, (transact (listRuns "user-1" "flow-1" 10) firstDay db' issued').1 = .ok [run] ∧
        berlinRun.Restores run := by
  obtain ⟨db', issued', hafter, hlist⟩ :=
    listRuns_of_history (rfl : Database.empty.rows .executions = .ok []) 0 [⟨firstDay, [berlinRun]⟩]
      (List.nodup_singleton _)
  obtain ⟨kept, left, hperm, hlength, -, runs, hruns, hrestores⟩ :=
    hlist "user-1" (some "flow-1") 10 firstDay (by decide)
  obtain rfl := eq_singleton_of_perm hperm hlength
  obtain ⟨run, rest, hrun, hnil, rfl⟩ := List.forall₂_cons_left_iff.mp hrestores
  obtain rfl := List.forall₂_nil_left_iff.mp hnil
  exact ⟨db', issued', hafter, run, hruns, hrun⟩

/-- The empty id names no workflow: a listing for it gives runs of all workflows, here one of `flow-1`. -/
theorem listRuns_emptyId :
    ∃ db' issued', Database.empty.after 0 [⟨firstDay, [berlinRun]⟩] = .ok (db', issued') ∧
      [berlinRun].filter (Save.isOf "user-1" (some "")) = [] ∧
      (transact (listRuns "user-1" "" 10) firstDay db' issued').1 = .ok [berlinRun.restored] := by
  have hdb : Database.empty.Recorded [] := ⟨[], rfl, .nil⟩
  obtain ⟨db', issued', hafter, hdb'⟩ :=
    after_recorded hdb 0 [⟨firstDay, [berlinRun]⟩] (List.nodup_singleton _)
  obtain ⟨kept, left, hperm, hlength, -, hruns⟩ :=
    transact_listRuns hdb' "user-1" none (by decide) 10 firstDay issued'
  obtain rfl := eq_singleton_of_perm hperm hlength
  exact ⟨db', issued', hafter, by decide, hruns⟩

end Storage

end LeadFlow
