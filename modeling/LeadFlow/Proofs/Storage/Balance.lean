import LeadFlow.Proofs.Storage.Booked
import LeadFlow.Storage.Deployment

set_option autoImplicit false

/-!
# Storage: the balance of the books

What a workflow has counted beyond its stored runs is its surplus.  An execution adds to both sides
alike, so the surplus stays.  In a deployment an execution faults or is done; if it faults, or has no
leads, nothing is written.

Main statements: `surplus_booked`, `Deployment.executes`.
-/

namespace LeadFlow.Storage

open Execution

/-! ## Counted and stored -/

/-- There is room for so many leads more: the figures stay where whole numbers are exact. -/
def WorkflowRow.hasRoom (r : WorkflowRow) (leads : Nat) : Bool :=
  match r.statistics with
  | .ok stats => stats.timeSavedHrs < 9007199254740992 && stats.leadsProcessed + leads < 2 ^ 53
  | .error _ => true

namespace Books

/-- How many runs of a workflow are stored. -/
def runsOf (books : Books) (workflowId : String) : Nat :=
  books.executions.countP fun r => r.workflowId == workflowId

/-- The leads that a workflow has counted beyond its stored runs. -/
def surplus (books : Books) (workflowId : String) : Option Int := do
  let row ← books.workflows.find? fun r => r.id == workflowId
  let stats ← row.statistics.toOption
  return stats.leadsProcessed - books.runsOf workflowId

/-- There is room to count the runs that are stored later. -/
def HasRoom (books after : Books) : Prop :=
  ∀ r ∈ books.workflows, r.hasRoom (after.runsOf r.id - books.runsOf r.id) = true

instance (books after : Books) : Decidable (books.HasRoom after) :=
  inferInstanceAs (Decidable (∀ r ∈ books.workflows, _))

end Books

section Booking

variable {books after : Books} {actor workflowId : String} {runs : List Run}

/-- All rows that are added are of the one workflow. -/
theorem countP_records {rows : List ExecutionRow}
    (h : List.Forall₂ (ExecutionRow.Records actor workflowId) runs rows) (id : String) :
    rows.countP (fun r => r.workflowId == id) = if workflowId = id then runs.length else 0 := by
  induction h with
  | nil => simp
  | cons hfirst hrest ih =>
    obtain ⟨stamp, -, rfl⟩ := hfirst
    rw [List.countP_cons, ih]
    by_cases hid : workflowId = id
    · simp [executionRow, hid]
    · simp [executionRow, hid]

theorem runsOf_added {rows : List ExecutionRow} (hafter : after.executions = books.executions ++ rows)
    (h : List.Forall₂ (ExecutionRow.Records actor workflowId) (finishedOf runs) rows) (id : String) :
    after.runsOf id = books.runsOf id + if workflowId = id then (finishedOf runs).length else 0 := by
  unfold Books.runsOf
  rw [hafter, List.countP_append, countP_records h]

/-- Room in the books is room for the workflow that all rows are added for. -/
theorem Books.HasRoom.room {rows : List ExecutionRow} {row : WorkflowRow} (hroom : books.HasRoom after)
    (hrow : row ∈ books.workflows) (hid : row.id = workflowId)
    (hafter : after.executions = books.executions ++ rows)
    (h : List.Forall₂ (ExecutionRow.Records actor workflowId) (finishedOf runs) rows) :
    ∀ stats, row.statistics = .ok stats → stats.leadsProcessed + (finishedOf runs).length < 2 ^ 53 ∧
      stats.timeSavedHrs < 9007199254740992 := by
  intro stats hstats
  have hadded := runsOf_added hafter h row.id
  rw [if_pos hid.symm] at hadded
  have hroom := hroom row hrow
  rw [hadded, Nat.add_sub_cancel_left] at hroom
  simp only [WorkflowRow.hasRoom, hstats, Bool.and_eq_true, decide_eq_true_eq] at hroom
  exact ⟨hroom.2, hroom.1⟩

/-- A workflow has the same id after it is credited. -/
theorem ids_credited {before later : List WorkflowRow} {leads : Nat}
    (h : List.Forall₂ (WorkflowRow.Credited workflowId leads) before later) :
    later.map (·.id) = before.map (·.id) := by
  induction h with
  | nil => rfl
  | cons hfirst hrest ih => rw [List.map_cons, List.map_cons, hfirst.id, ih]

/-- A workflow that is found before is found afterwards, and is credited. -/
theorem find?_credited {before later : List WorkflowRow} {leads : Nat}
    (h : List.Forall₂ (WorkflowRow.Credited workflowId leads) before later) (id : String) :
    before.find? (·.id == id) = none ∧ later.find? (·.id == id) = none ∨
      ∃ r r', before.find? (·.id == id) = some r ∧ later.find? (·.id == id) = some r' ∧
        r.Credited workflowId leads r' := by
  induction h with
  | nil => exact .inl ⟨rfl, rfl⟩
  | @cons r r' before later hfirst hrest ih =>
    by_cases hid : r.id = id
    · refine .inr ⟨r, r', ?_, ?_, hfirst⟩
      · simp [hid]
      · simp [hfirst.id, hid]
    · have hid' : ¬ r'.id = id := by rw [hfirst.id]; exact hid
      simpa [hid, hid'] using ih

/-- An execution leaves the surplus of every workflow as it is. -/
theorem surplus_booked (h : books.Booked actor workflowId runs after)
    (hcounted : ∀ r ∈ books.workflows, r.IsCounted) (id : String) :
    after.surplus id = books.surplus id := by
  obtain ⟨rows, hafter, hrecords⟩ := h.executions
  have hruns := runsOf_added hafter hrecords id
  unfold Books.surplus
  obtain ⟨hbefore, hlater⟩ | ⟨r, r', hbefore, hlater, hcredited⟩ := find?_credited h.workflows id
  · rw [hbefore, hlater]
    rfl
  obtain ⟨stats, hstats, -, -⟩ := hcounted r (List.mem_of_find?_eq_some hbefore)
  have hid : r.id = id := by simpa using List.find?_some hbefore
  rw [hbefore, hlater, hruns]
  by_cases hsame : workflowId = id
  · obtain ⟨stats', hstats', hleads⟩ := hcredited.counted (hid.trans hsame.symm) stats hstats
    simp only [Option.bind_eq_bind, Option.bind_some, hstats, hstats', Except.toOption, if_pos hsame,
      hleads, Option.pure_def, Option.some.injEq]
    omega
  · obtain rfl := hcredited.others fun heq => hsame (heq.symm.trans hid)
    rw [if_neg hsame, Nat.add_zero]

end Booking

/-! ## Deployments -/

/-- No supply hands out an id twice. -/
theorem numbered_injective (word : String) : Function.Injective (numbered word) := by
  intro n m h
  have hlist : (word.toList ++ ['-']) ++ Nat.toDigits 10 (n + 1) =
      (word.toList ++ ['-']) ++ Nat.toDigits 10 (m + 1) := by
    simpa [numbered, toString] using congrArg String.toList h
  have hdigits := congrArg (Nat.ofDigitChars 10 · 0) (List.append_cancel_left hlist)
  simp only [Nat.ofDigitChars_ten_toDigits] at hdigits
  exact Nat.succ_injective hdigits

/-- A deployment whose books can be kept.  If its database can be reached, it can be worked on; ids of
runs that are still to be handed out are free; no two workflows have one id, and all have statistics. -/
structure Deployment.Sound {ω : Type} (d : Deployment ω) (rowId runId : Nat → String) : Prop where
  ready : d.database.reachable = true → d.database.Ready rowId d.rowsIssued
  runIds : ∀ n, d.runsIssued ≤ n → ∀ r ∈ d.database.books.executions, r.id ≠ runId n
  unique : (d.database.books.workflows.map (·.id)).Nodup
  counted : ∀ r ∈ d.database.books.workflows, r.IsCounted

/-- Ids may have been handed out, and those that are left are still free in the database before. -/
structure Deployment.Advances {ω : Type} (d : Deployment ω) (rowId : Nat → String) (d' : Deployment ω) :
    Prop where
  rows : d.database.reachable = true → d.database.Ready rowId d'.rowsIssued
  runs : d.runsIssued ≤ d'.runsIssued

namespace Deployment

variable {τ ω : Type} {d d' : Deployment ω} {rowId runId : Nat → String}

/-- A deployment stays sound where its database is kept. -/
theorem Sound.kept (h : d.Sound rowId runId) (hd' : d.Advances rowId d') (hsame : d'.database = d.database) :
    d'.Sound rowId runId := by
  refine ⟨?_, fun n hn => ?_, ?_, ?_⟩
  · rw [hsame]
    exact hd'.rows
  · rw [hsame]
    exact h.runIds n (Nat.le_trans hd'.runs hn)
  · rw [hsame]
    exact h.unique
  · rw [hsame]
    exact h.counted

/-- It stays sound where an execution is booked. -/
theorem Sound.booked (h : d.Sound rowId runId) {actor workflowId : String} {runs : List Run}
    (hbooked : d.database.books.Booked actor workflowId runs d'.database.books)
    (hready : d'.database.Ready rowId d'.rowsIssued)
    (hruns : ∀ n, d'.runsIssued ≤ n → ∀ r ∈ d'.database.books.executions, r.id ≠ runId n) :
    d'.Sound rowId runId := by
  refine ⟨fun _ => hready, hruns, ?_, fun r' hr' => ?_⟩
  · rw [ids_credited hbooked.workflows]
    exact h.unique
  · obtain ⟨i, hi, rfl⟩ := List.getElem_of_mem hr'
    have hlength := hbooked.workflows.length_eq
    have hcredited := hbooked.workflows.get (i := i) (by omega) hi
    exact hcredited.sound (h.counted _ (List.getElem_mem _))

/-- A session is begun with the books of its database. -/
theorem begin_open {db : Database} {issued : Nat} (h : db.Ready rowId issued) :
    (Session.begin db issued).Open rowId db db.books := by
  refine ⟨rfl, h, rfl, h, fun t r hr => ?_⟩
  cases t <;> cases hr

/-- An open session can be committed. -/
theorem commit_open {s : Session} {start : Database} {books : Books} (h : s.Open rowId start books) :
    s.commit = .ok s.database := by
  unfold Session.commit
  rw [h.alive]

/-- What an open session has written lasts. -/
theorem after_open {j : Journey τ (Session × ω)} {start : Database} {books : Books}
    (h : j.world.1.Open rowId start books) : (d.after j true).database = j.world.1.database := by
  unfold Deployment.after
  rw [commit_open h]
  rfl

/-- Nothing is found in a database that cannot be reached. -/
theorem runIn_chosen_unreachable (desk : Desk τ ω) (workflowId : String) (q : LeadQuery)
    (around : Surroundings) {s : Session} (halive : s.failure = none)
    (hreach : s.database.reachable = false) :
    ∃ f, (desk.chosen workflowId q).runIn around s = (.error f, s) := by
  obtain ⟨f, hselect⟩ := runIn_select_unreachable around .workflows halive hreach
  unfold Desk.chosen findWorkflow selectOne
  rw [runIn_bind, runIn_bind, runIn_bind, hselect]
  exact ⟨f, rfl⟩

/-! ## Executions -/

/-- What an execution in a deployment comes to. -/
inductive Executes (d : Deployment ω) (desk : Desk τ ω) (workflowId : String) :
    Outcome (Executed τ) → Deployment ω → Prop where
  /-- the workflow or the leads cannot be had -/
  | faulted {f : Fault} {d' : Deployment ω} (advances : d.Advances desk.rowId d')
      (same : d'.database = d.database) : Executes d desk workflowId (.error f) d'
  /-- nothing is written for no leads; otherwise the books are kept, if there is room -/
  | done {e : Executed τ} {d' : Deployment ω} (advances : d.Advances desk.rowId d')
      (workflow : e.batch.workflow.id = workflowId) (idle : e.batch.runs = [] → d'.database = d.database)
      (booked : e.batch.runs ≠ [] → d.database.books.HasRoom d'.database.books →
        d.database.books.Booked desk.context.actor workflowId e.batch.runs d'.database.books ∧
          d'.Sound desk.rowId desk.runId) : Executes d desk workflowId (.ok e) d'

/-- Where the database can be worked on, an execution faults before anything is written, or goes on with
a workflow in the books and some leads. -/
theorem execute_begins [Timeline τ] (desk : Desk τ ω) (hready : d.database.Ready desk.rowId d.rowsIssued)
    (workflowId : String) (q : LeadQuery) :
    (∃ f d', d.execute desk workflowId q = (.error f, d') ∧ d.Advances desk.rowId d' ∧ d'.database = d.database) ∨
      ∃ (w : Workflow) (leads : List Lead) (j : Journey τ (Session × ω)), w.id = workflowId ∧
        (∃ row ∈ d.database.books.workflows, row.id = workflowId) ∧
        j.world.1.Open desk.rowId d.database d.database.books ∧ j.world.1.database = d.database ∧
        j.issued = d.runsIssued ∧
        d.execute desk workflowId q =
          (.ok ⟨(desk.engine.execute w leads j).1, (desk.engine.execute w leads j).2.calls,
              (desk.engine.execute w leads j).2.world.1.commit.map fun _ => ()⟩,
            d.after (desk.engine.execute w leads j).2 true) := by
  obtain ⟨j, hj⟩ : ∃ j : Journey τ (Session × ω), d.journey = j := ⟨_, rfl⟩
  have hbegin : j.world.1 = .begin d.database d.rowsIssued := hj ▸ rfl
  have hissued : j.issued = d.runsIssued := hj ▸ rfl
  have huntouched : Untouched desk.rowId d.database d.database.books d.database j.world.1 := by
    rw [hbegin]
    exact ⟨begin_open hready, rfl⟩
  obtain ⟨⟨hopen, hdb⟩, hfound⟩ := maintains_chosen workflowId q d.database j.now j.world.1 huntouched
  obtain ⟨o, s, hchosen⟩ : ∃ o s,
      (desk.chosen workflowId q).runIn ⟨j.now, desk.rowId⟩ j.world.1 = (o, s) := ⟨_, _, rfl⟩
  rw [hchosen] at hopen hdb hfound
  unfold Deployment.execute Desk.execute Desk.within
  rw [hj, hchosen]
  cases o with
  | error f => exact .inl ⟨f, _, rfl, ⟨fun _ => hopen.begun, hissued.ge⟩, rfl⟩
  | ok x =>
    obtain ⟨w, leads⟩ := x
    obtain ⟨hid, hrow⟩ := hfound _ rfl
    exact .inr ⟨w, leads, { j with world := (s, j.world.2) }, hid, hrow, hopen, hdb, hissued, rfl⟩

/-- Whatever happens in an execution, it faults or is done. -/
theorem executes [Timeline τ] (desk : Desk τ ω) (hsupply : Function.Injective desk.rowId)
    (hruns : Function.Injective desk.runId) (htask : desk.task = Registry.builtIn.task)
    (hhours : desk.context.settings.hoursPerRecord = Settings.default.hoursPerRecord)
    (h : d.Sound desk.rowId desk.runId) (workflowId : String) (q : LeadQuery) :
    d.Executes desk workflowId (d.execute desk workflowId q).1 (d.execute desk workflowId q).2 := by
  by_cases hreach : d.database.reachable = true
  case neg =>
    obtain ⟨j, hj⟩ : ∃ j : Journey τ (Session × ω), d.journey = j := ⟨_, rfl⟩
    have hbegin : j.world.1 = .begin d.database d.rowsIssued := hj ▸ rfl
    obtain ⟨f, hfault⟩ := runIn_chosen_unreachable desk workflowId q ⟨j.now, desk.rowId⟩
      (show j.world.1.failure = none by rw [hbegin]; rfl)
      (by rw [hbegin]; exact Bool.eq_false_iff.mpr hreach)
    unfold Deployment.execute Desk.execute Desk.within
    rw [hj, hfault]
    exact .faulted ⟨fun hcan => absurd hcan hreach, (hj ▸ rfl : j.issued = d.runsIssued).ge⟩ rfl
  obtain ⟨f, d', hexecute, hadvances, hsame⟩ | ⟨w, leads, j, hid, ⟨row, hrow, hrowId⟩, hopen, hdb, hissued, hexecute⟩ :=
    execute_begins desk (h.ready hreach) workflowId q
  · rw [hexecute]
    exact .faulted hadvances hsame
  rw [hexecute]
  by_cases hleads : leads = []
  case pos =>
    subst hleads
    exact .done ⟨fun _ => hopen.begun, hissued.ge⟩ hid (fun _ => (after_open hopen).trans hdb)
      fun hnone => absurd rfl hnone
  obtain ⟨batch, j', after, rows, hbatch, hsame, hlength, hopen', hle, hfresh, hafter, hrecords, hbook⟩ :=
    execute_booked hsupply hruns htask hhours hleads h.unique hrow (hrowId.trans hid.symm)
      (h.counted row hrow) hopen fun n hn => h.runIds n (hissued ▸ hn)
  rw [hbatch]
  rw [hid] at hrecords hbook
  have hdatabase : (d.after j' true).database = j'.world.1.database := after_open hopen'
  have hbooks : (d.after j' true).database.books = after := by
    rw [hdatabase]
    exact hopen'.accounts
  refine .done ⟨fun _ => hopen'.begun, hissued ▸ hle⟩ (hsame.trans hid) (fun hnone => ?_) fun _ hroom => ?_
  · rw [hnone] at hlength
    exact absurd (List.eq_nil_of_length_eq_zero hlength.symm) hleads
  · rw [hbooks] at hroom
    have hbooked := hbook (hroom.room hrow hrowId hafter hrecords)
    refine ⟨by rw [hbooks]; exact hbooked, h.booked (by rw [hbooks]; exact hbooked) ?_ ?_⟩
    · rw [hdatabase]
      exact hopen'.ready
    · rw [hbooks]
      exact hfresh

end Deployment

end LeadFlow.Storage
