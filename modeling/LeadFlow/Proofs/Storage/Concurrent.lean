import LeadFlow.Proofs.Storage.Fresh
import LeadFlow.Proofs.Storage.Ledger
import Mathlib.Algebra.BigOperators.Fin
import Mathlib.Data.List.DropRight

set_option autoImplicit false

/-!
# Storage: executions side by side

Several executions of one workflow, each in a session of its own: a session loads the workflow, later folds
the runs of its batch into the statistics while it has the row to itself, and commits.  It folds them into
the row as it was loaded, so what was committed since then is overwritten.  What a batch writes to other
tables is left out.

Main statement: `runAll_counted`.
-/

namespace LeadFlow.Storage

open Calendar

/-! ## Executions in turns -/

/-- Executions of one workflow, each with runs to fold into its statistics. -/
structure Executions (n : Nat) where
  workflowId : String
  owner : Fin n → String
  statuses : Fin n → List RunStatus
  saving : Fin n → Nat → Outcome Float
  rowId : Nat → String
  nonempty : ∀ i, statuses i ≠ []

/-- How far an execution has come.  Here `known` is how many commits there were when it loaded the
workflow, and `counted` is whether its runs could be folded. -/
inductive Stage where
  | waiting
  | loaded (s : Session) (known : Nat)
  | folded (s : Session) (known : Nat) (counted : Bool)
  | committed

/-- The execution has been committed. -/
def Stage.isCommitted : Stage → Bool
  | committed => true
  | _ => false

/-- A commit of an execution. -/
structure Commit (n : Nat) where
  execution : Fin n
  known : Nat
  counted : Bool
  deriving DecidableEq, Repr

/-- What is stored, how far each execution has come, which one has locked the row, and the commits so
far, the last one first. -/
structure Traffic (n : Nat) where
  stored : Database
  stage : Fin n → Stage
  lock : Option (Fin n)
  history : List (Commit n)

/-- What an execution does next. -/
inductive Move (n : Nat) where
  | load (i : Fin n) (now : Moment)
  | fold (i : Fin n) (now : Moment)
  | commit (i : Fin n)

/-- The session sees what is stored by now, and holds the rows that it held. -/
def Session.seeing (s : Session) (db : Database) : Session := { s with database := db, start := db }

namespace Traffic

variable {n : Nat}

/-- Nothing has happened yet. -/
def start (db : Database) : Traffic n := ⟨db, fun _ => .waiting, none, []⟩

/-- An execution has come to another stage. -/
def put (t : Traffic n) (i : Fin n) (stage : Stage) : Traffic n :=
  { t with stage := Function.update t.stage i stage }

/-- All executions have been committed. -/
def Done (t : Traffic n) : Prop := ∀ i, (t.stage i).isCommitted = true

instance (t : Traffic n) : Decidable t.Done := inferInstanceAs (Decidable (∀ _, _))

end Traffic

namespace Executions

variable {n : Nat} (e : Executions n)

/-- How many leads an execution is to count. -/
def leads (i : Fin n) : Nat := (e.statuses i).length

/-- A move of one execution, if it is possible. -/
def move (t : Traffic n) : Move n → Option (Traffic n)
  | .load i now =>
    match t.stage i, (findWorkflow (e.owner i) e.workflowId).runIn ⟨now, e.rowId⟩ (.begin t.stored 0) with
    | .waiting, (.ok _, s) => some (t.put i (.loaded s t.history.length))
    | _, _ => none
  | .fold i now =>
    match t.stage i, t.lock with
    | .loaded s known, none =>
      let (o, s') := (foldRuns e.workflowId (e.statuses i) (e.saving i)).runIn ⟨now, e.rowId⟩
        (s.seeing t.stored)
      some { t.put i (.folded s' known o.isOk) with lock := some i }
    | _, _ => none
  | .commit i =>
    match t.stage i with
    | .folded s known counted =>
      match s.commit with
      | .ok db => some { t.put i .committed with
          stored := db, lock := none, history := ⟨i, known, counted⟩ :: t.history }
      | .error _ => none
    | _ => none

/-- Moves one after the other. -/
def runAll (t : Traffic n) (moves : List (Move n)) : Option (Traffic n) := moves.foldlM e.move t

/-! ## What commits come to -/

/-- How many leads commits have counted: each one starts from what its execution had loaded. -/
def tally (initial : Int) : List (Commit n) → Int
  | [] => initial
  | c :: older =>
    if c.counted then tally initial (older.rtake c.known) + e.leads c.execution
    else tally initial older
termination_by history => history.length
decreasing_by
  · rw [List.rtake, List.length_drop, List.length_cons]
    omega
  · exact Nat.lt_succ_self _

/-- How many leads there are in all executions of these commits. -/
def total (history : List (Commit n)) : Nat := (history.map fun c => e.leads c.execution).sum

/-- Each commit has counted its leads, and came from an execution that had loaded the workflow behind all
commits before it. -/
def InTurn : List (Commit n) → Prop
  | [] => True
  | c :: older => c.counted = true ∧ older.length ≤ c.known ∧ InTurn older

theorem leads_pos (i : Fin n) : 0 < e.leads i := List.length_pos_of_ne_nil (e.nonempty i)

theorem rtake_of_le {α : Type} {l : List α} {k : Nat} (h : l.length ≤ k) : l.rtake k = l := by
  rw [List.rtake, Nat.sub_eq_zero_of_le h, List.drop_zero]

/-- Later commits do not change which ones came first. -/
theorem rtake_cons {α : Type} {l : List α} {k : Nat} (h : k ≤ l.length) (a : α) :
    (a :: l).rtake k = l.rtake k := by
  rw [List.rtake, List.length_cons, Nat.succ_sub h, List.drop_succ_cons, List.rtake]

theorem total_append (newer older : List (Commit n)) :
    e.total (newer ++ older) = e.total newer + e.total older := by
  simp [total]

theorem total_cons (c : Commit n) (older : List (Commit n)) :
    e.total (c :: older) = e.leads c.execution + e.total older := by
  simp [total]

theorem total_pos {history : List (Commit n)} (h : history ≠ []) : 0 < e.total history := by
  obtain ⟨c, older, rfl⟩ := List.exists_cons_of_ne_nil h
  rw [total_cons]
  have hpos := e.leads_pos c.execution
  omega

/-- What an execution missed is missing from its leads. -/
theorem total_rtake (history : List (Commit n)) (k : Nat) :
    e.total (history.rtake k) ≤ e.total history ∧
      (history.length ≤ k ∨ e.total (history.rtake k) < e.total history) := by
  have hsplit : e.total history =
      e.total (history.take (history.length - k)) + e.total (history.rtake k) := by
    rw [← total_append, List.rtake, List.take_append_drop]
  refine ⟨by omega, ?_⟩
  by_cases hk : history.length ≤ k
  · exact .inl hk
  · have hmissed : history.take (history.length - k) ≠ [] := by
      intro hnone
      have hlength := congrArg List.length hnone
      rw [List.length_take, List.length_nil] at hlength
      omega
    have hpos := e.total_pos hmissed
    exact .inr (by omega)

/-- No more leads are counted than there are, and all of them just if everyone took their turn. -/
theorem tally_le (initial : Int) (history : List (Commit n)) :
    e.tally initial history ≤ initial + e.total history ∧
      (e.tally initial history = initial + e.total history ↔ InTurn history) := by
  induction history using tally.induct with
  | case1 => simp [tally, total, InTurn]
  | case2 c older hcounted ih =>
    obtain ⟨hle, heq⟩ := ih
    obtain ⟨hless, hmissed⟩ := e.total_rtake older c.known
    rw [tally, if_pos hcounted, total_cons, InTurn]
    push_cast
    refine ⟨by omega, ⟨fun hall => ?_, fun hturn => ?_⟩⟩
    · obtain hknown | hmissed := hmissed
      · rw [rtake_of_le hknown] at heq hall
        exact ⟨hcounted, hknown, heq.mp (by omega)⟩
      · omega
    · obtain ⟨-, hknown, holder⟩ := hturn
      rw [rtake_of_le hknown] at heq ⊢
      have hall := heq.mpr holder
      omega
  | case3 c older hcounted ih =>
    have hpos := e.leads_pos c.execution
    rw [tally, if_neg hcounted, total_cons, InTurn]
    push_cast
    refine ⟨by omega, ⟨fun hall => ?_, fun hturn => absurd hturn.1 hcounted⟩⟩
    omega

end Executions

/-! ## What a session holds -/

/-- The row is that of a workflow, with so many leads counted. -/
structure WorkflowRow.Counts (id : String) (leads : Int) (row : WorkflowRow) : Prop where
  id : row.id = id
  counted : ∃ stats, row.statistics = .ok stats ∧ stats.leadsProcessed = leads

/-- In the database so many leads are counted for a workflow, which has an id of its own. -/
structure Database.Counts (db : Database) (id : String) (leads : Int) : Prop where
  rows : ∃ rows row, db.rows .workflows = .ok rows ∧ (rows.map (·.id)).Nodup ∧ row ∈ rows ∧
    row.Counts id leads

/-- A session that holds the workflow as it was when so many leads were counted. -/
structure Session.Holds (s : Session) (id : String) (leads : Int) : Prop where
  alive : s.failure = none
  held : ∃ row, s.held.get .workflows = [row] ∧ row.Counts id leads

section Holding

variable {around : Surroundings} {rows : List WorkflowRow} {row : WorkflowRow} {db : Database}
  {id : String} {leads : Int}

theorem Database.Counts.unique {leads' : Int} (h : db.Counts id leads) (h' : db.Counts id leads') :
    leads = leads' := by
  obtain ⟨rows, row, hrows, hunique, hrow, hid, stats, hstats, hleads⟩ := h
  obtain ⟨rows', row', hrows', -, hrow', hid', stats', hstats', hleads'⟩ := h'
  obtain rfl : rows = rows' := Except.ok.inj (hrows.symm.trans hrows')
  obtain rfl : row = row' := List.inj_on_of_nodup_map hunique hrow hrow' (hid.trans hid'.symm)
  obtain rfl : stats = stats' := Except.ok.inj (hstats.symm.trans hstats')
  exact hleads.symm.trans hleads'

/-- Only one row has the id of a row. -/
theorem filter_eq_singleton (hunique : (rows.map (·.id)).Nodup) (hrow : row ∈ rows)
    {keep : WorkflowRow → Bool} (hkeep : keep row = true) (hid : ∀ r, keep r = true → r.id = row.id) :
    rows.filter keep = [row] := by
  have hfiltered : (rows.filter keep).Nodup := (hunique.of_map _).filter _
  refine List.perm_singleton.mp ((List.perm_ext_iff_of_nodup hfiltered (List.nodup_singleton row)).mpr
    fun r => ?_)
  rw [List.mem_filter, List.mem_singleton]
  constructor
  · rintro ⟨hr, hkept⟩
    exact List.inj_on_of_nodup_map hunique hr hrow (hid r hkept)
  · rintro rfl
    exact ⟨hrow, hkeep⟩

/-- A new session holds the workflow that it has loaded. -/
theorem holds_of_findWorkflow {owner : String} {issued : Nat} {w : Workflow} {s : Session}
    (hdb : db.Counts id leads)
    (h : (findWorkflow owner id).runIn around (.begin db issued) = (.ok w, s)) : s.Holds id leads := by
  obtain ⟨rows, row, hrows, hunique, hrow, hcounts⟩ := hdb
  obtain ⟨keep, hkeep⟩ : ∃ keep : WorkflowRow → Bool, keep = fun r =>
      TableName.idOf .workflows r == id && r.isVisible owner := ⟨_, rfl⟩
  have hid : ∀ r, keep r = true → r.id = row.id := by
    intro r hr
    rw [hkeep] at hr
    rw [hcounts.id]
    exact beq_iff_eq.mp (Bool.and_eq_true_iff.mp hr).1
  have hselect : (select .workflows (.only keep)).runIn around (.begin db issued) =
      (.ok ((rows.filter keep).map fun r => (heldFor .workflows [] r).getD r),
        { Session.begin db issued with
          held := (Session.begin db issued).held.set .workflows ([] ++
            (rows.filter keep).filter fun r => (heldFor .workflows [] r).isNone) }) := by
    rw [runIn_select rfl hrows, runIn_remembered]
    rfl
  unfold findWorkflow selectOne at h
  rw [runIn_bind, runIn_bind, ← hkeep, hselect] at h
  by_cases hkept : keep row = true
  · rw [filter_eq_singleton hunique hrow hkept hid] at h
    have hfound : (found row.workflow).runIn around { Session.begin db issued with
        held := (Session.begin db issued).held.set .workflows [row] } = (.ok w, s) := h
    rw [runIn_found] at hfound
    obtain ⟨-, rfl⟩ := Prod.mk.inj hfound
    exact ⟨rfl, row, PerTable.get_set_self (Session.begin db issued).held .workflows [row], hcounts⟩
  · have hnone : rows.filter keep = [] := List.filter_eq_nil_iff.mpr fun r hr hkeptr =>
      hkept (List.inj_on_of_nodup_map hunique hr hrow (hid r hkeptr) ▸ hkeptr)
    rw [hnone] at h
    cases h

/-- A session finds the workflow as it holds it, whatever is stored by now. -/
theorem runIn_selectOne_held (around : Surroundings) {s : Session} {held : WorkflowRow} {stored : Int}
    (halive : s.failure = none) (hheld : s.held.get .workflows = [held]) (hid : held.id = id)
    (hdb : s.database.Counts id stored) :
    ∃ s', (selectOne .workflows (fun _ => true) id).runIn around s = (.ok (some held), s') ∧
      s'.failure = none ∧ s'.database = s.database := by
  obtain ⟨rows, row, hrows, hunique, hrow, hcounts⟩ := hdb
  have hkeep : (TableName.idOf .workflows row == id && true) = true := by
    have hrowId : (row.id == id && true) = true := by simp [hcounts.id]
    exact hrowId
  have hselected : (rows.filter fun r => TableName.idOf .workflows r == id && true) = [row] := by
    refine filter_eq_singleton hunique hrow hkeep fun r hr => ?_
    have hr : (r.id == id && true) = true := hr
    rw [hcounts.id]
    simpa using hr
  have hanswer : heldFor .workflows [held] row = some held := by
    have hsame : held.id = row.id := hid.trans hcounts.id.symm
    simp [heldFor, TableName.idOf, TableName.stamp, hsame]
  have hselect : (select .workflows (.only fun r => TableName.idOf .workflows r == id && true)).runIn
      around s = (remembered .workflows [row]).runIn around s := by
    rw [runIn_select halive hrows, ← hselected]
    rfl
  rw [runIn_remembered, hheld] at hselect
  refine ⟨{ s with held := s.held.set .workflows ([held] ++ [row].filter fun r =>
    (heldFor .workflows [held] r).isNone) }, ?_, halive, rfl⟩
  unfold selectOne
  rw [runIn_bind_of_ok hselect, List.map_singleton, hanswer]
  rfl

/-- Another version of the workflow is stored in its place. -/
theorem counts_replaced {leads' : Int} {r : WorkflowRow} (hrows : db.rows .workflows = .ok rows)
    (hunique : (rows.map (·.id)).Nodup) (hrow : row ∈ rows) (hid : row.id = id)
    (hr : r.Counts id leads') :
    (db.withRows .workflows (replaced .workflows r.id r rows)).Counts id leads' := by
  have hreachable := (Database.rows_eq_ok_iff.mp hrows).1
  have hids : (replaced .workflows r.id r rows).map (·.id) = rows.map (·.id) := by
    unfold replaced
    rw [List.map_map]
    refine List.map_congr_left fun q _ => ?_
    change (if q.id == r.id then r else q).id = q.id
    split
    · rename_i hsame
      exact (beq_iff_eq.mp hsame).symm
    · rfl
  refine ⟨_, r, Database.rows_withRows_self _ _ _ hreachable, hids ▸ hunique, ?_, hr⟩
  have hsame : (row.id == r.id) = true := beq_iff_eq.mpr (hid.trans hr.id.symm)
  exact List.mem_map.mpr ⟨row, hrow, if_pos hsame⟩

/-- Runs are folded into what the session holds.  What it writes replaces what was stored; where nothing
could be folded, nothing is written. -/
theorem foldRuns_held (now : Moment) (rowId : Nat → String) {statuses : List RunStatus}
    (saving : Nat → Outcome Float) {s : Session} {stored : Int} (hs : s.Holds id leads)
    (hdb : s.database.Counts id stored) (hstatuses : statuses ≠ []) :
    ∃ o s', (foldRuns id statuses saving).runIn ⟨now, rowId⟩ s = (o, s') ∧ s'.failure = none ∧
      s'.database.Counts id (if o.isOk then leads + statuses.length else stored) := by
  obtain ⟨halive, held, hheld, hid, before, hbefore, hleads⟩ := hs
  obtain ⟨s₁, hfind, halive₁, hdatabase⟩ :=
    runIn_selectOne_held ⟨now, rowId⟩ halive hheld hid hdb
  have hdb₁ := hdb
  obtain ⟨rows, row, hrows, hunique, hrow, hrowId, -⟩ := hdb
  have hrows₁ : s₁.database.rows .workflows = .ok rows := hdatabase ▸ hrows
  have hfold := runIn_foldRuns_of_found now saving hfind hrows₁ hbefore hstatuses
  cases haccumulate : before.accumulate statuses saving with
  | ok after =>
    rw [haccumulate] at hfold
    refine ⟨_, _, hfold, halive₁, counts_replaced hrows₁ hunique hrow hrowId ⟨hid, after, rfl, ?_⟩⟩
    rw [Stats.leadsProcessed_of_accumulate haccumulate, hleads]
    rfl
  | error f =>
    rw [haccumulate] at hfold
    obtain ⟨f', hfold⟩ := hfold
    refine ⟨_, _, hfold, halive₁, ?_⟩
    rw [hdatabase]
    exact hdb₁

end Holding

namespace Executions

variable {n : Nat} (e : Executions n)

/-! ## Moves -/

section Moves

variable {e} {t t' : Traffic n} {i : Fin n} {now : Moment}

theorem move_load (h : e.move t (.load i now) = some t') :
    ∃ w s, t.stage i = .waiting ∧ t' = t.put i (.loaded s t.history.length) ∧
      (findWorkflow (e.owner i) e.workflowId).runIn ⟨now, e.rowId⟩ (.begin t.stored 0) = (.ok w, s) := by
  unfold move at h
  dsimp only at h
  split at h
  · rename_i w s hstage hfind
    exact ⟨w, s, hstage, (Option.some.inj h).symm, hfind⟩
  · cases h

theorem move_fold (h : e.move t (.fold i now) = some t') :
    ∃ s known o s', t.stage i = .loaded s known ∧ t.lock = none ∧
      (foldRuns e.workflowId (e.statuses i) (e.saving i)).runIn ⟨now, e.rowId⟩ (s.seeing t.stored) =
        (o, s') ∧
      t' = { t.put i (.folded s' known o.isOk) with lock := some i } := by
  unfold move at h
  dsimp only at h
  split at h
  · rename_i s known hstage hlock
    exact ⟨s, known, _, _, hstage, hlock, rfl, (Option.some.inj h).symm⟩
  · cases h

theorem move_commit (h : e.move t (.commit i) = some t') :
    ∃ s known counted db, t.stage i = .folded s known counted ∧ s.commit = .ok db ∧
      t' = { t.put i .committed with
        stored := db, lock := none, history := ⟨i, known, counted⟩ :: t.history } := by
  unfold move at h
  dsimp only at h
  split at h
  · rename_i s known counted hstage
    split at h
    · rename_i db hcommit
      exact ⟨s, known, counted, db, hstage, hcommit, (Option.some.inj h).symm⟩
    · cases h
  · cases h

end Moves

/-! ## What is stored on the way -/

/-- What is stored comes from the commits so far, and so does what each execution holds.  An execution whose
runs have been folded will store what comes of its own commit. -/
structure Accounted (initial : Int) (t : Traffic n) : Prop where
  stored : t.stored.Counts e.workflowId (e.tally initial t.history)
  loaded : ∀ i s known, t.stage i = .loaded s known → known ≤ t.history.length ∧
    s.Holds e.workflowId (e.tally initial (t.history.rtake known))
  folded : ∀ i s known counted, t.stage i = .folded s known counted → t.lock = some i ∧
    s.failure = none ∧ s.database.Counts e.workflowId (e.tally initial (⟨i, known, counted⟩ :: t.history))
  ended : ∀ i, t.stage i = .committed ↔ i ∈ t.history.map (·.execution)
  once : (t.history.map (·.execution)).Nodup

variable {e} {initial : Int} {t t' : Traffic n} {i : Fin n} {now : Moment}

theorem accounted_start {db : Database} (h : db.Counts e.workflowId initial) :
    e.Accounted initial (.start db) where
  stored := by
    rw [tally.eq_def]
    exact h
  loaded i s known h := by cases h
  folded i s known counted h := by cases h
  ended i := by simp [Traffic.start]
  once := List.nodup_nil

/-- After one execution has moved on, a stage is its new one or that of another execution. -/
theorem stage_put_eq {j : Fin n} {stage stage' : Stage} :
    (t.put i stage).stage j = stage' ↔ j = i ∧ stage = stage' ∨ j ≠ i ∧ t.stage j = stage' := by
  by_cases hsame : j = i
  · subst hsame
    simp [Traffic.put]
  · simp [Traffic.put, hsame]

/-- An execution that moves on without a commit leaves open who has ended. -/
theorem Accounted.ended_put (ht : e.Accounted initial t) {stage : Stage} (hi : t.stage i ≠ .committed)
    (hstage : stage ≠ .committed) (j : Fin n) :
    (t.put i stage).stage j = .committed ↔ j ∈ t.history.map (·.execution) := by
  rw [stage_put_eq, ← ht.ended j]
  constructor
  · rintro (⟨-, h⟩ | ⟨-, h⟩)
    · exact absurd h hstage
    · exact h
  · intro h
    refine .inr ⟨?_, h⟩
    rintro rfl
    exact hi h

theorem Accounted.load (ht : e.Accounted initial t) (h : e.move t (.load i now) = some t') :
    e.Accounted initial t' := by
  obtain ⟨w, s, hstage, rfl, hfind⟩ := move_load h
  have hholds := holds_of_findWorkflow ht.stored hfind
  refine ⟨ht.stored, ?_, ?_, ht.ended_put (by simp [hstage]) (by simp), ht.once⟩
  · intro j s' known hj
    rcases stage_put_eq.mp hj with ⟨-, hloaded⟩ | ⟨-, hj⟩
    · cases hloaded
      refine ⟨Nat.le_refl _, ?_⟩
      change s.Holds e.workflowId (e.tally initial (t.history.rtake t.history.length))
      rw [rtake_of_le (Nat.le_refl _)]
      exact hholds
    · exact ht.loaded j s' known hj
  · intro j s' known counted hj
    rcases stage_put_eq.mp hj with ⟨-, hloaded⟩ | ⟨-, hj⟩
    · cases hloaded
    · exact ht.folded j s' known counted hj

theorem Accounted.fold (ht : e.Accounted initial t) (h : e.move t (.fold i now) = some t') :
    e.Accounted initial t' := by
  obtain ⟨s, known, o, s', hstage, hlock, hfold, rfl⟩ := move_fold h
  obtain ⟨-, hholds⟩ := ht.loaded i s known hstage
  have hsees : (s.seeing t.stored).Holds e.workflowId (e.tally initial (t.history.rtake known)) :=
    ⟨hholds.alive, hholds.held⟩
  obtain ⟨o', s'', hfold', halive, hcounts⟩ :=
    foldRuns_held now e.rowId (e.saving i) hsees ht.stored (e.nonempty i)
  obtain ⟨rfl, rfl⟩ := Prod.mk.inj (hfold.symm.trans hfold')
  refine ⟨ht.stored, ?_, ?_, ht.ended_put (by simp [hstage]) (by simp), ht.once⟩
  · intro j s₁ known₁ hj
    rcases stage_put_eq.mp hj with ⟨-, hfolded⟩ | ⟨-, hj⟩
    · cases hfolded
    · exact ht.loaded j s₁ known₁ hj
  · intro j s₁ known₁ counted₁ hj
    rcases stage_put_eq.mp hj with ⟨rfl, hfolded⟩ | ⟨-, hj⟩
    · cases hfolded
      refine ⟨rfl, halive, ?_⟩
      rw [tally]
      exact hcounts
    · -- the row was free, so no other execution can have folded its runs
      have hheld := (ht.folded j s₁ known₁ counted₁ hj).1
      rw [hlock] at hheld
      cases hheld

theorem Accounted.commit (ht : e.Accounted initial t) (h : e.move t (.commit i) = some t') :
    e.Accounted initial t' := by
  obtain ⟨s, known, counted, db, hstage, hcommit, rfl⟩ := move_commit h
  obtain ⟨hlock, halive, hcounts⟩ := ht.folded i s known counted hstage
  have hdb : s.database = db := by
    unfold Session.commit at hcommit
    rw [halive] at hcommit
    exact Except.ok.inj hcommit
  subst hdb
  have hnew : i ∉ t.history.map (·.execution) := by
    intro hi
    rw [← ht.ended i, hstage] at hi
    cases hi
  refine ⟨hcounts, ?_, ?_, ?_, List.nodup_cons.mpr ⟨hnew, ht.once⟩⟩
  · intro j s₁ known₁ hj
    rcases stage_put_eq.mp hj with ⟨-, hover⟩ | ⟨-, hj⟩
    · cases hover
    · obtain ⟨hknown, hholds⟩ := ht.loaded j s₁ known₁ hj
      refine ⟨Nat.le_succ_of_le hknown, ?_⟩
      dsimp only
      rw [rtake_cons hknown]
      exact hholds
  · intro j s₁ known₁ counted₁ hj
    rcases stage_put_eq.mp hj with ⟨-, hover⟩ | ⟨hother, hj⟩
    · cases hover
    · -- the lock was with the one that has committed
      have hsame := hlock.symm.trans (ht.folded j s₁ known₁ counted₁ hj).1
      exact absurd (Option.some.inj hsame).symm hother
  · intro j
    have hput : (t.put i .committed).stage j = .committed ↔ j = i ∨ j ∈ t.history.map (·.execution) := by
      rw [stage_put_eq, ← ht.ended j]
      by_cases hsame : j = i <;> simp [hsame]
    rw [List.map_cons, List.mem_cons]
    exact hput

/-- Whoever moves, what is stored comes from the commits. -/
theorem Accounted.move (ht : e.Accounted initial t) {m : Move n} (h : e.move t m = some t') :
    e.Accounted initial t' := by
  cases m with
  | load i now => exact ht.load h
  | fold i now => exact ht.fold h
  | commit i => exact ht.commit h

theorem Accounted.runAll (ht : e.Accounted initial t) {moves : List (Move n)}
    (h : e.runAll t moves = some t') : e.Accounted initial t' := by
  induction moves generalizing t with
  | nil =>
    cases h
    exact ht
  | cons m moves ih =>
    unfold Executions.runAll at h ih
    rw [List.foldlM_cons] at h
    obtain ⟨t₁, hmove, hrest⟩ := Option.bind_eq_some_iff.mp h
    exact ih (ht.move hmove) hrest

/-- An execution that has loaded the workflow folds its runs as soon as the row is free. -/
theorem exists_fold {s : Session} {known : Nat} (hstage : t.stage i = .loaded s known)
    (hlock : t.lock = none) (now : Moment) : ∃ t', e.move t (.fold i now) = some t' := by
  unfold move
  dsimp only
  rw [hstage, hlock]
  exact ⟨_, rfl⟩

/-- Behind that nothing keeps it from its commit. -/
theorem Accounted.exists_commit (ht : e.Accounted initial t) {s : Session} {known : Nat} {counted : Bool}
    (hstage : t.stage i = .folded s known counted) : ∃ t', e.move t (.commit i) = some t' := by
  obtain ⟨-, halive, -⟩ := ht.folded i s known counted hstage
  unfold Executions.move Session.commit
  dsimp only
  rw [hstage]
  dsimp only
  rw [halive]
  exact ⟨_, rfl⟩

/-- When all executions have been committed, their commits are the history. -/
theorem total_of_done (ht : e.Accounted initial t) (hdone : t.Done) :
    e.total t.history = ∑ i, e.leads i := by
  have hall : ∀ i, i ∈ t.history.map (·.execution) := by
    intro i
    rw [← ht.ended i]
    have hi := hdone i
    revert hi
    cases t.stage i <;> simp [Stage.isCommitted]
  have hperm : (t.history.map (·.execution)).Perm (List.finRange n) :=
    (List.perm_ext_iff_of_nodup ht.once (List.nodup_finRange n)).mpr fun i => by simp [hall i]
  unfold total
  rw [Fin.sum_univ_def, ← (hperm.map e.leads).sum_eq, List.map_map]
  rfl

/-- A workflow that has not been executed yet. -/
def nurtureRow : WorkflowRow where
  id := "w"
  createdAt := ⟨0, none, false⟩
  updatedAt := ⟨0, none, false⟩
  ownerId := "user-1"
  teamId := none
  name := "Nurture"
  description := ""
  status := "active"
  steps := .list []
  stats := .object []
  deletedAt := none
  isDeleted := false

/-- A database with this workflow. -/
def nurtureStore : Database := Database.empty.withRows .workflows [nurtureRow]

theorem counts_nurtureStore : nurtureStore.Counts "w" 0 :=
  ⟨[nurtureRow], nurtureRow, rfl, List.nodup_singleton _, List.mem_singleton_self _, rfl, Stats.zero, rfl, rfl⟩

/-- Two executions of it, each with one run. -/
def twoExecutions : Executions 2 where
  workflowId := "w"
  owner _ := "user-1"
  statuses _ := [.success]
  saving _ := Stats.saving (.float Settings.default.hoursPerRecord)
  rowId n := s!"row-{n}"
  nonempty _ := by simp

/-- One execution behind the other. -/
def inTurn : List (Move 2) :=
  [.load 0 ⟨0, none, false⟩, .fold 0 ⟨1, none, false⟩, .commit 0,
    .load 1 ⟨2, none, false⟩, .fold 1 ⟨3, none, false⟩, .commit 1]

/-- Both load the workflow before one of them commits. -/
def overtaking : List (Move 2) :=
  [.load 0 ⟨0, none, false⟩, .load 1 ⟨1, none, false⟩, .fold 0 ⟨2, none, false⟩, .commit 0,
    .fold 1 ⟨3, none, false⟩, .commit 1]

/-- All moves are possible, and end with these commits. -/
theorem exists_done (e : Executions n) (start : Traffic n) (moves : List (Move n))
    (history : List (Commit n))
    (h : (e.runAll start moves).map (fun t => (decide t.Done, t.history)) = some (true, history)) :
    ∃ t, e.runAll start moves = some t ∧ t.Done ∧ t.history = history := by
  obtain ⟨t, ht, hend⟩ := Option.map_eq_some_iff.mp h
  obtain ⟨hdone, hhistory⟩ := Prod.mk.inj hend
  exact ⟨t, ht, of_decide_eq_true hdone, hhistory⟩

end Executions

end LeadFlow.Storage
