import LeadFlow.Proofs.Execution.Handlers
import LeadFlow.Proofs.Storage.Isolation
import LeadFlow.Proofs.Workflow.Folding
import Mathlib.Data.List.Nodup

set_option autoImplicit false

/-!
# Storage: the books

The books are the stored executions, the workflows with their statistics, and the entries that close
executions.  As long as a session is open (`Session.Open`) nothing that a step asks of storage touches
the books or ends the transaction, and each call that keeps the books changes them in one way: a run is
added, statistics are replaced, an entry is added.

Main statements: `answerTo_maintains` for the calls of steps, `runIn_saveRun`, `runIn_foldRuns` and
`runIn_closing` for the others.
-/

namespace LeadFlow.Storage

open Calendar Execution

/-! ## The books of a database -/

/-- The rows of a table; a missing one has none. -/
def Database.rowsOf (db : Database) (t : TableName) : List t.Row := (db.tables.get t).getD []

/-- The entry closes an execution. -/
def AuditRow.isClosing (r : AuditRow) : Bool := r.action == AuditAction.executed.word

/-- Executions, workflows, and the entries that close executions. -/
structure Books where
  executions : List ExecutionRow
  workflows : List WorkflowRow
  closings : List AuditRow

/-- The books of a database. -/
def Database.books (db : Database) : Books :=
  ⟨db.rowsOf .executions, db.rowsOf .workflows, (db.rowsOf .audits).filter AuditRow.isClosing⟩

/-- The score of the lead can be stored again. -/
def LeadRow.IsStorable (r : LeadRow) : Prop := ∃ n, storedNumber r.score = .ok n

/-- New rows of the table take their ids from the supply. -/
def TableName.isNumbered : TableName → Bool
  | messages | audits => true
  | _ => false

/-- A database that can be worked on: all tables are there, the leads can be written back, and ids that are
still to be handed out are free. -/
structure Database.Ready (db : Database) (rowId : Nat → String) (issued : Nat) : Prop where
  reachable : db.reachable = true
  complete : ∀ t, ∃ rows, db.tables.get t = some rows
  leads : ∀ r ∈ db.rowsOf .leads, r.IsStorable
  fresh : ∀ t n, t.isNumbered = true → issued ≤ n → db.Lacks t (rowId n)

section Tables

variable {db : Database} {rowId : Nat → String} {issued : Nat} {t : TableName}

theorem rowsOf_withRows_self (db : Database) (t : TableName) (rows : List t.Row) :
    (db.withRows t rows).rowsOf t = rows := by
  simp [Database.rowsOf, Database.withRows]

theorem rowsOf_withRows_of_ne (db : Database) {u : TableName} (h : u ≠ t) (rows : List t.Row) :
    (db.withRows t rows).rowsOf u = db.rowsOf u := by
  simp [Database.rowsOf, Database.withRows, PerTable.get_set_of_ne _ h]

theorem lacks_iff_rowsOf {id : String} :
    db.Lacks t id ↔ ∀ r ∈ db.rowsOf t, t.idOf r ≠ id := by
  unfold Database.Lacks Database.rowsOf
  cases db.tables.get t <;> simp

namespace Database.Ready

theorem get_eq (h : db.Ready rowId issued) (t : TableName) : db.tables.get t = some (db.rowsOf t) := by
  obtain ⟨rows, hrows⟩ := h.complete t
  rw [rowsOf, hrows]
  rfl

theorem rows_eq (h : db.Ready rowId issued) (t : TableName) : db.rows t = .ok (db.rowsOf t) :=
  Database.rows_eq_ok_iff.mpr ⟨h.reachable, h.get_eq t⟩

/-- Where no row has taken its id from the supply, any supply is free. -/
theorem of_unnumbered (hreach : db.reachable = true) (hcomplete : ∀ t, ∃ rows, db.tables.get t = some rows)
    (hleads : ∀ r ∈ db.rowsOf .leads, r.IsStorable) (hmessages : db.rowsOf .messages = [])
    (haudits : db.rowsOf .audits = []) : db.Ready rowId issued := by
  refine ⟨hreach, hcomplete, hleads, fun t n ht _ => ?_⟩
  rw [lacks_iff_rowsOf]
  intro r hr
  cases t with
  | messages =>
    rw [hmessages] at hr
    cases hr
  | audits =>
    rw [haudits] at hr
    cases hr
  | _ => cases ht

/-- More ids may have been handed out. -/
theorem mono (h : db.Ready rowId issued) {issued' : Nat} (hle : issued ≤ issued') : db.Ready rowId issued' :=
  ⟨h.reachable, h.complete, h.leads, fun t n ht hn => h.fresh t n ht (Nat.le_trans hle hn)⟩

/-- The rows of a table may be replaced by others that fit. -/
theorem withRows (h : db.Ready rowId issued) {rows : List t.Row}
    (hleads : ∀ r ∈ (db.withRows t rows).rowsOf .leads, r.IsStorable)
    (hfresh : ∀ n, t.isNumbered = true → issued ≤ n → ∀ r ∈ rows, t.idOf r ≠ rowId n) :
    (db.withRows t rows).Ready rowId issued := by
  refine ⟨h.reachable, ?_, hleads, fun u n hu hn => ?_⟩
  · exact PerTable.forall_get_set (P := fun u (x : Rows u.Row) => ∃ rows, x = some rows) h.complete ⟨rows, rfl⟩
  · rw [lacks_iff_rowsOf]
    by_cases htable : u = t
    · subst htable
      rw [rowsOf_withRows_self]
      exact hfresh n hu hn
    · rw [rowsOf_withRows_of_ne db htable, ← lacks_iff_rowsOf]
      exact h.fresh u n hu hn

end Database.Ready

end Tables

/-! ## Open sessions -/

/-- What a session may hold: leads that can be written back, and workflows as they are in the books. -/
def Books.Admits (books : Books) : (t : TableName) → t.Row → Prop
  | .leads, r => LeadRow.IsStorable r
  | .workflows, r => r ∈ books.workflows
  | _, _ => True

/-- A session begun on a database, with these books, that can still be committed. -/
structure Session.Open (s : Session) (rowId : Nat → String) (start : Database) (books : Books) : Prop where
  alive : s.failure = none
  ready : s.database.Ready rowId s.issued
  accounts : s.database.books = books
  begun : start.Ready rowId s.issued
  held : ∀ t, ∀ r ∈ s.held.get t, books.Admits t r

/-- Work that keeps an invariant of its session, also where it faults.  What it comes to is good. -/
def Maintains {α : Type} (rowId : Nat → String) (inv : Session → Prop) (p : Storage α)
    (good : α → Prop) : Prop :=
  ∀ now s, inv s →
    inv (p.runIn ⟨now, rowId⟩ s).2 ∧ ∀ a, (p.runIn ⟨now, rowId⟩ s).1 = .ok a → good a

section Maintaining

variable {α β : Type} {rowId : Nat → String} {inv : Session → Prop}

theorem Maintains.mono {p : Storage α} {good better : α → Prop} (hp : Maintains rowId inv p good)
    (h : ∀ a, good a → better a) : Maintains rowId inv p better := by
  intro now s hs
  obtain ⟨hinv, hgood⟩ := hp now s hs
  exact ⟨hinv, fun a ha => h a (hgood a ha)⟩

theorem Maintains.bind {p : Storage α} {f : α → Storage β} {good : α → Prop} {better : β → Prop}
    (hp : Maintains rowId inv p good) (hf : ∀ a, good a → Maintains rowId inv (f a) better) :
    Maintains rowId inv (p >>= f) better := by
  intro now s hs
  obtain ⟨hinv, hgood⟩ := hp now s hs
  rw [runIn_bind]
  obtain ⟨⟨o, s'⟩, hrun⟩ : ∃ x, p.runIn ⟨now, rowId⟩ s = x := ⟨_, rfl⟩
  rw [hrun] at hinv hgood ⊢
  cases o with
  | error f => exact ⟨hinv, fun a ha => by cases ha⟩
  | ok a => exact hf a (hgood a rfl) now s' hinv

theorem maintains_pure {a : α} {good : α → Prop} (h : good a) :
    Maintains rowId inv (pure a : Storage α) good := by
  intro now s hs
  refine ⟨hs, fun b hb => ?_⟩
  cases hb
  exact h

theorem maintains_throw {f : Fault} {good : α → Prop} :
    Maintains rowId inv (throw f : Storage α) good :=
  fun _ _ hs => ⟨hs, fun _ hb => by cases hb⟩

theorem maintains_found {o : Outcome α} {good : α → Prop} (h : ∀ a, o = .ok a → good a) :
    Maintains rowId inv (found o) good := by
  cases o with
  | ok a => exact maintains_pure (h a rfl)
  | error f => exact maintains_throw

theorem maintains_read : Maintains rowId inv (read : Storage Surroundings) fun _ => True :=
  fun _ _ hs => ⟨hs, fun _ _ => trivial⟩

theorem Maintains.explained {text : String} {p : Storage α} {good : α → Prop}
    (hp : Maintains rowId inv p good) : Maintains rowId inv (explained text p) good := by
  intro now s hs
  obtain ⟨hinv, hgood⟩ := hp now s hs
  rw [runIn_explained_eq]
  obtain ⟨⟨o, s'⟩, hrun⟩ : ∃ x, p.runIn ⟨now, rowId⟩ s = x := ⟨_, rfl⟩
  rw [hrun] at hinv hgood ⊢
  cases o with
  | ok a => exact ⟨hinv, hgood⟩
  | error f => exact ⟨hinv, fun a ha => by cases ha⟩

end Maintaining

/-! ## Reading -/

section Reading

variable {α : Type} {rowId : Nat → String} {books : Books} {start db : Database} {s : Session}
  {t : TableName}

/-- A session may come to hold other rows, if they are admitted. -/
theorem Session.Open.holding (hs : s.Open rowId start books) {rows : List t.Row}
    (hrows : ∀ r ∈ rows, books.Admits t r) : ∀ u, ∀ r ∈ (s.held.set t rows).get u, books.Admits u r :=
  PerTable.forall_get_set (P := fun u rows => ∀ r ∈ rows, books.Admits u r) hs.held hrows

/-- Stored rows are admitted. -/
theorem Session.Open.stored (hs : s.Open rowId start books) :
    ∀ r ∈ s.database.rowsOf t, books.Admits t r := by
  intro r hr
  cases t with
  | leads => exact hs.ready.leads r hr
  | workflows =>
    rw [← hs.accounts]
    exact hr
  | _ => trivial

/-- An open session whose statements see this database. -/
abbrev Untouched (rowId : Nat → String) (start : Database) (books : Books) (db : Database) (s : Session) :
    Prop :=
  s.Open rowId start books ∧ s.database = db

/-- What only reads leaves an open session open. -/
theorem maintains_of_untouched {p : Storage α} {good : α → Prop}
    (hp : ∀ db, Maintains rowId (Untouched rowId start books db) p good) :
    Maintains rowId (fun s => s.Open rowId start books) p good := by
  intro now s hs
  obtain ⟨hinv, hgood⟩ := hp s.database now s ⟨hs, rfl⟩
  exact ⟨hinv.1, hgood⟩

/-- The rows that are answered are admitted, and have the ids of stored ones that were wanted. -/
theorem maintains_select (wanted : Selection t.Row) :
    Maintains rowId (Untouched rowId start books db) (select t wanted) fun rows =>
      ∀ r ∈ rows, books.Admits t r ∧
        ∃ stored : t.Row, wanted.keep stored = true ∧ t.idOf r = t.idOf stored := by
  rintro now s ⟨hs, rfl⟩
  rw [runIn_select hs.alive (hs.ready.rows_eq t), runIn_remembered]
  refine ⟨⟨⟨hs.alive, hs.ready, hs.accounts, hs.begun, hs.holding fun r hr => ?_⟩, rfl⟩,
    fun rows hrows r hr => ?_⟩
  · obtain hr | hr := List.mem_append.mp hr
    · exact hs.held t r hr
    · exact hs.stored r (Selection.mem_apply (List.mem_filter.mp hr).1).1
  · cases hrows
    obtain ⟨stored, hmem, rfl⟩ := List.mem_map.mp hr
    obtain ⟨hstored, hkeep⟩ := Selection.mem_apply hmem
    cases hheld : heldFor t (s.held.get t) stored with
    | none => exact ⟨hs.stored stored hstored, stored, hkeep, rfl⟩
    | some h =>
      obtain ⟨hmem, hid⟩ := mem_of_heldFor hheld
      exact ⟨hs.held t h hmem, stored, hkeep, hid⟩

theorem maintains_selectOne (keep : t.Row → Bool) (id : String) :
    Maintains rowId (Untouched rowId start books db) (selectOne t keep id) fun found =>
      ∀ r, found = some r → books.Admits t r ∧ t.idOf r = id := by
  refine Maintains.bind (maintains_select _) fun rows hrows => maintains_pure fun r hr => ?_
  obtain ⟨hadmitted, stored, hstored, hid⟩ := hrows r (List.mem_of_mem_head? hr)
  have hwanted : (t.idOf stored == id && keep stored) = true := hstored
  simp only [Bool.and_eq_true, beq_iff_eq] at hwanted
  exact ⟨hadmitted, hid.trans hwanted.1⟩

/-- A workflow that is found is in the books. -/
theorem maintains_findWorkflow (owner id : String) :
    Maintains rowId (Untouched rowId start books db) (findWorkflow owner id) fun w =>
      w.id = id ∧ ∃ r ∈ books.workflows, r.id = id := by
  refine Maintains.bind (maintains_selectOne _ id) fun found hfound => ?_
  cases found with
  | none => exact maintains_throw
  | some r =>
    obtain ⟨hmem, hid⟩ := hfound r rfl
    exact maintains_found fun w hw => ⟨(WorkflowRow.workflow_id hw).trans hid, r, hmem, hid⟩

theorem maintains_selectLeads (owner : String) (q : LeadQuery) :
    Maintains rowId (Untouched rowId start books db) (selectLeads owner q) fun _ => True := by
  refine Maintains.bind (Maintains.explained ?_) fun rows (_ : True) => ?_
  · split
    · exact maintains_throw
    · exact (maintains_select _).mono fun _ _ => trivial
  · exact Maintains.bind (maintains_found fun _ _ => trivial) fun _ (_ : True) => maintains_pure trivial

theorem maintains_findTemplate (owner name : String) :
    Maintains rowId (Untouched rowId start books db) (findTemplate owner name) fun _ => True :=
  Maintains.bind (Maintains.explained (maintains_select _)) fun _ _ => maintains_pure trivial

end Reading

/-! ## Adding rows -/

section Adding

variable {rowId : Nat → String} {books : Books} {start : Database} {s : Session} {t : TableName}

/-- A session with a row more in a table that is only added to. -/
theorem Session.Open.with_row (hs : s.Open rowId start books) (hleads : t ≠ .leads)
    (hworkflows : t ≠ .workflows) {r : t.Row} {issued : Nat} (hissued : s.issued ≤ issued)
    (hr : t.isNumbered = true → ∀ n, issued ≤ n → t.idOf r ≠ rowId n) :
    ({ s with
      database := s.database.withRows t (s.database.rowsOf t ++ [r])
      held := s.held.set t (s.held.get t ++ [r])
      issued := issued } : Session).Open rowId start
        (s.database.withRows t (s.database.rowsOf t ++ [r])).books := by
  have hworkflows' : (s.database.withRows t (s.database.rowsOf t ++ [r])).books.workflows =
      books.workflows := by
    rw [← hs.accounts]
    exact rowsOf_withRows_of_ne _ (Ne.symm hworkflows) _
  have hadmits : ∀ u (q : u.Row), books.Admits u q →
      (s.database.withRows t (s.database.rowsOf t ++ [r])).books.Admits u q := by
    intro u q hq
    cases u with
    | workflows =>
      change q ∈ (s.database.withRows t (s.database.rowsOf t ++ [r])).books.workflows
      rw [hworkflows']
      exact hq
    | _ => exact hq
  have hlast : books.Admits t r := by
    cases t with
    | leads => exact absurd rfl hleads
    | workflows => exact absurd rfl hworkflows
    | _ => trivial
  have hheld : ∀ q ∈ s.held.get t ++ [r], books.Admits t q := by
    intro q hq
    obtain hq | hq := List.mem_append.mp hq
    · exact hs.held t q hq
    · obtain rfl : q = r := by simpa using hq
      exact hlast
  refine ⟨hs.alive, (hs.ready.mono hissued).withRows ?_ ?_, rfl, hs.begun.mono hissued, fun u q hq => ?_⟩
  · rw [rowsOf_withRows_of_ne _ (Ne.symm hleads)]
    exact hs.ready.leads
  · intro n ht hn q hq
    obtain hq | hq := List.mem_append.mp hq
    · exact lacks_iff_rowsOf.mp (hs.ready.fresh t n ht (Nat.le_trans hissued hn)) q hq
    · obtain rfl : q = r := by simpa using hq
      exact hr ht n hn
  · exact hadmits u q (hs.holding hheld u q hq)

variable (hsupply : Function.Injective rowId)

include hsupply

/-- A row with the next id of the supply is inserted. -/
theorem runIn_insert_numbered (now : Moment) (ht : t.isNumbered = true) {make : Stamp → t.Row}
    (hid : ∀ stamp, t.idOf (make stamp) = stamp.id) (hs : s.Open rowId start books) :
    ∃ stamp s', (insert t none make).runIn ⟨now, rowId⟩ s = (.ok (make stamp), s') ∧
      s'.Open rowId start (s.database.withRows t (s.database.rowsOf t ++ [make stamp])).books := by
  have hnew : ∀ r ∈ s.database.rowsOf t, t.idOf r ≠ (none : Option String).getD (rowId s.issued) :=
    lacks_iff_rowsOf.mp (hs.ready.fresh t s.issued ht (Nat.le_refl _))
  obtain ⟨stamp, hstamp, hrun⟩ := runIn_insert ⟨now, rowId⟩ hid hs.alive (hs.ready.rows_eq _) hnew
  have hleads : t ≠ .leads := by rintro rfl; cases ht
  have hworkflows : t ≠ .workflows := by rintro rfl; cases ht
  refine ⟨stamp, _, hrun, hs.with_row hleads hworkflows (Nat.le_succ _) fun _ n hn heq => ?_⟩
  rw [hid, hstamp] at heq
  have hn : s.issued + 1 ≤ n := hn
  have hlast : s.issued = n := hsupply heq
  omega

/-- Queued messages are in no books. -/
theorem maintains_queueMessages (owner : String) (leads : List Lead) (content : Content) (due : Moment) :
    Maintains rowId (fun s => s.Open rowId start books) (queueMessages owner leads content due)
      fun _ => True := by
  have hinsert : ∀ lead, Maintains rowId (fun s => s.Open rowId start books)
      (insert .messages none (messageRow owner content due lead)) fun _ => True := by
    intro lead now s hs
    have hid : ∀ stamp, TableName.messages.idOf (messageRow owner content due lead stamp) = stamp.id :=
      fun _ => rfl
    obtain ⟨stamp, s', hrun, hs'⟩ := runIn_insert_numbered hsupply now rfl hid hs
    rw [hrun]
    exact ⟨hs.accounts ▸ hs', fun _ _ => trivial⟩
  have hall : ∀ makes : List (Stamp → MessageRow),
      (∀ make ∈ makes, ∃ lead, make = messageRow owner content due lead) →
      Maintains rowId (fun s => s.Open rowId start books) (insertAll .messages makes) fun _ => True := by
    intro makes hmakes
    induction makes with
    | nil => exact maintains_pure trivial
    | cons make makes ih =>
      obtain ⟨⟨lead, rfl⟩, hrest⟩ := List.forall_mem_cons.mp hmakes
      have hfirst : Maintains rowId (fun s => s.Open rowId start books)
          (do let _ ← insert .messages none (messageRow owner content due lead)) fun _ => True :=
        Maintains.bind (hinsert lead) fun _ _ => maintains_pure trivial
      exact Maintains.bind hfirst fun _ _ => ih hrest
  refine Maintains.bind (Maintains.explained (hall _ fun make hmake => ?_)) fun _ _ =>
    maintains_pure trivial
  obtain ⟨lead, -, rfl⟩ := List.mem_map.mp hmake
  exact ⟨lead, rfl⟩

/-- An entry is added to the audit log. -/
theorem runIn_appendAudit (now : Moment) (actor : String) (action : AuditAction) (details : String)
    (hs : s.Open rowId start books) :
    ∃ entry s', (appendAudit actor (some action.word) (some details)).runIn ⟨now, rowId⟩ s = (.ok (), s') ∧
      entry.actor = actor ∧ entry.action = action.word ∧
      s'.Open rowId start { books with closings := books.closings ++ [entry].filter AuditRow.isClosing } := by
  obtain ⟨make, hmake⟩ : ∃ make : Stamp → AuditRow, make = fun s =>
      ({ toStamp := s, actor := actor, action := action.word, details := details } : AuditRow) := ⟨_, rfl⟩
  have hid : ∀ stamp, TableName.audits.idOf (make stamp) = stamp.id := by
    intro stamp
    rw [hmake]
    rfl
  obtain ⟨stamp, s', hrun, hs'⟩ := runIn_insert_numbered hsupply now rfl hid hs
  refine ⟨make stamp, s', ?_, by rw [hmake], by rw [hmake], ?_⟩
  · rw [hmake] at hrun
    exact runIn_explained (runIn_bind_of_ok hrun _)
  · have hbooks : (s.database.withRows .audits (s.database.rowsOf .audits ++ [make stamp])).books =
        { books with closings := books.closings ++ [make stamp].filter AuditRow.isClosing } := by
      rw [← hs.accounts]
      unfold Database.books
      rw [rowsOf_withRows_self, List.filter_append]
      rfl
    rw [← hbooks]
    exact hs'

/-- The entry that closes an execution. -/
theorem runIn_closing (now : Moment) (actor details : String) (hs : s.Open rowId start books) :
    ∃ entry s', (appendAudit actor (some AuditAction.executed.word) (some details)).runIn ⟨now, rowId⟩ s =
        (.ok (), s') ∧ entry.actor = actor ∧ entry.isClosing = true ∧
      s'.Open rowId start { books with closings := books.closings ++ [entry] } := by
  obtain ⟨entry, s', hrun, hactor, haction, hs'⟩ :=
    runIn_appendAudit hsupply now actor .executed details hs
  have hclosing : entry.isClosing = true := by simp [AuditRow.isClosing, haction]
  refine ⟨entry, s', hrun, hactor, hclosing, ?_⟩
  simpa [hclosing] using hs'

/-- Any other entry is in no books. -/
theorem maintains_appendAudit (actor : String) {action : AuditAction} (haction : action ≠ .executed)
    (details : String) :
    Maintains rowId (fun s => s.Open rowId start books)
      (appendAudit actor (some action.word) (some details)) fun _ => True := by
  intro now s hs
  obtain ⟨entry, s', hrun, -, hword, hs'⟩ := runIn_appendAudit hsupply now actor action details hs
  have hother : entry.isClosing = false := by
    unfold AuditRow.isClosing
    rw [hword]
    cases action with
    | executed => exact absurd rfl haction
    | alert => rfl
    | fallbackAlert => rfl
  rw [hrun]
  refine ⟨?_, fun _ _ => trivial⟩
  simpa [hother] using hs'

omit hsupply

/-- A run is stored under the actor, if its id is new. -/
theorem runIn_saveRun (now : Moment) (actor workflowId leadId : String) {run : Run}
    (hid : ∀ r ∈ books.executions, r.id ≠ run.id) (hs : s.Open rowId start books) :
    ∃ stamp s', (saveRun actor workflowId leadId run).runIn ⟨now, rowId⟩ s = (.ok (), s') ∧
      stamp.id = run.id ∧
      s'.Open rowId start { books with
        executions := books.executions ++ [executionRow actor workflowId leadId run stamp] } := by
  have hnew : ∀ r ∈ s.database.rowsOf .executions,
      TableName.executions.idOf r ≠ (some run.id).getD (rowId s.issued) := by
    rw [← hs.accounts] at hid
    exact hid
  have hrowId : ∀ stamp, TableName.executions.idOf (executionRow actor workflowId leadId run stamp) =
      stamp.id := fun _ => rfl
  obtain ⟨stamp, hstamp, hrun⟩ := runIn_insert ⟨now, rowId⟩ hrowId hs.alive (hs.ready.rows_eq _) hnew
  have hs' := hs.with_row (t := .executions) (r := executionRow actor workflowId leadId run stamp)
    (by decide) (by decide) (Nat.le_refl _) fun ht => by cases ht
  refine ⟨stamp, _, runIn_explained (runIn_bind_of_ok hrun _), hstamp, ?_⟩
  rw [← hs.accounts]
  exact hs'

end Adding

/-! ## Changing leads -/

section Changing

variable {rowId : Nat → String} {books : Books} {start : Database} {s : Session} {t : TableName}

theorem mem_replaced {id : String} {r q : t.Row} {rows : List t.Row} (h : q ∈ replaced t id r rows) :
    q = r ∨ q ∈ rows ∧ t.idOf q ≠ id := by
  obtain ⟨q', hq', rfl⟩ := List.mem_map.mp h
  split
  · exact .inl rfl
  · rename_i hid
    exact .inr ⟨hq', by simpa using hid⟩

theorem maintains_hold_lead {kept : LeadRow} (id : String) (hkept : kept.IsStorable) :
    Maintains rowId (fun s => s.Open rowId start books) (hold .leads id kept) fun _ => True := by
  intro now s hs
  refine ⟨⟨hs.alive, hs.ready, hs.accounts, hs.begun, hs.holding (t := .leads) fun q hq => ?_⟩,
    fun _ _ => trivial⟩
  obtain rfl | ⟨hq, -⟩ := mem_replaced hq
  · exact hkept
  · exact hs.held .leads q hq

/-- A lead takes the place of another version of it. -/
theorem maintains_overwrite_lead {id : String} {r kept : LeadRow} (hid : r.id = id) (hr : r.IsStorable)
    (hkept : kept.IsStorable) :
    Maintains rowId (fun s => s.Open rowId start books) (overwrite .leads id r kept) fun _ => True := by
  intro now s hs
  have hid : TableName.leads.idOf r = id := hid
  rw [runIn_overwrite_of_id hid, hs.ready.rows_eq]
  have hready : (s.database.withRows .leads (replaced .leads id r (s.database.rowsOf .leads))).Ready
      rowId s.issued := by
    refine hs.ready.withRows (fun q hq => ?_) fun n ht => by cases ht
    rw [rowsOf_withRows_self] at hq
    obtain rfl | ⟨hq, -⟩ := mem_replaced hq
    · exact hr
    · exact hs.ready.leads q hq
  refine ⟨⟨hs.alive, hready, hs.accounts, hs.begun, hs.holding (t := .leads) fun q hq => ?_⟩,
    fun _ _ => trivial⟩
  obtain rfl | ⟨hq, -⟩ := mem_replaced hq
  · exact hkept
  · exact hs.held .leads q hq

/-- A lead that can be stored is written, with the same id. -/
theorem maintains_writeLead {before after : LeadRow} (hid : after.id = before.id)
    (hafter : after.IsStorable) :
    Maintains rowId (fun s => s.Open rowId start books) (writeLead before after) fun _ => True := by
  unfold writeLead
  split
  · exact Maintains.bind (maintains_hold_lead _ hafter) fun _ _ => maintains_pure trivial
  · refine Maintains.bind maintains_read fun around _ => ?_
    dsimp only
    generalize hnoted : (if after.updatedAt = before.updatedAt then
      { after with updatedAt := around.now } else after) = noted
    have hnoted : noted.id = before.id ∧ noted.IsStorable := by
      rw [← hnoted]
      split <;> exact ⟨hid, hafter⟩
    obtain ⟨n, hn⟩ := hnoted.2
    have hscored : ({ noted with score := n } : LeadRow).IsStorable := ⟨n, storedNumber_stored hn⟩
    have hwritten : Maintains rowId (fun s => s.Open rowId start books) (written (storedNumber noted.score))
        fun score => score = n := by
      rw [hn]
      exact maintains_pure rfl
    refine Maintains.bind hwritten fun score hscore => ?_
    rw [hscore]
    exact Maintains.bind (maintains_overwrite_lead hnoted.1 hscored hnoted.2) fun _ _ =>
      maintains_pure trivial

/-- A patch of a step can always be assigned, and leaves id and score alone. -/
theorem assignAll_patchOfStep {patch : Fields} (hpatch : Call.isPatchOfStep patch = true) (r : LeadRow) :
    ∃ after, r.assignAll (patchColumns patch) = .ok after ∧ after.id = r.id ∧ after.score = r.score := by
  unfold Call.isPatchOfStep at hpatch
  split at hpatch
  · rename_i status
    exact ⟨{ r with status := status }, rfl, rfl, rfl⟩
  · rename_i knowledge
    exact ⟨{ r with knowledgeBase := .object knowledge }, rfl, rfl, rfl⟩
  · cases hpatch

/-- A patch of a step is in no books. -/
theorem maintains_patchLead (owner id : String) {patch : Fields} (hpatch : Call.isPatchOfStep patch = true) :
    Maintains rowId (fun s => s.Open rowId start books) (patchLead owner id patch) fun _ => True := by
  have hchange : Maintains rowId (fun s => s.Open rowId start books)
      (changeLead owner id (patchColumns patch)) fun _ => True := by
    refine Maintains.bind (maintains_of_untouched fun db => maintains_selectOne _ id) fun found hfound => ?_
    cases found with
    | none => exact maintains_pure trivial
    | some before =>
      obtain ⟨after, hassign, hid, hscore⟩ := assignAll_patchOfStep hpatch before
      have hbefore : before.IsStorable := (hfound before rfl).1
      have hafter : after.IsStorable := by
        unfold LeadRow.IsStorable
        rw [hscore]
        exact hbefore
      have hwritten : Maintains rowId (fun s => s.Open rowId start books)
          (written (before.assignAll (patchColumns patch))) fun r => r = after := by
        rw [hassign]
        exact maintains_pure rfl
      refine Maintains.bind hwritten fun r hr => ?_
      rw [hr]
      exact Maintains.bind (maintains_writeLead hid hafter) fun _ _ => maintains_pure trivial
  unfold patchLead
  dsimp only
  split
  · exact maintains_pure trivial
  · refine Maintains.bind (Maintains.explained hchange) fun found _ => ?_
    cases found with
    | none => exact maintains_pure trivial
    | some r => exact maintains_pure trivial

/-! ## The calls of steps -/

/-- Whatever a step asks of storage, the session stays open with the same books. -/
theorem answerTo_maintains (hsupply : Function.Injective rowId) {owner : String} {c : Call}
    (hc : c.isOfStep owner = true) {work : Storage c.Reply} (hwork : answerTo owner c = some work) :
    Maintains rowId (fun s => s.Open rowId start books) work fun _ => True := by
  cases c with
  | updateRecord id patch =>
    cases hwork
    exact maintains_patchLead owner id hc
  | scheduleMessage leads content due =>
    cases hwork
    exact maintains_queueMessages hsupply owner leads content due
  | getTemplate id =>
    cases hwork
    exact maintains_of_untouched fun db => maintains_findTemplate owner id
  | audit name action details =>
    have haction : action ≠ .executed := by
      rintro rfl
      simp [Call.isOfStep] at hc
    cases hwork
    exact maintains_appendAudit hsupply name haction details
  | saveRun workflowId leadId run => cases hc
  | updateStats workflowId runs hours => cases hc
  | sendMessage address content tracking leadId => cases hwork
  | generate lead brief => cases hwork

end Changing

/-! ## Changing statistics -/

section Folding

variable {rowId : Nat → String} {books : Books} {start : Database} {s : Session} {row : WorkflowRow}

/-- A workflow in the books is found by its id. -/
theorem runIn_selectOne_workflow (now : Moment) (hs : s.Open rowId start books)
    (hunique : (books.workflows.map (·.id)).Nodup) (hrow : row ∈ books.workflows) :
    ∃ s', (selectOne .workflows (fun _ => true) row.id).runIn ⟨now, rowId⟩ s = (.ok (some row), s') ∧
      s'.Open rowId start books := by
  have hselected : ∃ s' first rest, (select .workflows
      (.only fun r => TableName.idOf .workflows r == row.id && true)).runIn ⟨now, rowId⟩ s =
        (.ok (first :: rest), s') := by
    rw [runIn_select hs.alive (hs.ready.rows_eq _), runIn_remembered]
    have hmem : row ∈ (Selection.only fun r : WorkflowRow =>
        TableName.idOf .workflows r == row.id && true).apply (s.database.rowsOf .workflows) := by
      rw [← hs.accounts] at hrow
      have hkeep : (row.id == row.id && true) = true := by simp
      exact List.mem_filter.mpr ⟨hrow, hkeep⟩
    obtain ⟨first, rest, hrows⟩ := List.exists_cons_of_ne_nil (List.ne_nil_of_mem hmem)
    rw [hrows]
    exact ⟨_, _, _, rfl⟩
  obtain ⟨s', first, rest, hrun⟩ := hselected
  have hone : (selectOne .workflows (fun _ => true) row.id).runIn ⟨now, rowId⟩ s =
      (.ok (some first), s') := by
    unfold selectOne
    rw [runIn_bind_of_ok hrun]
    rfl
  obtain ⟨hs', hfound⟩ :=
    maintains_of_untouched (fun _ => maintains_selectOne (fun _ => true) row.id) now s hs
  rw [hone] at hs' hfound
  obtain ⟨hfirst, hid⟩ := hfound _ rfl first rfl
  have hsame : first = row := List.inj_on_of_nodup_map hunique hfirst hrow hid
  rw [hsame] at hone
  exact ⟨s', hone, hs'⟩

/-- A session after a workflow has been written to the rows that it sees. -/
def Session.withWorkflow (s : Session) (rows : List WorkflowRow) (row : WorkflowRow) : Session :=
  { s with
    database := s.database.withRows .workflows (replaced .workflows row.id row rows)
    held := s.held.set .workflows (replaced .workflows row.id row (s.held.get .workflows)) }

/-- In a session a workflow can take the place of another version of it. -/
theorem Session.Open.with_workflow (hs : s.Open rowId start books) (hrow : row ∈ books.workflows)
    {r : WorkflowRow} (hid : r.id = row.id) :
    (s.withWorkflow books.workflows r).Open rowId start
      { books with workflows := replaced .workflows row.id r books.workflows } := by
  have hr : r ∈ replaced .workflows row.id r books.workflows := by
    refine List.mem_map.mpr ⟨row, hrow, ?_⟩
    simp [TableName.idOf, TableName.stamp]
  have hkept : ∀ q ∈ books.workflows, q.id ≠ row.id →
      q ∈ replaced .workflows row.id r books.workflows := by
    intro q hq hid
    refine List.mem_map.mpr ⟨q, hq, ?_⟩
    simp [TableName.idOf, TableName.stamp, hid]
  unfold Session.withWorkflow
  rw [hid]
  refine ⟨hs.alive, hs.ready.withRows hs.ready.leads fun n ht => (by cases ht), ?_, hs.begun,
    fun u q hq => ?_⟩
  · rw [← hs.accounts]
    rfl
  · cases u with
    | workflows =>
      obtain rfl | ⟨hq, hid⟩ := mem_replaced hq
      · exact hr
      · exact hkept q (hs.held .workflows q hq) hid
    | leads => exact hs.held .leads q hq
    | _ => trivial

/-- The statistics of a workflow that runs are folded into, with the time of the change. -/
def WorkflowRow.folded (row : WorkflowRow) (stats : Stats) (now : Moment) : WorkflowRow :=
  { row with stats := .object stats.stored, updatedAt := now }

/-- Other statistics are written, whatever rows the session holds. -/
theorem runIn_writeStats (now : Moment) {rows : List WorkflowRow} {before after : Stats}
    (hrows : s.database.rows .workflows = .ok rows) (hbefore : row.statistics = .ok before)
    (hother : after.leadsProcessed ≠ before.leadsProcessed) :
    (writeStats row after).runIn ⟨now, rowId⟩ s = (.ok (), s.withWorkflow rows (row.folded after now)) := by
  have hdecode : Stats.decode (valueOr (.object []) row.stats) = .ok before := by
    unfold WorkflowRow.statistics Decode.Checked.toOutcome at hbefore
    split at hbefore <;> cases hbefore
    assumption
  have hsame : (Value.object after.stored).same row.stats = false := by
    cases hsame : (Value.object after.stored).same row.stats with
    | false => rfl
    | true => exact absurd (Stats.same_stored hdecode hsame) hother
  have hread : (read : Storage Surroundings).runIn ⟨now, rowId⟩ s = (.ok ⟨now, rowId⟩, s) := rfl
  have hid : TableName.workflows.idOf (row.folded after now) = row.id := rfl
  unfold writeStats
  dsimp only
  rw [hsame, if_neg (by simp), runIn_bind_of_ok hread]
  change (overwrite .workflows row.id (row.folded after now) (row.folded after now)).runIn _ _ = _
  rw [runIn_overwrite_of_id hid, hrows]
  rfl

/-- Runs are folded into the statistics of the row that the session finds.  Where that comes to nothing,
nothing is written. -/
theorem runIn_foldRuns_of_found (now : Moment) {id : String} {statuses : List RunStatus}
    (saving : Nat → Outcome Float) {rows : List WorkflowRow} {before : Stats} {s₁ : Session}
    (hfind : (selectOne .workflows (fun _ => true) id).runIn ⟨now, rowId⟩ s = (.ok (some row), s₁))
    (hrows : s₁.database.rows .workflows = .ok rows) (hbefore : row.statistics = .ok before)
    (hstatuses : statuses ≠ []) :
    match before.accumulate statuses saving with
    | .ok after => (foldRuns id statuses saving).runIn ⟨now, rowId⟩ s =
        (.ok after, s₁.withWorkflow rows (row.folded after now))
    | .error _ => ∃ f, (foldRuns id statuses saving).runIn ⟨now, rowId⟩ s = (.error f, s₁) := by
  have hfound : ∀ {α : Type} (a : α) (s : Session),
      (found (.ok a)).runIn ⟨now, rowId⟩ s = (.ok a, s) := fun _ _ => rfl
  cases haccumulate : before.accumulate statuses saving with
  | ok after =>
    have hcount := Stats.leadsProcessed_of_accumulate haccumulate
    have hlength := List.length_pos_of_ne_nil hstatuses
    have hother : after.leadsProcessed ≠ before.leadsProcessed := by omega
    refine runIn_explained ?_
    rw [runIn_bind_of_ok hfind]
    dsimp only
    rw [hbefore, runIn_bind_of_ok (hfound before s₁), haccumulate, runIn_bind_of_ok (hfound after s₁),
      runIn_bind_of_ok (runIn_writeStats now hrows hbefore hother)]
    rfl
  | error f =>
    have hrun : (do
        let before ← found (WorkflowRow.statistics row)
        let stats ← found (before.accumulate statuses saving)
        writeStats row stats
        return stats : Storage Stats).runIn ⟨now, rowId⟩ s₁ = (.error f, s₁) := by
      rw [hbefore, runIn_bind_of_ok (hfound before s₁), haccumulate]
      rfl
    unfold foldRuns
    rw [runIn_explained_eq, runIn_bind_of_ok hfind]
    dsimp only
    rw [hrun]
    exact ⟨_, rfl⟩

/-- Runs are folded into the statistics of a workflow in the books.  Where that comes to nothing, the
books stay as they are. -/
theorem runIn_foldRuns (now : Moment) {statuses : List RunStatus} (saving : Nat → Outcome Float)
    {before : Stats} (hs : s.Open rowId start books) (hunique : (books.workflows.map (·.id)).Nodup)
    (hrow : row ∈ books.workflows) (hbefore : row.statistics = .ok before) (hstatuses : statuses ≠ []) :
    match before.accumulate statuses saving with
    | .ok after => ∃ s', (foldRuns row.id statuses saving).runIn ⟨now, rowId⟩ s = (.ok after, s') ∧
        s'.Open rowId start { books with
          workflows := replaced .workflows row.id (row.folded after now) books.workflows }
    | .error _ => ∃ f s', (foldRuns row.id statuses saving).runIn ⟨now, rowId⟩ s = (.error f, s') ∧
        s'.Open rowId start books := by
  obtain ⟨s₁, hfind, hs₁⟩ := runIn_selectOne_workflow now hs hunique hrow
  have hworkflows : s₁.database.rowsOf .workflows = books.workflows := congrArg Books.workflows hs₁.accounts
  have hrows : s₁.database.rows .workflows = .ok books.workflows := hworkflows ▸ hs₁.ready.rows_eq _
  have hfold := runIn_foldRuns_of_found now saving hfind hrows hbefore hstatuses
  cases haccumulate : before.accumulate statuses saving with
  | ok after =>
    rw [haccumulate] at hfold
    exact ⟨_, hfold, hs₁.with_workflow hrow rfl⟩
  | error f =>
    rw [haccumulate] at hfold
    obtain ⟨f', hfold⟩ := hfold
    exact ⟨f', s₁, hfold, hs₁⟩

end Folding

end LeadFlow.Storage
