import LeadFlow.Proofs.Storage.Fresh
import LeadFlow.Proofs.Storage.Ledger

set_option autoImplicit false

/-!
# Storage: work that only adds rows

Work that reads and inserts, and changes no row, takes a database to one with more rows at the end of its
tables.  `Reaches` says which one, and that the work does not fault without an excuse.  The ids of new rows come
from a supply; an insertion has an excuse to fault only where the supply gives an id that is taken.

Main statements: `Reaches.bind`, `reaches_select`, `reaches_insertAll`, and `transact_of_reaches` for a
transaction as a whole.
-/

namespace LeadFlow.Storage

open Calendar

/-! ## Whole databases -/

/-- The database can be reached and has all its tables. -/
structure Database.Whole (db : Database) : Prop where
  reachable : db.reachable = true
  tables : ∀ t, db.tables.get t = some (db.rowsOf t)

/-- The ids that a supply has still to give are free, and no two of them are the same. -/
structure Database.Spares (db : Database) (rowId : Nat → String) (issued : Nat) : Prop where
  free : ∀ t n, issued ≤ n → db.Lacks t (rowId n)
  apart : ∀ m n, issued ≤ m → m < n → rowId m ≠ rowId n

/-- The database with more rows at the end of a table. -/
def Database.plus (db : Database) (t : TableName) (added : List t.Row) : Database :=
  db.withRows t (db.rowsOf t ++ added)

/-- The rows are made one from each item, each with a stamp of its own. -/
def Stamped {α ρ : Type} (make : α → Stamp → ρ) (as : List α) (rows : List ρ) : Prop :=
  List.Forall₂ (fun a r => ∃ stamp, r = make a stamp) as rows

section Databases

variable {db : Database} {t u : TableName} {added : List t.Row}

theorem PerTable.ext_get {F : Type → Type} {p q : PerTable F} (h : ∀ t, p.get t = q.get t) : p = q := by
  obtain ⟨_, _, _, _, _, _⟩ := p
  obtain ⟨_, _, _, _, _, _⟩ := q
  rw [PerTable.mk.injEq]
  exact ⟨h .leads, h .workflows, h .templates, h .executions, h .messages, h .audits⟩

theorem Database.ext_get {db db' : Database} (hreach : db.reachable = db'.reachable)
    (htables : ∀ t, db.tables.get t = db'.tables.get t) : db = db' := by
  obtain ⟨tables, reachable⟩ := db
  obtain ⟨tables', reachable'⟩ := db'
  rw [Database.mk.injEq]
  exact ⟨PerTable.ext_get htables, hreach⟩

namespace Database.Whole

theorem rows_eq (h : db.Whole) (t : TableName) : db.rows t = .ok (db.rowsOf t) :=
  Database.rows_eq_ok_iff.mpr ⟨h.reachable, h.tables t⟩

/-- Whole databases with the same rows are the same. -/
theorem eq_of_rowsOf {db' : Database} (h : db.Whole) (h' : db'.Whole)
    (hrows : ∀ t, db.rowsOf t = db'.rowsOf t) : db = db' :=
  Database.ext_get (h.reachable.trans h'.reachable.symm) fun t => by rw [h.tables, h'.tables, hrows]

theorem plus (h : db.Whole) : (db.plus t added).Whole := by
  refine ⟨h.reachable, fun u => ?_⟩
  by_cases htable : u = t
  · subst htable
    unfold Database.plus
    rw [rowsOf_withRows_self]
    exact PerTable.get_set_self _ _ _
  · unfold Database.plus
    rw [rowsOf_withRows_of_ne _ htable, ← h.tables]
    exact PerTable.get_set_of_ne _ htable _

end Database.Whole

@[simp] theorem rowsOf_plus_self : (db.plus t added).rowsOf t = db.rowsOf t ++ added := rowsOf_withRows_self _ _ _

theorem rowsOf_plus_of_ne (h : u ≠ t) : (db.plus t added).rowsOf u = db.rowsOf u :=
  rowsOf_withRows_of_ne _ h _

/-- Adding no rows changes nothing. -/
theorem Database.Whole.plus_nil (h : db.Whole) : db.plus t [] = db := by
  refine h.plus.eq_of_rowsOf h fun u => ?_
  by_cases htable : u = t
  · subst htable
    rw [rowsOf_plus_self, List.append_nil]
  · rw [rowsOf_plus_of_ne htable]

theorem Database.plus_plus {more : List t.Row} : (db.plus t added).plus t more = db.plus t (added ++ more) := by
  refine Database.ext_get rfl fun u => ?_
  unfold Database.plus
  rw [rowsOf_withRows_self, List.append_assoc]
  by_cases htable : u = t
  · subst htable
    simp [Database.withRows]
  · simp [Database.withRows, PerTable.get_set_of_ne _ htable]

/-! ### Missing tables -/

theorem reachable_ensureAll (ts : List TableName) (db : Database) :
    (ts.foldl Database.ensure db).reachable = db.reachable := by
  induction ts generalizing db with
  | nil => rfl
  | cons t ts ih =>
    rw [List.foldl_cons, ih]
    unfold Database.ensure
    split <;> rfl

/-- A missing table is added without rows, and no other is touched. -/
theorem get_ensure (db : Database) (t u : TableName) :
    (db.ensure t).tables.get u = if u = t then some (db.rowsOf u) else db.tables.get u := by
  unfold Database.ensure Database.rowsOf
  by_cases htable : u = t
  · subst htable
    rw [if_pos rfl]
    cases hrows : db.tables.get u with
    | some rows => exact hrows
    | none => exact PerTable.get_set_self _ _ _
  · rw [if_neg htable]
    cases db.tables.get t with
    | some rows => rfl
    | none => exact PerTable.get_set_of_ne _ htable _

theorem get_ensureAll (ts : List TableName) (db : Database) (u : TableName) :
    (ts.foldl Database.ensure db).tables.get u = if u ∈ ts then some (db.rowsOf u) else db.tables.get u := by
  induction ts generalizing db with
  | nil => rfl
  | cons t ts ih =>
    have hrows : (db.ensure t).rowsOf u = db.rowsOf u := by
      rw [Database.rowsOf, get_ensure]
      split <;> rfl
    rw [List.foldl_cons, ih, hrows, get_ensure]
    by_cases hmem : u ∈ ts
    · rw [if_pos hmem, if_pos (List.mem_cons_of_mem _ hmem)]
    · simp [hmem]

theorem get_complete (hreach : db.reachable = true) (t : TableName) :
    db.complete.tables.get t = some (db.rowsOf t) := by
  have hmem : t ∈ TableName.all := by cases t <;> simp [TableName.all]
  rw [Database.complete, if_pos hreach, get_ensureAll, if_pos hmem]

theorem complete_of_unreachable (hreach : db.reachable = false) : db.complete = db := by
  rw [Database.complete, hreach]
  rfl

/-- No row is lost or added where missing tables are added. -/
theorem rowsOf_complete (db : Database) (t : TableName) : db.complete.rowsOf t = db.rowsOf t := by
  cases hreach : db.reachable with
  | true =>
    rw [Database.rowsOf, get_complete hreach]
    rfl
  | false => rw [complete_of_unreachable hreach]

theorem whole_complete (hreach : db.reachable = true) : db.complete.Whole := by
  refine ⟨?_, fun t => ?_⟩
  · rw [Database.complete, if_pos hreach, reachable_ensureAll, hreach]
  · rw [rowsOf_complete, get_complete hreach]

theorem whole_of_tables (hreach : db.reachable = true) (htables : ∀ t, db.tables.get t ≠ none) : db.Whole := by
  refine ⟨hreach, fun t => ?_⟩
  obtain ⟨rows, hrows⟩ := Option.ne_none_iff_exists'.mp (htables t)
  rw [Database.rowsOf, hrows]
  rfl

theorem Database.Whole.complete_eq (h : db.Whole) : db.complete = db :=
  (whole_complete h.reachable).eq_of_rowsOf h (rowsOf_complete db)

theorem Database.Spares.complete {rowId : Nat → String} {issued : Nat} (h : db.Spares rowId issued) :
    db.complete.Spares rowId issued := by
  refine ⟨fun t n hn => ?_, h.apart⟩
  rw [lacks_iff_rowsOf, rowsOf_complete]
  exact lacks_iff_rowsOf.mp (h.free t n hn)

/-- A row with the next id leaves the later ids free. -/
theorem Database.Spares.plus {rowId : Nat → String} {issued : Nat} (h : db.Spares rowId issued) {r : t.Row}
    (hr : t.idOf r = rowId issued) : (db.plus t [r]).Spares rowId (issued + 1) := by
  refine ⟨fun u n hn => ?_, fun m n hm hmn => h.apart m n (Nat.le_of_succ_le hm) hmn⟩
  have hold := lacks_iff_rowsOf.mp (h.free u n (Nat.le_of_succ_le hn))
  rw [lacks_iff_rowsOf]
  intro q hq
  by_cases htable : u = t
  · subst htable
    rw [rowsOf_plus_self] at hq
    obtain hq | hq := List.mem_append.mp hq
    · exact hold q hq
    · obtain rfl := List.mem_singleton.mp hq
      rw [hr]
      exact h.apart issued n (Nat.le_refl _) hn
  · rw [rowsOf_plus_of_ne htable] at hq
    exact hold q hq

end Databases

/-! ## Reaching a database -/

/-- A session that can still be used, whose statements see this database.  If the supply was free at the start it
still is. -/
structure Session.Sees (s : Session) (rowId : Nat → String) (free : Prop) (db : Database) : Prop where
  alive : s.failure = none
  database : s.database = db
  spares : free → db.Spares rowId s.issued

/-- Work in a session that sees a database either succeeds, and takes it to a good one, or has an excuse to
fault. -/
def Reaches {α : Type} (rowId : Nat → String) (free excuse : Prop) (before : Database) (p : Storage α)
    (good : α → Database → Prop) : Prop :=
  ∀ now s, s.Sees rowId free before →
    (∃ a s' after, p.runIn ⟨now, rowId⟩ s = (.ok a, s') ∧ s'.Sees rowId free after ∧ good a after) ∨
      excuse ∧ ∃ f s', p.runIn ⟨now, rowId⟩ s = (.error f, s')

section Reaching

variable {α β : Type} {rowId : Nat → String} {free excuse : Prop} {db : Database} {t : TableName}

theorem Reaches.mono {p : Storage α} {good better : α → Database → Prop}
    (hp : Reaches rowId free excuse db p good) (h : ∀ a after, good a after → better a after) :
    Reaches rowId free excuse db p better := by
  intro now s hs
  obtain ⟨a, s', after, hrun, hs', hgood⟩ | hfault := hp now s hs
  · exact .inl ⟨a, s', after, hrun, hs', h a after hgood⟩
  · exact .inr hfault

theorem Reaches.bind {p : Storage α} {f : α → Storage β} {good : α → Database → Prop}
    {better : β → Database → Prop} (hp : Reaches rowId free excuse db p good)
    (hf : ∀ a mid, good a mid → Reaches rowId free excuse mid (f a) better) :
    Reaches rowId free excuse db (p >>= f) better := by
  intro now s hs
  obtain ⟨a, s₁, mid, hrun, hs₁, hgood⟩ | ⟨hexcuse, e, s₁, hrun⟩ := hp now s hs
  · rw [runIn_bind_of_ok hrun]
    exact hf a mid hgood now s₁ hs₁
  · exact .inr ⟨hexcuse, e, s₁, runIn_bind_of_error hrun f⟩

theorem reaches_pure {a : α} {good : α → Database → Prop} (h : good a db) :
    Reaches rowId free excuse db (pure a : Storage α) good :=
  fun _ s hs => .inl ⟨a, s, db, rfl, hs, h⟩

theorem reaches_throw {f : Fault} {good : α → Database → Prop} (h : excuse) :
    Reaches rowId free excuse db (throw f : Storage α) good :=
  fun _ s _ => .inr ⟨h, f, s, rfl⟩

theorem reaches_found {a : α} {good : α → Database → Prop} (h : good a db) :
    Reaches rowId free excuse db (found (.ok a)) good := reaches_pure h

theorem reaches_read : Reaches rowId free excuse db (read : Storage Surroundings) fun _ after => after = db :=
  fun now s hs => .inl ⟨⟨now, rowId⟩, s, db, rfl, hs, rfl⟩

/-- A query answers with as many rows as are wanted.  Some may be older versions that the session holds. -/
theorem reaches_select (hdb : db.Whole) (wanted : Selection t.Row) :
    Reaches rowId free excuse db (select t wanted) fun rows after =>
      after = db ∧ rows.length = (wanted.apply (db.rowsOf t)).length := by
  intro now s hs
  have hrows : s.database.rows t = .ok (db.rowsOf t) := hs.database ▸ hdb.rows_eq t
  refine .inl ⟨_, _, db, (runIn_select hs.alive hrows).trans (runIn_remembered t _),
    ⟨hs.alive, hs.database, hs.spares⟩, rfl, ?_⟩
  rw [List.length_map]

/-- A row is put at the end of its table, with the next id of the supply. -/
theorem reaches_insert (hdb : db.Whole) (hexcuse : ¬ free → excuse) {make : Stamp → t.Row}
    (hid : ∀ stamp, t.idOf (make stamp) = stamp.id) :
    Reaches rowId free excuse db (insert t none make) fun r after =>
      (∃ stamp, r = make stamp) ∧ after = db.plus t [r] := by
  intro now s hs
  have hrows : s.database.rows t = .ok (db.rowsOf t) := hs.database ▸ hdb.rows_eq t
  by_cases hnew : ∀ r ∈ db.rowsOf t, t.idOf r ≠ (none : Option String).getD (rowId s.issued)
  · obtain ⟨stamp, hstamp, hrun⟩ := runIn_insert ⟨now, rowId⟩ hid hs.alive hrows hnew
    refine .inl ⟨make stamp, _, db.plus t [make stamp], hrun, ⟨hs.alive, ?_, fun hfree => ?_⟩,
      ⟨stamp, rfl⟩, rfl⟩
    · rw [hs.database]
      rfl
    · exact (hs.spares hfree).plus ((hid stamp).trans hstamp)
  · refine .inr ⟨hexcuse fun hfree => hnew ?_, ?_⟩
    · exact lacks_iff_rowsOf.mp ((hs.spares hfree).free t _ (Nat.le_refl _))
    · have hstamp : (newStamp none).runIn ⟨now, rowId⟩ s =
          (.ok ⟨rowId s.issued, now, now⟩, { s with issued := s.issued + 1 }) := rfl
      have htaken : withNew t (db.rowsOf t) (make ⟨rowId s.issued, now, now⟩) = .error (takenId t) := by
        obtain ⟨r, hr, hsame⟩ : ∃ r ∈ db.rowsOf t, t.idOf r = rowId s.issued := by simpa using hnew
        refine if_pos (List.any_eq_true.mpr ⟨r, hr, ?_⟩)
        rw [hid, hsame]
        exact beq_self_eq_true _
      unfold insert
      rw [runIn_bind_of_ok (runIn_usable hs.alive), runIn_bind_of_ok hstamp, runIn_bind, runIn_add]
      dsimp only
      rw [hrows, Except.bind, htaken]
      exact ⟨_, _, rfl⟩

/-- A row that is made from columns with nothing wrong in them is inserted like any other. -/
theorem create_eq_insert {fs : Fields} {make : Stamp → t.Row} (hknown : knownColumns t fs = .ok ())
    (hid : columnOrNone fs "id" textColumn = .ok none)
    (hrow : ∀ s : Stamp, (do t.rowOf (← s.ofFields fs) fs) = .ok (make s)) :
    create t fs = insert t none make := by
  unfold create insert
  rw [hknown, hid]
  change (do
    usable
    let s ← newStamp none
    let r ← written (do t.rowOf (← s.ofFields fs) fs)
    add t r
    return r) = _
  simp only [hrow]
  rfl

/-- Rows are put at the end of their table one after the other. -/
theorem reaches_insertAll (hdb : db.Whole) {as : List α} {make : α → Stamp → t.Row}
    (hid : ∀ a stamp, t.idOf (make a stamp) = stamp.id) (hexcuse : as ≠ [] → ¬ free → excuse) :
    Reaches rowId free excuse db (insertAll t (as.map make)) fun _ after => ∃ added,
      Stamped make as added ∧ after = db.plus t added := by
  induction as generalizing db with
  | nil => exact reaches_pure ⟨[], .nil, hdb.plus_nil.symm⟩
  | cons a as ih =>
    have hfirst := hexcuse (List.cons_ne_nil a as)
    have hone : Reaches rowId free excuse db (do let _ ← insert t none (make a)) fun _ after =>
        ∃ stamp, after = db.plus t [make a stamp] := by
      refine Reaches.bind (reaches_insert hdb hfirst (hid a)) ?_
      rintro r after ⟨⟨stamp, rfl⟩, rfl⟩
      exact reaches_pure ⟨stamp, rfl⟩
    refine Reaches.bind hone ?_
    rintro - mid ⟨stamp, rfl⟩
    refine (ih hdb.plus fun _ => hfirst).mono ?_
    rintro - after ⟨added, hadded, rfl⟩
    exact ⟨make a stamp :: added, .cons ⟨stamp, rfl⟩ hadded, Database.plus_plus⟩

/-- A transaction keeps what its work has reached, and nothing if it has faulted. -/
theorem transact_of_reaches {p : Storage α} {good : α → Database → Prop}
    (hp : Reaches rowId free excuse db p good) {issued : Nat} (hfree : free → db.Spares rowId issued)
    (now : Moment) :
    (∃ a after issued', transact p ⟨now, rowId⟩ db issued = (.ok a, after, issued') ∧ good a after) ∨
      excuse ∧ ∃ f issued', transact p ⟨now, rowId⟩ db issued = (.error f, db, issued') := by
  have hbegin : (Session.begin db issued).Sees rowId free db := ⟨rfl, rfl, hfree⟩
  unfold transact
  obtain ⟨a, s, after, hrun, hs, hgood⟩ | ⟨hexcuse, f, s, hrun⟩ := hp now _ hbegin
  · have hcommit : s.commit = .ok after := by
      unfold Session.commit
      rw [hs.alive, hs.database]
    rw [hrun]
    dsimp only
    rw [hcommit]
    exact .inl ⟨a, after, s.issued, rfl, hgood⟩
  · rw [hrun]
    exact .inr ⟨hexcuse, f, s.issued, rfl⟩

end Reaching

end LeadFlow.Storage
