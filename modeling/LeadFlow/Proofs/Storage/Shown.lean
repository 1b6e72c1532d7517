import LeadFlow.Proofs.Storage.Changes
import Mathlib

set_option autoImplicit false

/-!
# Storage: what an actor is shown

Every row of the database is either shown to an actor or hidden from it.  Work in a session is scoped
to the actor if the hidden rows make no difference to it and it makes none to them: without them it
comes to the same result and leaves the same shown rows (`Scoped`).

The hidden rows have to be told apart from the others by their ids, as a row is changed by its id and
a new one is refused if its id is taken (`Database.Beside`).

Main statements: scoped work may be put together (`Scoped.bind`), and reading, inserting and
overwriting are scoped if they name shown rows only.
-/

namespace LeadFlow.Storage

open Calendar

/-! ## Shown and hidden rows -/

/-- The actor is shown a row: a lead or workflow that it owns, unless it is deleted; a template that
it owns, or a shared one; an execution, a message or an entry recorded under it. -/
def TableName.isShownTo (actor : String) : (t : TableName) → t.Row → Bool
  | .leads, r => LeadRow.ownerId r == actor && !LeadRow.isDeleted r
  | .workflows, r => WorkflowRow.ownerId r == actor && !WorkflowRow.isDeleted r
  | .templates, r => TemplateRow.ownerId r == some actor || TemplateRow.ownerId r == none
  | .executions, r => ExecutionRow.actor r == actor
  | .messages, r => MessageRow.ownerId r == actor
  | .audits, r => AuditRow.actor r == actor

/-- Something made from the thing of each table. -/
def PerTable.map {F G : Type → Type} (f : (t : TableName) → F t.Row → G t.Row) (p : PerTable F) :
    PerTable G :=
  ⟨f .leads p.leads, f .workflows p.workflows, f .templates p.templates, f .executions p.executions,
    f .messages p.messages, f .audits p.audits⟩

namespace Database

/-- The database with only some of its rows. -/
def narrowed (db : Database) (keep : (t : TableName) → t.Row → Bool) : Database :=
  { db with tables := db.tables.map fun t rows => rows.map (List.filter (keep t)) }

/-- The rows that are shown to an actor. -/
def shownTo (actor : String) (db : Database) : Database := db.narrowed (TableName.isShownTo actor)

/-- The rows that are hidden from an actor. -/
def hiddenFrom (actor : String) (db : Database) : Database :=
  db.narrowed fun t r => !t.isShownTo actor r

/-- No row of the table has the id. -/
def Lacks (db : Database) (t : TableName) (id : String) : Prop :=
  ∀ rows, db.tables.get t = some rows → ∀ r ∈ rows, t.idOf r ≠ id

/-- These rows are hidden from the actor, and no row that it is shown has the id of one of them. -/
structure Beside (db : Database) (actor : String) (hidden : Database) : Prop where
  others : db.hiddenFrom actor = hidden
  apart : ∀ t rows, db.tables.get t = some rows → ∀ r ∈ rows, t.isShownTo actor r = true →
    hidden.Lacks t (t.idOf r)

end Database

section Tables

variable {F G : Type → Type} (f : (t : TableName) → F t.Row → G t.Row) (p : PerTable F) (t : TableName)

@[simp] theorem PerTable.get_map : (p.map f).get t = f t (p.get t) := by
  cases t <;> rfl

theorem PerTable.map_set (x : F t.Row) : (p.set t x).map f = (p.map f).set t (f t x) := by
  cases t <;> rfl

@[simp] theorem PerTable.set_get_self : p.set t (p.get t) = p := by
  cases t <;> rfl

end Tables

section Databases

variable {actor : String} {hidden db : Database} {t : TableName} {rows : List t.Row}

theorem Database.rows_eq_ok_iff :
    db.rows t = .ok rows ↔ db.reachable = true ∧ db.tables.get t = some rows := by
  unfold Database.rows
  cases hreachable : db.reachable with
  | false => simp
  | true => cases db.tables.get t <;> simp

/-- A narrowed table faults as the whole one does. -/
theorem Database.rows_narrowed (db : Database) (keep : (t : TableName) → t.Row → Bool) :
    (db.narrowed keep).rows t = (db.rows t).map (List.filter (keep t)) := by
  simp only [Database.rows, Database.narrowed, PerTable.get_map]
  cases db.reachable with
  | false => rfl
  | true => cases db.tables.get t <;> rfl

theorem Database.narrowed_withRows (db : Database) (keep : (t : TableName) → t.Row → Bool)
    (rows : List t.Row) :
    (db.withRows t rows).narrowed keep = (db.narrowed keep).withRows t (rows.filter (keep t)) := by
  simp [Database.narrowed, Database.withRows, PerTable.map_set]

namespace Database.Beside

/-- A hidden row is among those that are known to be hidden. -/
theorem get_hidden (h : db.Beside actor hidden) (hrows : db.tables.get t = some rows) :
    hidden.tables.get t = some (rows.filter fun r => !t.isShownTo actor r) := by
  rw [← h.others]
  simp [hiddenFrom, narrowed, hrows]

/-- A row with a condition that no hidden row meets is shown. -/
theorem isShownTo_of_keep (h : db.Beside actor hidden) (hrows : db.tables.get t = some rows)
    {keep : t.Row → Bool}
    (hkeep : ∀ rs, hidden.tables.get t = some rs → ∀ r ∈ rs, keep r = false) {r : t.Row}
    (hr : r ∈ rows) (hwanted : keep r = true) : t.isShownTo actor r = true := by
  by_contra hshown
  have hunwanted := hkeep _ (h.get_hidden hrows) r (by simp [hr, hshown])
  rw [hwanted] at hunwanted
  cases hunwanted

/-- So are all such rows. -/
theorem filter_shown (h : db.Beside actor hidden) (hrows : db.tables.get t = some rows)
    {keep : t.Row → Bool}
    (hkeep : ∀ rs, hidden.tables.get t = some rs → ∀ r ∈ rs, keep r = false) :
    (rows.filter (t.isShownTo actor)).filter keep = rows.filter keep := by
  rw [List.filter_filter]
  refine List.filter_congr fun r hr => ?_
  cases hwanted : keep r with
  | false => rfl
  | true => exact h.isShownTo_of_keep hrows hkeep hr hwanted

/-- The id of a shown row is found among the shown rows. -/
theorem any_shown (h : db.Beside actor hidden) (hrows : db.tables.get t = some rows) {id : String}
    (hid : hidden.Lacks t id) :
    ((rows.filter (t.isShownTo actor)).any fun r => t.idOf r == id) =
      rows.any fun r => t.idOf r == id := by
  have hnone : ∀ rs, hidden.tables.get t = some rs → ∀ r ∈ rs, (t.idOf r == id) = false := by
    intro rs hrs r hr
    simpa using hid rs hrs r hr
  have hfilter := h.filter_shown hrows hnone
  rw [Bool.eq_iff_iff, List.any_eq_true, List.any_eq_true]
  constructor
  · rintro ⟨r, hr, heq⟩
    exact ⟨r, (List.mem_filter.mp hr).1, heq⟩
  · rintro ⟨r, hr, heq⟩
    have hmem : r ∈ rows.filter fun r => t.idOf r == id := List.mem_filter.mpr ⟨hr, heq⟩
    rw [← hfilter] at hmem
    exact ⟨r, (List.mem_filter.mp hmem).1, heq⟩

/-- New rows of a table leave the hidden ones where they are. -/
theorem withRows (h : db.Beside actor hidden) (hrows : db.tables.get t = some rows) {rows' : List t.Row}
    (hsame : (rows'.filter fun r => !t.isShownTo actor r) = rows.filter fun r => !t.isShownTo actor r)
    (hapart : ∀ r ∈ rows', t.isShownTo actor r = true → hidden.Lacks t (t.idOf r)) :
    (db.withRows t rows').Beside actor hidden := by
  refine ⟨?_, ?_⟩
  · have hget := h.get_hidden hrows
    rw [hiddenFrom, narrowed_withRows, hsame, Database.withRows, ← hget]
    have hself := h.others
    rw [hiddenFrom] at hself
    rw [hself, PerTable.set_get_self]
  · refine PerTable.forall_get_set (P := fun u (x : Rows u.Row) => ∀ rs, x = some rs → ∀ r ∈ rs,
      u.isShownTo actor r = true → hidden.Lacks u (u.idOf r)) h.apart ?_
    intro rs hrs
    cases hrs
    exact hapart

end Database.Beside

end Databases

/-! ## Sessions -/

/-- What the session is for the actor: the same, without the hidden rows. -/
def Session.shownTo (actor : String) (s : Session) : Session :=
  { s with database := s.database.shownTo actor, start := s.start.shownTo actor }

/-- The actor is shown the row, and no hidden row has its id. -/
structure TableName.Own (actor : String) (hidden : Database) (t : TableName) (r : t.Row) : Prop where
  shown : t.isShownTo actor r = true
  apart : hidden.Lacks t (t.idOf r)

/-- A session next to hidden rows: it holds shown rows only, and no id that it still hands out is that
of a hidden row. -/
structure Session.Beside (s : Session) (actor : String) (hidden : Database) (rowId : Nat → String) :
    Prop where
  database : s.database.Beside actor hidden
  start : s.start.Beside actor hidden
  held : ∀ t, ∀ r ∈ s.held.get t, t.Own actor hidden r
  fresh : ∀ t n, s.issued ≤ n → hidden.Lacks t (rowId n)

/-- Work that the hidden rows make no difference to, and that makes none to them.  What it comes to
is good. -/
def Scoped {α : Type} (actor : String) (hidden : Database) (rowId : Nat → String) (p : Storage α)
    (good : α → Prop) : Prop :=
  ∀ now s, s.Beside actor hidden rowId →
    (p.runIn ⟨now, rowId⟩ s).2.Beside actor hidden rowId ∧
    p.runIn ⟨now, rowId⟩ (s.shownTo actor) =
      ((p.runIn ⟨now, rowId⟩ s).1, (p.runIn ⟨now, rowId⟩ s).2.shownTo actor) ∧
    ∀ a, (p.runIn ⟨now, rowId⟩ s).1 = .ok a → good a

/-- A fault is put in other words, and nothing else happens. -/
theorem runIn_explained_eq {α : Type} (text : String) (p : Storage α) (around : Surroundings)
    (s : Session) : (explained text p).runIn around s =
      match p.runIn around s with
      | (.ok a, s') => (.ok a, s')
      | (.error f, s') =>
        (.error (if f.kind.isDatabaseFault then .of .collaborator (text ++ f.text) else f), s') := by
  obtain ⟨⟨o, s'⟩, hp⟩ : ∃ x, p.runIn around s = x := ⟨_, rfl⟩
  rw [hp]
  unfold Storage.runIn at *
  simp only [explained, tryCatch, tryCatchThe, MonadExceptOf.tryCatch, ExceptT.tryCatch, ExceptT.mk,
    bind, StateT.bind, hp]
  cases o with
  | ok a => rfl
  | error f =>
    cases hkind : f.kind.isDatabaseFault with
    | true => simp only [hkind]; rfl
    | false => simp only [hkind]; rfl

/-- The session after a write that failed. -/
def Session.collapsed (s : Session) (f : Fault) : Session :=
  { s with database := s.start, failure := some f.text }

theorem runIn_add {t : TableName} {r : t.Row} {around : Surroundings} {s : Session} :
    (add t r).runIn around s =
      match (s.database.rows t).bind fun rows => withNew t rows r with
      | .ok rows => (.ok (), { s with
          database := s.database.withRows t rows
          held := s.held.set t (s.held.get t ++ [r]) })
      | .error f => (.error f, s.collapsed f) := by
  have hget : (get : Storage Session).runIn around s = (.ok s, s) := rfl
  rw [add, runIn_bind_of_ok hget]
  change (written ((s.database.rows t).bind fun rows => withNew t rows r) >>= _).runIn around s = _
  cases (s.database.rows t).bind fun rows => withNew t rows r <;> rfl

/-- A row is inserted behind all others, if its id is new. -/
theorem runIn_insert {t : TableName} {rows : List t.Row} {s : Session} (around : Surroundings)
    {id? : Option String} {make : Stamp → t.Row} (hid : ∀ stamp, t.idOf (make stamp) = stamp.id)
    (halive : s.failure = none) (hrows : s.database.rows t = .ok rows)
    (hnew : ∀ r ∈ rows, t.idOf r ≠ id?.getD (around.rowId s.issued)) :
    ∃ stamp : Stamp, stamp.id = id?.getD (around.rowId s.issued) ∧
      (insert t id? make).runIn around s = (.ok (make stamp), { s with
        database := s.database.withRows t (rows ++ [make stamp])
        held := s.held.set t (s.held.get t ++ [make stamp])
        issued := s.issued + if id?.isNone then 1 else 0 }) := by
  have hadd : ∀ (stamp : Stamp) (issued : Nat), stamp.id = id?.getD (around.rowId s.issued) →
      (add t (make stamp)).runIn around { s with issued := issued } = (.ok (), { s with
        database := s.database.withRows t (rows ++ [make stamp])
        held := s.held.set t (s.held.get t ++ [make stamp])
        issued := issued }) := by
    intro stamp issued hstamp
    have hany : (rows.any fun q => t.idOf q == t.idOf (make stamp)) = false := by
      rw [List.any_eq_false]
      intro r hr
      simpa [hid, hstamp] using hnew r hr
    rw [runIn_add, hrows]
    simp only [Except.bind, withNew, hany]
    rfl
  have husable : usable.runIn around s = (.ok (), s) := runIn_usable halive
  unfold insert
  rw [runIn_bind_of_ok husable]
  cases id? with
  | none =>
    have hstamp : (newStamp none).runIn around s =
        (.ok ⟨around.rowId s.issued, around.now, around.now⟩, { s with issued := s.issued + 1 }) := rfl
    refine ⟨⟨around.rowId s.issued, around.now, around.now⟩, rfl, ?_⟩
    rw [runIn_bind_of_ok hstamp, runIn_bind_of_ok (hadd _ _ rfl)]
    rfl
  | some id =>
    have hstamp : (newStamp (some id)).runIn around s = (.ok ⟨id, around.now, around.now⟩, s) := rfl
    refine ⟨⟨id, around.now, around.now⟩, rfl, ?_⟩
    rw [runIn_bind_of_ok hstamp, runIn_bind_of_ok (hadd _ s.issued rfl)]
    rfl

theorem runIn_overwrite_of_id {t : TableName} {id : String} {r kept : t.Row} {around : Surroundings}
    {s : Session} (hid : t.idOf r = id) :
    (overwrite t id r kept).runIn around s =
      match s.database.rows t with
      | .ok rows => (.ok (), { s with
          database := s.database.withRows t (replaced t id r rows)
          held := s.held.set t (replaced t id kept (s.held.get t)) })
      | .error f => (.error f, s.collapsed f) := by
  have hget : (get : Storage Session).runIn around s = (.ok s, s) := rfl
  have hsameId : (t.idOf r != id) = false := by simp [hid]
  rw [overwrite, runIn_bind_of_ok hget]
  cases s.database.rows t with
  | error f => rfl
  | ok rows => simp only [hsameId, Bool.false_and]; rfl

section Scoping

variable {α β : Type} {actor : String} {hidden : Database} {rowId : Nat → String}

/-- The actor reads the shown rows of a table, or the fault of the whole one. -/
theorem Session.rows_shownTo (actor : String) (s : Session) (t : TableName) :
    (s.shownTo actor).database.rows t = (s.database.rows t).map (List.filter (t.isShownTo actor)) :=
  Database.rows_narrowed s.database _

theorem Session.Beside.collapsed {s : Session} (hs : s.Beside actor hidden rowId) (f : Fault) :
    (s.collapsed f).Beside actor hidden rowId :=
  ⟨hs.start, hs.start, hs.held, hs.fresh⟩

/-- What a session holds besides, if it is shown to the actor. -/
theorem Session.Beside.holding {s : Session} (hs : s.Beside actor hidden rowId) (t : TableName)
    {rows : List t.Row} (hrows : ∀ r ∈ rows, t.Own actor hidden r) (u : TableName) :
    ∀ r ∈ (s.held.set t rows).get u, u.Own actor hidden r :=
  PerTable.forall_get_set (P := fun u rows => ∀ r ∈ rows, u.Own actor hidden r) hs.held hrows u

theorem Scoped.mono {p : Storage α} {good better : α → Prop} (hp : Scoped actor hidden rowId p good)
    (h : ∀ a, good a → better a) : Scoped actor hidden rowId p better := by
  intro now s hs
  obtain ⟨hbeside, hshown, hgood⟩ := hp now s hs
  exact ⟨hbeside, hshown, fun a ha => h a (hgood a ha)⟩

theorem Scoped.bind {p : Storage α} {f : α → Storage β} {good : α → Prop} {better : β → Prop}
    (hp : Scoped actor hidden rowId p good)
    (hf : ∀ a, good a → Scoped actor hidden rowId (f a) better) :
    Scoped actor hidden rowId (p >>= f) better := by
  intro now s hs
  obtain ⟨hbeside, hshown, hgood⟩ := hp now s hs
  rw [runIn_bind, runIn_bind, hshown]
  obtain ⟨⟨o, s'⟩, hrun⟩ : ∃ x, p.runIn ⟨now, rowId⟩ s = x := ⟨_, rfl⟩
  rw [hrun] at hbeside hgood ⊢
  cases o with
  | error f => exact ⟨hbeside, rfl, fun a ha => by cases ha⟩
  | ok a => exact hf a (hgood a rfl) now s' hbeside

theorem scoped_pure {a : α} {good : α → Prop} (h : good a) :
    Scoped actor hidden rowId (pure a : Storage α) good := by
  intro now s hs
  refine ⟨hs, rfl, fun b hb => ?_⟩
  cases hb
  exact h

theorem scoped_throw {f : Fault} {good : α → Prop} :
    Scoped actor hidden rowId (throw f : Storage α) good := by
  intro now s hs
  refine ⟨hs, rfl, fun b hb => ?_⟩
  cases hb

theorem scoped_found {o : Outcome α} {good : α → Prop} (h : ∀ a, o = .ok a → good a) :
    Scoped actor hidden rowId (found o) good := by
  cases o with
  | ok a => exact scoped_pure (h a rfl)
  | error f => exact scoped_throw

theorem scoped_read : Scoped actor hidden rowId (read : Storage Surroundings) fun _ => True :=
  fun _ _ hs => ⟨hs, rfl, fun _ _ => trivial⟩

/-- What was written is taken back with the hidden rows as they were. -/
theorem scoped_collapse {f : Fault} {good : α → Prop} :
    Scoped actor hidden rowId (collapse f : Storage α) good := by
  intro now s hs
  refine ⟨hs.collapsed f, rfl, fun b hb => ?_⟩
  cases hb

theorem scoped_written {o : Outcome α} {good : α → Prop} (h : ∀ a, o = .ok a → good a) :
    Scoped actor hidden rowId (written o) good := by
  cases o with
  | ok a => exact scoped_pure (h a rfl)
  | error f => exact scoped_collapse

theorem scoped_usable : Scoped actor hidden rowId usable fun _ => True := by
  intro now s hs
  cases hfailure : s.failure with
  | none =>
    have hshown : (s.shownTo actor).failure = none := hfailure
    rw [runIn_usable hfailure, runIn_usable hshown]
    exact ⟨hs, rfl, fun _ _ => trivial⟩
  | some failure =>
    have hrun : ∀ s : Session, s.failure = some failure →
        usable.runIn ⟨now, rowId⟩ s = (.error (Session.pending failure), s) := by
      intro s hs
      have hget : (get : Storage Session).runIn ⟨now, rowId⟩ s = (.ok s, s) := rfl
      rw [usable, runIn_bind_of_ok hget, hs]
      rfl
    rw [hrun s hfailure, hrun (s.shownTo actor) hfailure]
    exact ⟨hs, rfl, fun _ _ => trivial⟩

theorem Scoped.explained {text : String} {p : Storage α} {good : α → Prop}
    (hp : Scoped actor hidden rowId p good) : Scoped actor hidden rowId (explained text p) good := by
  intro now s hs
  obtain ⟨hbeside, hshown, hgood⟩ := hp now s hs
  rw [runIn_explained_eq, runIn_explained_eq, hshown]
  obtain ⟨⟨o, s'⟩, hp⟩ : ∃ x, p.runIn ⟨now, rowId⟩ s = x := ⟨_, rfl⟩
  rw [hp] at hbeside hgood ⊢
  cases o with
  | ok a => exact ⟨hbeside, rfl, hgood⟩
  | error f => exact ⟨hbeside, rfl, fun a ha => by cases ha⟩

/-! ## Reading -/

theorem mem_of_heldFor {t : TableName} {held : List t.Row} {r h : t.Row} (hheld : heldFor t held r = some h) :
    h ∈ held ∧ t.idOf h = t.idOf r := by
  unfold heldFor at hheld
  refine ⟨List.mem_of_find?_eq_some hheld, ?_⟩
  simpa using List.find?_some hheld

/-- A row that is answered with has the id of a stored one that was wanted. -/
def Answers (actor : String) (hidden : Database) (t : TableName) (keep : t.Row → Bool) (r : t.Row) : Prop :=
  t.Own actor hidden r ∧ ∃ stored : t.Row, keep stored = true ∧ t.idOf r = t.idOf stored

theorem mem_limited {ρ : Type} {limit : Int} {rows : List ρ} {r : ρ} (h : r ∈ limited limit rows) :
    r ∈ rows := by
  unfold limited at h
  split at h
  · exact h
  · exact List.mem_of_mem_take h

theorem Selection.mem_apply {ρ : Type} {wanted : Selection ρ} {rows : List ρ} {r : ρ}
    (h : r ∈ wanted.apply rows) : r ∈ rows ∧ wanted.keep r = true := by
  have hsorted := mem_limited h
  unfold Selection.sorted at hsorted
  refine List.mem_filter.mp ?_
  split at hsorted
  · exact List.mem_mergeSort.mp hsorted
  · exact hsorted

/-- Rows of the actor are answered with as the session holds them. -/
theorem scoped_remembered {t : TableName} {rows : List t.Row} (hown : ∀ r ∈ rows, t.Own actor hidden r) :
    Scoped actor hidden rowId (remembered t rows) fun answer =>
      ∀ r ∈ answer, t.Own actor hidden r ∧ ∃ stored ∈ rows, t.idOf r = t.idOf stored := by
  intro now s hs
  rw [runIn_remembered, runIn_remembered]
  refine ⟨⟨hs.database, hs.start, hs.holding t fun r hr => ?_, hs.fresh⟩, rfl, fun answer hanswer r hr => ?_⟩
  · obtain hr | hr := List.mem_append.mp hr
    · exact hs.held t r hr
    · exact hown r (List.mem_filter.mp hr).1
  · cases hanswer
    obtain ⟨stored, hstored, rfl⟩ := List.mem_map.mp hr
    cases hheld : heldFor t (s.held.get t) stored with
    | none => exact ⟨hown stored hstored, stored, hstored, rfl⟩
    | some h =>
      obtain ⟨hmem, hid⟩ := mem_of_heldFor hheld
      exact ⟨hs.held t h hmem, stored, hstored, hid⟩

/-- A selection that wants no hidden row is scoped. -/
theorem scoped_select {t : TableName} {wanted : Selection t.Row}
    (hwanted : ∀ rows, hidden.tables.get t = some rows → ∀ r ∈ rows, wanted.keep r = false) :
    Scoped actor hidden rowId (select t wanted)
      fun rows => ∀ r ∈ rows, Answers actor hidden t wanted.keep r := by
  refine Scoped.bind scoped_usable fun _ _ => ?_
  intro now s hs
  have hget : ∀ s : Session, (get : Storage Session).runIn ⟨now, rowId⟩ s = (.ok s, s) := fun _ => rfl
  rw [runIn_bind_of_ok (hget s), runIn_bind_of_ok (hget (s.shownTo actor)), Session.rows_shownTo]
  cases hrows : s.database.rows t with
  | error f => exact ⟨hs, rfl, fun a ha => by cases ha⟩
  | ok rows =>
    have hstored := (Database.rows_eq_ok_iff.mp hrows).2
    have hsame : wanted.apply (rows.filter (t.isShownTo actor)) = wanted.apply rows := by
      unfold Selection.apply
      rw [hs.database.filter_shown hstored hwanted]
    have hown : ∀ r ∈ wanted.apply rows, t.Own actor hidden r := by
      intro r hr
      obtain ⟨hmem, hkeep⟩ := Selection.mem_apply hr
      have hshown := hs.database.isShownTo_of_keep hstored hwanted hmem hkeep
      exact ⟨hshown, hs.database.apart t rows hstored r hmem hshown⟩
    obtain ⟨hbeside, hresult, hanswer⟩ := scoped_remembered hown now s hs
    have hnarrowed := congrArg (fun rs => (remembered t rs).runIn ⟨now, rowId⟩ (s.shownTo actor)) hsame
    refine ⟨hbeside, hnarrowed.trans hresult, fun answer hanswered r hr => ?_⟩
    obtain ⟨hr, stored, hstored, hid⟩ := hanswer answer hanswered r hr
    exact ⟨hr, stored, (Selection.mem_apply hstored).2, hid⟩

/-- The row of an id is looked up among the shown rows, if no hidden row has the id and meets the
condition. -/
theorem scoped_selectOne {t : TableName} {keep : t.Row → Bool} {id : String}
    (hkeep : ∀ rows, hidden.tables.get t = some rows → ∀ r ∈ rows, t.idOf r = id → keep r = false) :
    Scoped actor hidden rowId (selectOne t keep id)
      fun found => ∀ r, found = some r → t.Own actor hidden r ∧ t.idOf r = id := by
  refine Scoped.bind (scoped_select fun rows hrows r hr => ?_) fun rows hrows => ?_
  · change (t.idOf r == id && keep r) = false
    by_cases hid : t.idOf r = id
    · simp [hkeep rows hrows r hr hid]
    · simp [hid]
  · refine scoped_pure fun r hr => ?_
    obtain ⟨hown, stored, hstored, hid⟩ := hrows r (List.mem_of_mem_head? hr)
    have hwanted : (t.idOf stored == id && keep stored) = true := hstored
    simp only [Bool.and_eq_true, beq_iff_eq] at hwanted
    exact ⟨hown, hid.trans hwanted.1⟩

/-! ## Writing -/

theorem scoped_newStamp_none : Scoped actor hidden rowId (newStamp none)
    fun stamp => ∀ t, hidden.Lacks t stamp.id := by
  intro now s hs
  refine ⟨⟨hs.database, hs.start, hs.held, fun t n hn => hs.fresh t n ?_⟩, rfl, fun stamp hstamp => ?_⟩
  · have hn : s.issued + 1 ≤ n := hn
    omega
  · cases hstamp
    exact fun t => hs.fresh t _ (Nat.le_refl _)

theorem scoped_newStamp_some {id : String} :
    Scoped actor hidden rowId (newStamp (some id)) fun stamp => stamp.id = id := by
  intro now s hs
  refine ⟨hs, rfl, fun stamp hstamp => ?_⟩
  cases hstamp
  rfl

/-- A row of the actor is added behind all others, or refused for a row that it is shown. -/
theorem scoped_add {t : TableName} {r : t.Row} (hr : t.Own actor hidden r) :
    Scoped actor hidden rowId (add t r) fun _ => True := by
  intro now s hs
  rw [runIn_add, runIn_add, Session.rows_shownTo]
  cases hrows : s.database.rows t with
  | error f => exact ⟨hs.collapsed _, rfl, fun _ _ => trivial⟩
  | ok rows =>
    have hstored := (Database.rows_eq_ok_iff.mp hrows).2
    have hany := hs.database.any_shown hstored hr.apart
    simp only [Except.map, Except.bind, withNew, hany]
    cases rows.any fun q => t.idOf q == t.idOf r with
    | true => exact ⟨hs.collapsed _, rfl, fun _ _ => trivial⟩
    | false =>
      refine ⟨⟨?_, hs.start, ?_, hs.fresh⟩, ?_, fun _ _ => trivial⟩
      · refine hs.database.withRows hstored ?_ ?_
        · simp [List.filter_append, hr.shown]
        · intro q hq hshown
          obtain hq | hq := List.mem_append.mp hq
          · exact hs.database.apart t rows hstored q hq hshown
          · obtain rfl : q = r := by simpa using hq
            exact hr.apart
      · refine hs.holding t fun q hq => ?_
        obtain hq | hq := List.mem_append.mp hq
        · exact hs.held t q hq
        · obtain rfl : q = r := by simpa using hq
          exact hr
      · have hlast : [r].filter (t.isShownTo actor) = [r] := by simp [hr.shown]
        simp only [Session.shownTo, Database.shownTo, Database.narrowed_withRows, List.filter_append,
          hlast, Bool.false_eq_true, if_false]

/-- A row is inserted for the actor. -/
theorem scoped_insert_none {t : TableName} {make : Stamp → t.Row}
    (hmake : ∀ stamp, (∀ u, hidden.Lacks u stamp.id) → t.Own actor hidden (make stamp)) :
    Scoped actor hidden rowId (insert t none make) fun _ => True := by
  refine Scoped.bind scoped_usable fun _ _ => ?_
  refine Scoped.bind scoped_newStamp_none fun stamp hstamp => ?_
  exact Scoped.bind (scoped_add (hmake stamp hstamp)) fun _ _ => scoped_pure trivial

theorem scoped_insert_some {t : TableName} {id : String} {make : Stamp → t.Row}
    (hmake : ∀ stamp, stamp.id = id → t.Own actor hidden (make stamp)) :
    Scoped actor hidden rowId (insert t (some id) make) fun _ => True := by
  refine Scoped.bind scoped_usable fun _ _ => ?_
  refine Scoped.bind scoped_newStamp_some fun stamp hstamp => ?_
  exact Scoped.bind (scoped_add (hmake stamp hstamp)) fun _ _ => scoped_pure trivial

theorem scoped_insertAll {t : TableName} {makes : List (Stamp → t.Row)}
    (hmakes : ∀ make ∈ makes, ∀ stamp, (∀ u, hidden.Lacks u stamp.id) →
      t.Own actor hidden (make stamp)) :
    Scoped actor hidden rowId (insertAll t makes) fun _ => True := by
  induction makes with
  | nil => exact scoped_pure trivial
  | cons make makes ih =>
    obtain ⟨hmake, hmakes⟩ := List.forall_mem_cons.mp hmakes
    have hfirst : Scoped actor hidden rowId (do let _ ← insert t none make) fun _ => True :=
      Scoped.bind (scoped_insert_none hmake) fun _ _ => scoped_pure trivial
    exact Scoped.bind hfirst fun _ _ => ih hmakes

/-- Rows held in place of others are shown if they come from shown ones. -/
theorem own_replaced {t : TableName} {id : String} {r : t.Row} {rows : List t.Row}
    (hrows : ∀ q ∈ rows, t.Own actor hidden q) (hr : t.Own actor hidden r) :
    ∀ q ∈ replaced t id r rows, t.Own actor hidden q := by
  intro q hq
  obtain ⟨q', hq', rfl⟩ := List.mem_map.mp hq
  split
  · exact hr
  · exact hrows q' hq'

section Replacing

variable {db : Database} {t : TableName} {id : String} {r : t.Row} {rows : List t.Row}

/-- A row in place of one with its id is shown or hidden as that one was: it is shown, and no hidden row
has the id. -/
theorem Database.Beside.isShownTo_replaced (h : db.Beside actor hidden)
    (hrows : db.tables.get t = some rows) (hid : t.idOf r = id) (hr : t.Own actor hidden r) {q : t.Row}
    (hq : q ∈ rows) :
    t.isShownTo actor (if t.idOf q == id then r else q) = t.isShownTo actor q := by
  have hapart : ∀ rs, hidden.tables.get t = some rs → ∀ q ∈ rs, (t.idOf q == id) = false := by
    intro rs hrs q hq
    simpa [hid] using hr.apart rs hrs q hq
  split
  · rename_i hqid
    rw [hr.shown, h.isShownTo_of_keep hrows hapart hq hqid]
  · rfl

theorem Database.Beside.filter_shown_replaced (h : db.Beside actor hidden)
    (hrows : db.tables.get t = some rows) (hid : t.idOf r = id) (hr : t.Own actor hidden r) :
    (replaced t id r rows).filter (t.isShownTo actor) =
      replaced t id r (rows.filter (t.isShownTo actor)) := by
  unfold replaced
  rw [List.filter_map]
  exact congrArg _ (List.filter_congr fun q hq => h.isShownTo_replaced hrows hid hr hq)

theorem Database.Beside.filter_hidden_replaced (h : db.Beside actor hidden)
    (hrows : db.tables.get t = some rows) (hid : t.idOf r = id) (hr : t.Own actor hidden r) :
    ((replaced t id r rows).filter fun q => !t.isShownTo actor q) =
      rows.filter fun q => !t.isShownTo actor q := by
  have hkept : (rows.filter fun q => !t.isShownTo actor (if t.idOf q == id then r else q)) =
      rows.filter fun q => !t.isShownTo actor q :=
    List.filter_congr fun q hq => congrArg not (h.isShownTo_replaced hrows hid hr hq)
  unfold replaced
  rw [List.filter_map]
  change (rows.filter fun q => !t.isShownTo actor (if t.idOf q == id then r else q)).map _ = _
  rw [hkept]
  -- none of the hidden rows has the id
  refine (List.map_congr_left fun q hq => ?_).trans (List.map_id _)
  have hne := hr.apart _ (h.get_hidden hrows) q hq
  rw [hid] at hne
  exact if_neg (by simpa using hne)

end Replacing

theorem scoped_hold {t : TableName} {id : String} {kept : t.Row} (hkept : t.Own actor hidden kept) :
    Scoped actor hidden rowId (hold t id kept) fun _ => True := by
  intro now s hs
  exact ⟨⟨hs.database, hs.start, hs.holding t (own_replaced (hs.held t) hkept), hs.fresh⟩, rfl,
    fun _ _ => trivial⟩

/-- A row takes the place of one that is shown to the actor. -/
theorem scoped_overwrite {t : TableName} {id : String} {r kept : t.Row} (hid : t.idOf r = id)
    (hr : t.Own actor hidden r) (hkept : t.Own actor hidden kept) :
    Scoped actor hidden rowId (overwrite t id r kept) fun _ => True := by
  intro now s hs
  rw [runIn_overwrite_of_id hid, runIn_overwrite_of_id hid, Session.rows_shownTo]
  cases hrows : s.database.rows t with
  | error f => exact ⟨hs.collapsed _, rfl, fun _ _ => trivial⟩
  | ok rows =>
    have hstored := (Database.rows_eq_ok_iff.mp hrows).2
    refine ⟨⟨?_, hs.start, ?_, hs.fresh⟩, ?_, fun _ _ => trivial⟩
    · have hhidden := hs.database.filter_hidden_replaced hstored hid hr
      refine hs.database.withRows hstored hhidden fun q hq hqshown => ?_
      obtain ⟨q', hq', rfl⟩ := List.mem_map.mp hq
      rw [hs.database.isShownTo_replaced hstored hid hr hq'] at hqshown
      split
      · exact hr.apart
      · exact hs.database.apart t rows hstored q' hq' hqshown
    · exact hs.holding t (own_replaced (hs.held t) hkept)
    · have hshown := hs.database.filter_shown_replaced hstored hid hr
      simp only [Session.shownTo, Database.shownTo, Database.narrowed_withRows, hshown, Except.map]

end Scoping

end LeadFlow.Storage
