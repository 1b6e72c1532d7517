import LeadFlow.Fault
import LeadFlow.Storage.Row

set_option autoImplicit false

/-!
# Storage: the database

A database holds one list of rows for each table, in the order of insertion.  A table may be
missing, and the whole database may be out of reach; reading tells both.
-/

namespace LeadFlow.Storage

/-- One thing for each table. -/
structure PerTable (F : Type → Type) where
  leads : F LeadRow
  workflows : F WorkflowRow
  templates : F TemplateRow
  executions : F ExecutionRow
  messages : F MessageRow
  audits : F AuditRow

namespace PerTable

variable {F : Type → Type}

/-- The thing for a table. -/
def get (p : PerTable F) : (t : TableName) → F t.Row
  | .leads => p.leads
  | .workflows => p.workflows
  | .templates => p.templates
  | .executions => p.executions
  | .messages => p.messages
  | .audits => p.audits

/-- Replaces the thing for a table. -/
def set (p : PerTable F) : (t : TableName) → F t.Row → PerTable F
  | .leads, x => { p with leads := x }
  | .workflows, x => { p with workflows := x }
  | .templates, x => { p with templates := x }
  | .executions, x => { p with executions := x }
  | .messages, x => { p with messages := x }
  | .audits, x => { p with audits := x }

/-- The same thing for every table. -/
def fill (x : (ρ : Type) → F ρ) : PerTable F := ⟨x _, x _, x _, x _, x _, x _⟩

@[simp] theorem get_set_self (p : PerTable F) (t : TableName) (x : F t.Row) : (p.set t x).get t = x := by
  cases t <;> rfl

theorem get_set_of_ne (p : PerTable F) {t u : TableName} (h : u ≠ t) (x : F t.Row) :
    (p.set t x).get u = p.get u := by
  cases t <;> cases u <;> first | rfl | exact absurd rfl h

/-- What holds of the thing for every table does so still after a replacement that it holds of. -/
theorem forall_get_set {P : (t : TableName) → F t.Row → Prop} {p : PerTable F} (h : ∀ u, P u (p.get u))
    {t : TableName} {x : F t.Row} (hx : P t x) (u : TableName) : P u ((p.set t x).get u) := by
  by_cases htable : u = t
  · subst htable
    rw [get_set_self]
    exact hx
  · rw [get_set_of_ne _ htable]
    exact h u

end PerTable

/-- The rows of a table, if there is the table. -/
abbrev Rows (ρ : Type) := Option (List ρ)

/-- A database. -/
structure Database where
  tables : PerTable Rows
  reachable : Bool

namespace Database

/-- All tables, without rows. -/
def empty : Database := ⟨.fill fun _ => some [], true⟩

/-- A fault of the database engine. -/
def engineFault (kind : FaultKind) (detail : String) : Fault :=
  .of kind s!"(sqlite3.{kind.label}) {detail}"

/-- The rows of a table. -/
def rows (db : Database) (t : TableName) : Outcome (List t.Row) :=
  if db.reachable then
    match db.tables.get t with
    | some rs => .ok rs
    | none => .error (engineFault .operational s!"no such table: {t.word}")
  else .error (engineFault .operational "unable to open database file")

/-- The database with other rows in a table. -/
def withRows (db : Database) (t : TableName) (rs : List t.Row) : Database :=
  { db with tables := db.tables.set t (some rs) }

/-- The database without a table. -/
def drop (db : Database) (t : TableName) : Database := { db with tables := db.tables.set t none }

/-- The database with a table added, unless there is one. -/
def ensure (db : Database) (t : TableName) : Database :=
  match db.tables.get t with
  | some _ => db
  | none => db.withRows t []

/-- The database with every missing table added, if it can be reached. -/
def complete (db : Database) : Database := if db.reachable then TableName.all.foldl ensure db else db

theorem rows_withRows_self (db : Database) (t : TableName) (rs : List t.Row) (h : db.reachable = true) :
    (db.withRows t rs).rows t = .ok rs := by
  simp [rows, withRows, h]

end Database

end LeadFlow.Storage
