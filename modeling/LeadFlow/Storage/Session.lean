import LeadFlow.Storage.Database
import LeadFlow.Storage.Selection

set_option autoImplicit false

/-!
# Storage: sessions

A session reads and writes a database in one transaction.  A row it has loaded once keeps the values
it was loaded with: a later query finds the row by what is stored now, but answers with what the
session holds.  When a write fails the transaction is over: everything written in it is taken back,
and every later use of the session fails, the commit too.
-/

namespace LeadFlow.Storage

open Calendar

/-- The rows a session holds. -/
abbrev Held := PerTable List

/-- A session. -/
structure Session where
  /-- what its statements see -/
  database : Database
  /-- what a failed write goes back to -/
  start : Database
  held : Held
  /-- the text of the fault that ended the transaction -/
  failure : Option String
  /-- how many row ids have been handed out -/
  issued : Nat

namespace Session

/-- A new session on a database. -/
def begin (db : Database) (issued : Nat) : Session := ⟨db, db, .fill fun _ => [], none, issued⟩

/-- The fault of every use after a failed write. -/
def pending (failure : String) : Fault :=
  .of .pendingRollback ("This Session's transaction has been rolled back due to a previous exception " ++
    "during flush. To begin a new transaction with this Session, first issue Session.rollback(). " ++
    "Original exception was: " ++ failure)

/-- The database after the transaction. -/
def commit (s : Session) : Outcome Database :=
  match s.failure with
  | some failure => .error (pending failure)
  | none => .ok s.database

end Session

/-- What storage takes from its surroundings: the clock, and the supply of row ids. -/
structure Surroundings where
  now : Moment
  rowId : Nat → String

/-- Work in a session; a fault keeps what happened to the session before it. -/
abbrev Storage (α : Type) := ReaderT Surroundings (ExceptT Fault (StateM Session)) α

/-- Runs work in a session. -/
def Storage.runIn {α : Type} (p : Storage α) (around : Surroundings) (s : Session) :
    Outcome α × Session := p around s

/-- The session can still be used. -/
def usable : Storage Unit := do
  match (← get).failure with
  | some failure => throw (Session.pending failure)
  | none => pure ()

/-- A fault found before or beside the database. -/
def found {α : Type} (o : Outcome α) : Storage α :=
  match o with
  | .ok a => pure a
  | .error f => throw f

/-- Ends the transaction: takes back what was written in it, and faults. -/
def collapse {α : Type} (f : Fault) : Storage α := do
  modify fun s => { s with database := s.start, failure := some f.text }
  throw f

/-- A result of writing; a fault ends the transaction. -/
def written {α : Type} (o : Outcome α) : Storage α :=
  match o with
  | .ok a => pure a
  | .error f => collapse f

/-! ## Reading -/

/-- The row that the session holds in place of a stored one. -/
def heldFor (t : TableName) (held : List t.Row) (r : t.Row) : Option t.Row :=
  held.find? fun h => t.idOf h == t.idOf r

/-- Answers with held rows in place of stored ones, and holds the others from now on. -/
def remembered (t : TableName) (rs : List t.Row) : Storage (List t.Row) := do
  let held := (← get).held.get t
  let fresh := rs.filter fun r => (heldFor t held r).isNone
  modify fun s => { s with held := s.held.set t (held ++ fresh) }
  return rs.map fun r => (heldFor t held r).getD r

/-- The selected rows of a table. -/
def select (t : TableName) (wanted : Selection t.Row) : Storage (List t.Row) := do
  usable
  let rs ← found ((← get).database.rows t)
  remembered t (wanted.apply rs)

/-- The row with an id among those that satisfy a condition. -/
def selectOne (t : TableName) (keep : t.Row → Bool) (id : String) : Storage (Option t.Row) := do
  return (← select t (.only fun r => t.idOf r == id && keep r)).head?

/-! ## Writing -/

/-- A stamp for a new row, with an id of its own or the next one of the supply. -/
def newStamp (id? : Option String) : Storage Stamp := do
  let around ← read
  match id? with
  | some id => return ⟨id, around.now, around.now⟩
  | none =>
    let n := (← get).issued
    modify fun s => { s with issued := n + 1 }
    return ⟨around.rowId n, around.now, around.now⟩

/-- The fault of an id that is taken. -/
def takenId (t : TableName) : Fault :=
  Database.engineFault .integrity s!"UNIQUE constraint failed: {t.word}.id"

/-- Rows with one more at the end, whose id must be new. -/
def withNew (t : TableName) (rs : List t.Row) (r : t.Row) : Outcome (List t.Row) :=
  if rs.any fun q => t.idOf q == t.idOf r then .error (takenId t) else .ok (rs ++ [r])

/-- Adds a row. -/
def add (t : TableName) (r : t.Row) : Storage Unit := do
  let s ← get
  let rs ← written (do withNew t (← s.database.rows t) r)
  set { s with database := s.database.withRows t rs, held := s.held.set t (s.held.get t ++ [r]) }

/-- Inserts a row made from a new stamp. -/
def insert (t : TableName) (id? : Option String) (make : Stamp → t.Row) : Storage t.Row := do
  usable
  let r := make (← newStamp id?)
  add t r
  return r

/-- Inserts rows made from new stamps. -/
def insertAll (t : TableName) (makes : List (Stamp → t.Row)) : Storage Unit :=
  makes.forM fun make => do let _ ← insert t none make

/-- Rows with `r` in the place of the one with an id. -/
def replaced (t : TableName) (id : String) (r : t.Row) (rs : List t.Row) : List t.Row :=
  rs.map fun q => if t.idOf q == id then r else q

/-- Writes a changed row; the id may have changed too.  The session goes on with `kept`. -/
def overwrite (t : TableName) (id : String) (r kept : t.Row) : Storage Unit := do
  let s ← get
  let rs ← written (s.database.rows t)
  if t.idOf r != id && rs.any (fun q => t.idOf q == t.idOf r) then collapse (takenId t)
  else
    set { s with
      database := s.database.withRows t (replaced t id r rs)
      held := s.held.set t (replaced t id kept (s.held.get t)) }

/-- Goes on with a row in place of the held one, without writing it. -/
def hold (t : TableName) (id : String) (kept : t.Row) : Storage Unit :=
  modify fun s => { s with held := s.held.set t (replaced t id kept (s.held.get t)) }

/-- A fault of the database becomes that of a collaborator, with a text before it. -/
def explained {α : Type} (text : String) (p : Storage α) : Storage α :=
  tryCatch p fun f =>
    if f.kind.isDatabaseFault then throw (.of .collaborator (text ++ f.text)) else throw f

/-- Runs work in a transaction of its own.  What it wrote stays only if the work succeeds and the
session can still be committed.  Gives the database and how many row ids have been handed out. -/
def transact {α : Type} (p : Storage α) (around : Surroundings) (db : Database) (issued : Nat) :
    Outcome α × Database × Nat :=
  let (outcome, s) := p.runIn around (Session.begin db issued)
  match outcome, s.commit with
  | .ok a, .ok db' => (.ok a, db', s.issued)
  | .ok _, .error f => (.error f, db, s.issued)
  | .error f, _ => (.error f, db, s.issued)

end LeadFlow.Storage
