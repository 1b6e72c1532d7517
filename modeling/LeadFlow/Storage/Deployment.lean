import LeadFlow.Storage.Execute

set_option autoImplicit false

/-!
# Storage: deployments

What lasts from one transaction to the next: the database, the clock, how many ids of rows and runs
have been handed out, and the state of whoever delivers and rewords messages.
-/

namespace LeadFlow.Storage

open Calendar Execution

/-- A deployment whose others are in a state `σ`. -/
structure Deployment (σ : Type) where
  database : Database
  /-- the clock, in microseconds -/
  clock : Int
  /-- how far a reading of the clock for a record moves it -/
  tick : Int
  rowsIssued : Nat
  runsIssued : Nat
  world : σ

/-- A supply of ids that are a word and a number, counted from one. -/
def numbered (word : String) (n : Nat) : String := s!"{word}-{n + 1}"

/-- Ids out of a supply start with its word. -/
theorem numbered_ne {word id : String} (h : ¬ word.toList ++ ['-'] <+: id.toList) (n : Nat) :
    numbered word n ≠ id := by
  rintro rfl
  refine h ⟨(toString (n + 1)).toList, ?_⟩
  simp [numbered, toString]

namespace Deployment

variable {σ α : Type}

/-- A deployment with empty tables. -/
def fresh (clock tick : Int) (world : σ) : Deployment σ := ⟨.empty, clock, tick, 0, 0, world⟩

/-- The time by the clock. -/
def now (d : Deployment σ) : Moment := .ofInstant d.clock

/-- The deployment some microseconds later. -/
def later (d : Deployment σ) (micros : Int) : Deployment σ := { d with clock := d.clock + micros }

/-- Runs work in a transaction of its own. -/
def transact (d : Deployment σ) (rowId : Nat → String) (p : Storage α) : Outcome α × Deployment σ :=
  let (outcome, db, issued) := Storage.transact p ⟨d.now, rowId⟩ d.database d.rowsIssued
  (outcome, { d with database := db, rowsIssued := issued })

/-- The journey of an execution in a new session. -/
def journey {τ : Type} [Timeline τ] (d : Deployment σ) : Journey τ (Session × σ) :=
  ⟨(.begin d.database d.rowsIssued, d.world), Timeline.zero, d.clock, d.tick, d.runsIssued, []⟩

/-- The deployment after a journey.  The database is the one committed at its end, or the one before
it if it cannot be committed. -/
def after {τ : Type} (d : Deployment σ) (j : Journey τ (Session × σ)) (keep : Bool) : Deployment σ where
  database := if keep then j.world.1.commit.toOption.getD d.database else d.database
  clock := j.start
  tick := d.tick
  rowsIssued := j.world.1.issued
  runsIssued := j.issued
  world := j.world.2

/-- An execution: its results, the calls it made, and whether its session could be committed. -/
structure Executed (τ : Type) where
  batch : Engine.Batch
  calls : List (τ × Call)
  committed : Outcome Unit

/-- Executes a stored workflow for the leads selected.  An execution that cannot be committed still
has results, but leaves nothing in the database. -/
def execute {τ : Type} [Timeline τ] (d : Deployment σ) (desk : Desk τ σ) (workflowId : String)
    (q : LeadQuery) : Outcome (Executed τ) × Deployment σ :=
  match desk.execute workflowId q d.journey with
  | (.error f, j) => (.error f, d.after j false)
  | (.ok batch, j) => (.ok ⟨batch, j.calls, j.world.1.commit.map fun _ => ()⟩, d.after j true)

end Deployment

end LeadFlow.Storage
