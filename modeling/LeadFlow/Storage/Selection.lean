import LeadFlow.Calendar.Moment

set_option autoImplicit false

/-!
# Storage: selections

A selection says which rows are wanted, in what order, and how many of them at most.  Rows that are
equal in the order stay in the order of their insertion.
-/

namespace LeadFlow.Storage

/-- Which rows, in what order, how many.  A negative limit is no limit. -/
structure Selection (ρ : Type) where
  keep : ρ → Bool
  /-- the first may stand before the second -/
  order? : Option (ρ → ρ → Bool)
  limit : Int

/-- The first rows up to a limit; a negative limit is no limit. -/
def limited {ρ : Type} (limit : Int) (rows : List ρ) : List ρ :=
  if limit < 0 then rows else rows.take limit.toNat

/-- The latest first. -/
def newestBy {ρ : Type} (time : ρ → Calendar.Moment) (a b : ρ) : Bool :=
  (time b).instant ≤ (time a).instant

namespace Selection

variable {ρ : Type}

/-- All rows that satisfy a condition, in the order of insertion. -/
def only (keep : ρ → Bool) : Selection ρ := ⟨keep, none, -1⟩

/-- The rows in the order of the selection. -/
def sorted (s : Selection ρ) (rows : List ρ) : List ρ :=
  match s.order? with
  | some le => rows.mergeSort le
  | none => rows

/-- The selected rows. -/
def apply (s : Selection ρ) (rows : List ρ) : List ρ :=
  limited s.limit (s.sorted (rows.filter s.keep))

end Selection

end LeadFlow.Storage
