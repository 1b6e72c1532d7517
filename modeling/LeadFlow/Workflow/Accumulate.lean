import LeadFlow.Value.Arithmetic
import LeadFlow.Workflow.Kind
import LeadFlow.Workflow.Stats

set_option autoImplicit false

/-!
# Workflow: folding a batch into the statistics

The conversion rate is a running average weighted by the number of leads, kept as a percentage with
one decimal place.  Each lead saves a fixed number of hours; the total is kept in whole hours.
Return on investment is carried along.  The arithmetic is a parameter: doubles when the library
runs, exact fractions when its rules are studied.
-/

namespace LeadFlow

/-- The arithmetic that statistics need. -/
class StatsArithmetic (α : Type) where
  ofInt : Int → Outcome α
  add : α → α → α
  mul : α → α → α
  /-- the quotient; a divisor of zero is a fault -/
  div : α → α → Outcome α
  /-- to one decimal place, a half to the even neighbour -/
  roundTenth : α → α
  /-- to a whole number, a half to the even neighbour -/
  roundUnit : α → Outcome α

/-- Division by zero. -/
def Fault.divisionByZero : Fault := .of .zeroDivision "float division by zero"

instance : StatsArithmetic Float where
  ofInt := doubleOf
  add := (· + ·)
  mul := (· * ·)
  div x y := if y == 0 then .error .divisionByZero else .ok (x / y)
  roundTenth := Decimal.roundTo 1
  roundUnit x := do doubleOf (← roundWhole x)

namespace StatsOf

variable {α : Type} [StatsArithmetic α]

open StatsArithmetic

/-- The new conversion rate from the leads before, their rate, and a batch. -/
def rateAfter (processed : Int) (rate : α) (batch successes : Nat) : Outcome α := do
  let hundred ← ofInt 100
  let converted := add (mul (← ofInt processed) (← div rate hundred)) (← ofInt successes)
  return roundTenth (mul (← div converted (← ofInt (processed + batch))) hundred)

/-- The hours saved after a batch; `saving` says what so many leads save. -/
def hoursAfter (hours : α) (saving : Nat → Outcome α) (batch : Nat) : Outcome α := do
  roundUnit (add hours (← saving batch))

/-- The statistics after a batch of runs with these statuses. -/
def accumulate (previous : StatsOf α) (statuses : List RunStatus) (saving : Nat → Outcome α) :
    Outcome (StatsOf α) :=
  if statuses.isEmpty then .ok previous
  else do
    let rate ← rateAfter previous.leadsProcessed previous.conversionRate statuses.length
      (statuses.count .success)
    let hours ← hoursAfter previous.timeSavedHrs saving statuses.length
    return ⟨previous.leadsProcessed + statuses.length, rate, hours, previous.roi⟩

end StatsOf

/-- The hours that so many leads save.  Whole hours per lead are multiplied exactly. -/
def Stats.saving (perRecord : Num) (leads : Nat) : Outcome Float := do
  (← (Num.int leads).mul perRecord).toFloat

/-- The same for something that should be a number of hours: a text and a list can be repeated, but
add up to nothing. -/
def Stats.savingOf (perRecord : Value) (leads : Nat) : Outcome Float :=
  match Num.ofValue? perRecord, perRecord with
  | some n, _ => saving n leads
  | none, .str _ | none, .list _ => .error (.noOperation "+" "float" perRecord.kindName)
  | none, _ => .error (.noOperation "*" "int" perRecord.kindName)

end LeadFlow
