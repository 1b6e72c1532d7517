import LeadFlow.Workflow.Run

set_option autoImplicit false

/-!
# Analytics: order of runs and shares

Every projection reads the runs latest first; runs that started at the same time keep their order.
Shares are whole percentages, a half going to the even neighbour.
-/

namespace LeadFlow.Analytics

open Calendar

/-- Moments with and without a zone have no order. -/
def noOrder : Fault := .of .type "can't compare offset-naive and offset-aware datetimes"

/-- All runs have comparable starts. -/
def areComparable : List Run → Bool
  | [] => true
  | r :: rs => rs.all fun s => Moment.comparable r.startedAt s.startedAt

/-- The run started no earlier. -/
def noEarlier (a b : Run) : Bool := !Moment.lt a.startedAt b.startedAt

/-- The runs, latest start first. -/
def newestFirst (runs : List Run) : Outcome (List Run) :=
  if areComparable runs then .ok (runs.mergeSort noEarlier) else .error noOrder

/-- The first `n` items; a negative `n` leaves that many out at the end. -/
def firstOf {α : Type} (n : Int) (xs : List α) : List α :=
  if 0 ≤ n then xs.take n.toNat else xs.take (xs.length - n.natAbs)

/-- The share of a part in per cent, rounded; nothing of nothing is 0. -/
def percent (part whole : Nat) : Int :=
  if whole = 0 then 0
  else match Decimal.round (quotient part whole * 100) with
    | .ok n => n
    | .error _ => 0

/-- Milliseconds in all over a count, in seconds to one decimal place. -/
def meanSeconds (totalMs : Int) (count : Nat) : Outcome Float := do
  return Decimal.roundTo 1 ((← dividedBy totalMs count) / 1000)

end LeadFlow.Analytics
