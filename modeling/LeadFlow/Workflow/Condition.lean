import LeadFlow.Lead
import LeadFlow.Workflow.Step

set_option autoImplicit false

/-!
# Workflow: conditions

A condition compares a field of the lead with a value.  Greater and less compare as numbers: an
empty value counts as zero, and what cannot be read as a number as NaN, which is in no relation.
Equality compares the texts in which the two would appear in a message.
-/

namespace LeadFlow.Condition

/-- A value as a number. -/
def asNumber : Value → Outcome Float
  | .null => .ok 0
  | .str "" => .ok 0
  | .bool b => .ok (if b then 1 else 0)
  | .int n =>
    match Decimal.ofInt? n with
    | some x => .ok x
    | none => .error .tooLarge
  | .float x => .ok x
  | v => .ok ((Decimal.floatOfText? (Text.trim v.display)).getD (.ofBits 0x7ff8000000000000))

/-- The comparison holds. -/
def holds (op : Operator) (actual expected : Value) : Outcome Bool :=
  match op with
  | .gt => do return decide ((← asNumber actual) > (← asNumber expected))
  | .lt => do return decide ((← asNumber actual) < (← asNumber expected))
  | .eq => .ok (actual.copy == expected.copy)

end LeadFlow.Condition
