import LeadFlow.Value.Arithmetic

set_option autoImplicit false

/-!
# Programs: lines of time

Time is counted in seconds from the start.  The kind of number is a parameter: doubles when the
library runs, exact fractions when its rules are studied.
-/

namespace LeadFlow

/-- Numbers that can count seconds. -/
class Timeline (τ : Type) where
  ofSeconds : Float → τ
  add : τ → τ → τ
  sub : τ → τ → τ
  le : τ → τ → Bool
  lt : τ → τ → Bool
  /-- whole milliseconds, cut off towards zero -/
  millis : τ → Int
  /-- microseconds, a half to the even neighbour -/
  micros : τ → Int

/-- Seconds as microseconds, a half to the even neighbour.  Whole seconds are counted exactly. -/
def microsOf (seconds : Float) : Outcome Int := do
  let whole ← truncateWhole seconds
  let fraction := seconds - (Decimal.ofInt? whole).getD 0
  let micros := whole * 1000000 + (← roundWhole (fraction * 1000000))
  let days := micros / 86400000000
  if days < -Int.pow 2 31 || Int.pow 2 31 ≤ days then
    .error (.of .overflow "Python int too large to convert to C int")
  else if 999999999 < days.natAbs then
    .error (.of .overflow s!"days={days}; must have magnitude <= 999999999")
  else return micros

instance : Timeline Float where
  ofSeconds := id
  add := (· + ·)
  sub := (· - ·)
  le a b := decide (a ≤ b)
  lt a b := decide (a < b)
  millis d :=
    match Decimal.truncate (d * 1000) with
    | .ok n => n
    | .error _ => 0
  micros d :=
    match microsOf d with
    | .ok n => n
    | .error _ => 0

namespace Timeline

variable {τ : Type} [Timeline τ]

/-- The start. -/
def zero : τ := ofSeconds 0

/-- The time after a wait, or nothing unless that comes before `stop`.  A wait of zero or less takes
no time.  A wait that is no number takes none either, but never comes before a stop. -/
def after (stop : Option τ) (time wait : τ) : Option τ :=
  if le wait zero then some time
  else
    match stop with
    | some s => if le (add time wait) s then some (add time wait) else none
    | none => some (if lt zero wait then add time wait else time)

/-- The time at which something is cut off.  A stop that is no number cuts at once. -/
def cutAt (stop : Option τ) (time : τ) : τ :=
  match stop with
  | some s => if le time s then s else time
  | none => time

end Timeline

end LeadFlow
