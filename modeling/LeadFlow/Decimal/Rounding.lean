import LeadFlow.Decimal.Binary

set_option autoImplicit false

/-!
# Decimal: rounding doubles

Rounding to a whole number, a half to the even neighbour or away from zero, rounding to a number of
places, and cutting off the fraction.  All of them work on the exact value of the double.
-/

namespace LeadFlow.Decimal

/-- Why a double has no whole part. -/
inductive NotFinite where
  | nan
  | infinity
  deriving DecidableEq, Repr

/-- The value with its sign. -/
def signed (negative : Bool) (n : Nat) : Int := if negative then -(n : Int) else n

/-- Applies a rule for fractions to the size of a finite double. -/
def wholeBy (rule : Nat → Nat → Nat) (x : Float) : Except NotFinite Int :=
  let b := Binary.ofFloat x
  match b.size with
  | .nan => .error .nan
  | .infinite => .error .infinity
  | .finite m e =>
    let (n, d) := ((Size.finite m e).ratio?).getD (0, 1)
    .ok (signed b.negative (rule n d))

/-- The nearest whole number, a half to the even neighbour. -/
def round (x : Float) : Except NotFinite Int := wholeBy roundDiv x

/-- The nearest whole number, a half away from zero. -/
def roundAway (x : Float) : Except NotFinite Int := wholeBy (fun n d => (2 * n + d) / (2 * d)) x

/-- The whole part, cut off towards zero. -/
def truncate (x : Float) : Except NotFinite Int := wholeBy (· / ·) x

/-- The greatest whole number not above the value. -/
def floor (x : Float) : Except NotFinite Int :=
  match ratio? x with
  | some (n, d) => .ok (n / d)
  | none => .error (if x.isNaN then .nan else .infinity)

/-- The double nearest to the value rounded to `places` decimal places, a half to the even
neighbour.  Infinities and NaN stay as they are. -/
def roundTo (places : Nat) (x : Float) : Float :=
  let b := Binary.ofFloat x
  match b.size with
  | .finite m e =>
    let (n, d) := ((Size.finite m e).ratio?).getD (0, 1)
    ofRatio b.negative (roundDiv (n * Nat.pow 10 places) d) (Nat.pow 10 places)
  | _ => x

end LeadFlow.Decimal
