import LeadFlow.Decimal.Notation
import LeadFlow.Decimal.Rounding
import LeadFlow.Fault
import LeadFlow.Value.Basic

set_option autoImplicit false

/-!
# Value: arithmetic

Sums, products and powers of numbers.  Whole numbers stay whole and exact; a whole number meets a
double as the nearest double.  Quotients of whole numbers are rounded once.
-/

namespace LeadFlow

/-- A whole number as a double. -/
def doubleOf (n : Int) : Outcome Float :=
  match Decimal.ofInt? n with
  | some x => .ok x
  | none => .error .tooLarge

/-- The fault of a double without a whole part. -/
def Fault.notFinite : Decimal.NotFinite → Fault
  | .nan => .of .value "cannot convert float NaN to integer"
  | .infinity => .of .overflow "cannot convert float infinity to integer"

/-- The nearest whole number, a half to the even neighbour. -/
def roundWhole (x : Float) : Outcome Int := (Decimal.round x).mapError .notFinite

/-- The whole part, cut off towards zero. -/
def truncateWhole (x : Float) : Outcome Int := (Decimal.truncate x).mapError .notFinite

/-- The quotient of two whole numbers as a double, rounded once.  The divisor is not zero. -/
def quotient (n : Int) (d : Nat) : Float := Decimal.ofRatio (decide (n < 0)) n.natAbs d

/-- The quotient, if it is not beyond the largest double. -/
def dividedBy (n : Int) (d : Nat) : Outcome Float :=
  let x := quotient n d
  if x.isInf then .error (.of .overflow "integer division result too large for a float") else .ok x

namespace Num

/-- The number as a double. -/
def toFloat : Num → Outcome Float
  | int n => doubleOf n
  | float x => .ok x

/-- Works on whole numbers if both are, else on doubles. -/
def combine (whole : Int → Int → Int) (real : Float → Float → Float) (a b : Num) : Outcome Num :=
  match a, b with
  | int n, int m => .ok (.int (whole n m))
  | _, _ => do return .float (real (← a.toFloat) (← b.toFloat))

/-- The sum. -/
def add (a b : Num) : Outcome Num := combine (· + ·) (· + ·) a b

/-- The product. -/
def mul (a b : Num) : Outcome Num := combine (· * ·) (· * ·) a b

/-- Two to a whole power within the range of doubles, which is exact. -/
def powerOfTwo (n : Nat) : Float := Decimal.ofRatio false (Nat.pow 2 n) 1

/-- A double to a power, if the result is finite where both are.  Any power of one is one, also where the
exponent is infinite or not a number. -/
def floatPower (x y : Float) : Outcome Float :=
  let z := if x == 1 then 1 else Float.pow x y
  if z.isInf && x.isFinite && y.isFinite then
    .error (.of .overflow "(34, 'Numerical result out of range')")
  else .ok z

/-- A double to a power.  A negative number has no real power whose exponent is finite and has a
fraction. -/
def realPower? (x y : Float) : Outcome (Option Num) := do
  if x < 0 && x.isFinite && y.isFinite && !Decimal.isWhole y then return none
  else return some (.float (← floatPower x y))

/-- A number to a power that is not negative. -/
def power? (a e : Num) : Outcome (Option Num) :=
  match a, e with
  | int m, int n => .ok (some (.int (Int.pow m n.toNat)))
  | float x, int n =>
    if x == 2 && decide (n.toNat < 1024) then .ok (some (.float (powerOfTwo n.toNat)))
    else do realPower? x (← doubleOf n)
  | _, _ => do realPower? (← a.toFloat) (← e.toFloat)

/-- A value that is to be compared with a number; `sign` says how. -/
def comparable (sign : String) (v : Value) (other : Num) : Outcome Num :=
  match ofValue? v with
  | some n => .ok n
  | none => .error (.notComparable sign v.kindName other.toValue.kindName)

/-- Strict order by value. -/
def lt (a b : Num) : Bool := a.le b && !b.le a

/-- The second if it is smaller, else the first. -/
def least (a b : Num) : Num := if b.lt a then b else a

/-- The second if it is larger, else the first. -/
def most (a b : Num) : Num := if a.lt b then b else a

/-- Rounded to decimal places; whole numbers stay as they are. -/
def roundTo (places : Nat) : Num → Num
  | int n => .int n
  | float x => .float (Decimal.roundTo places x)

end Num

end LeadFlow
