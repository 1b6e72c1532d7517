set_option autoImplicit false

/-!
# Decimal: doubles as exact numbers

A double is a sign and either a whole number times a power of two, infinity or not a number.  All
conversions between decimal text and doubles go through this reading, in exact integer arithmetic:
`ofRatio` gives the double nearest to a fraction, `Binary.ofFloat` reads one back.
-/

namespace LeadFlow.Decimal

/-- The size of a double, without its sign. -/
inductive Size where
  /-- `mantissa * 2 ^ exponent` -/
  | finite (mantissa : Nat) (exponent : Int)
  | infinite
  | nan
  deriving DecidableEq, Repr, Inhabited

/-- A double taken apart. -/
structure Binary where
  negative : Bool
  size : Size
  deriving DecidableEq, Repr, Inhabited

/-- `2 ^ 52`, the weight of the leading bit of a normal mantissa. -/
def hiddenBit : Nat := 4503599627370496

/-- Reads sign, exponent and mantissa off the bits. -/
def Binary.ofFloat (x : Float) : Binary :=
  let bits := x.toBits.toNat
  let field := bits / hiddenBit % 2048
  let low := bits % hiddenBit
  { negative := 2048 ≤ bits / hiddenBit
    size :=
      if field = 2047 then (if low = 0 then .infinite else .nan)
      else if field = 0 then .finite low (-1074)
      else .finite (low + hiddenBit) ((field : Int) - 1075) }

/-- Quotient rounded to the nearest whole number, a half to the even neighbour. -/
def roundDiv (num den : Nat) : Nat :=
  let q := num / den
  let r := num % den
  if den < 2 * r || (2 * r == den && q % 2 == 1) then q + 1 else q

/-- `num / den * 2 ^ (-e)` as a fraction. -/
def scale (num den : Nat) (e : Int) : Nat × Nat :=
  if 0 ≤ e then (num, den * Nat.pow 2 e.toNat) else (num * Nat.pow 2 (-e).toNat, den)

/-- The exponent at which a positive fraction has a mantissa of 53 bits, or the least exponent of
a double. -/
def exponentFor (num den : Nat) : Int :=
  let guess := (num.log2 : Int) - den.log2 - 52
  let (a, b) := scale num den guess
  max (if a < b * hiddenBit then guess - 1 else guess) (-1074)

/-- The bits of the double nearest to a fraction; those of infinity when the fraction is too
large for a finite one. -/
def bitsOfRatio (num den : Nat) : Nat :=
  if num = 0 then 0
  else
    let e := exponentFor num den
    let (a, b) := scale num den e
    min ((e + 1074).toNat * hiddenBit + roundDiv a b) (2047 * hiddenBit)

/-- The double nearest to `± num / den`. -/
def ofRatio (negative : Bool) (num den : Nat) : Float :=
  .ofBits (bitsOfRatio num den + (if negative then 2048 * hiddenBit else 0)).toUInt64

/-- The finite size as a fraction. -/
def Size.ratio? : Size → Option (Nat × Nat)
  | .finite m e => some (if 0 ≤ e then (m * Nat.pow 2 e.toNat, 1) else (m, Nat.pow 2 (-e).toNat))
  | _ => none

/-- Numerator, with its sign, and denominator of a finite double. -/
def ratio? (x : Float) : Option (Int × Nat) :=
  let b := Binary.ofFloat x
  b.size.ratio?.map fun (n, d) => (if b.negative then -(n : Int) else n, d)

/-- The double has a sign bit. -/
def isNegative (x : Float) : Bool := (Binary.ofFloat x).negative

/-- The value is a whole number. -/
def isWhole (x : Float) : Bool :=
  match ratio? x with
  | some (n, d) => n % d == 0
  | none => false

/-- The double nearest to a whole number, or none beyond the largest double. -/
def ofInt? (n : Int) : Option Float :=
  let x := ofRatio (decide (n < 0)) n.natAbs 1
  if x.isInf then none else some x

end LeadFlow.Decimal
