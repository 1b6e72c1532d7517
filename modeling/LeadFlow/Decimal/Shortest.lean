import LeadFlow.Decimal.Binary

set_option autoImplicit false

/-!
# Decimal: the fewest digits that read back

For a finite positive double, `shortest` finds the decimal with the fewest digits that rounds to
it, and of those the nearest.  For one digit, two digits, and so on, it tests the value's two
neighbours on that decimal grid against the interval of numbers that round to the value.
-/

namespace LeadFlow.Decimal

/-- A positive decimal `digits * 10 ^ exponent`. -/
structure Digits where
  digits : Nat
  exponent : Int
  deriving DecidableEq, Repr, Inhabited

/-- `a / b` times `10 ^ (-p)`, as a fraction. -/
def scaleTen (a b : Nat) (p : Int) : Nat × Nat :=
  if 0 ≤ p then (a, b * Nat.pow 10 p.toNat) else (a * Nat.pow 10 (-p).toNat, b)

/-- `10 ^ k ≤ a / b`. -/
def powLe (a b : Nat) (k : Int) : Bool :=
  let (x, y) := scaleTen a b k
  y ≤ x

/-- The position of the first digit of a positive fraction: the greatest `k` with
`10 ^ k ≤ a / b`. -/
def leading (a b : Nat) : Int :=
  let guess := ((a.log2 : Int) - b.log2) * 30103 / 100000 - 1
  [guess + 3, guess + 2, guess + 1].find? (powLe a b) |>.getD guess

/-- The interval of numbers that round to `m * 2 ^ e`, doubled twice: four times the value, the
distance to the lower and to the upper end. -/
def neighbourhood (m : Nat) (e : Int) : Nat × Nat × Nat :=
  (4 * m, if m = hiddenBit ∧ e ≠ -1074 then 1 else 2, 2)

/-- `d * 10 ^ p` rounds to `m * 2 ^ e`; the ends count when `m` is even. -/
def readsBack (m : Nat) (e : Int) (d : Nat) (p : Int) : Bool :=
  let (v, low, high) := neighbourhood m e
  -- compare 4 * d * 10 ^ p with the ends times 2 ^ e
  let (x, y) := scaleTen (4 * d) 1 (-p)
  let (x, y) := scale x y e
  if m % 2 = 0 then (v - low) * y ≤ x && x ≤ (v + high) * y
  else (v - low) * y < x && x < (v + high) * y

/-- The better of the two neighbours of the value on the grid of `10 ^ p`, if one reads back. -/
def onGrid (m : Nat) (e : Int) (a b : Nat) (p : Int) : Option Nat :=
  let (x, y) := scaleTen a b p
  let d := x / y
  match readsBack m e d p, readsBack m e (d + 1) p with
  | true, false => some d
  | false, true => some (d + 1)
  | true, true => some (roundDiv x y)
  | false, false => none

/-- Moves trailing zeros into the exponent. -/
def dropZeros : Nat → Digits → Digits
  | 0, d => d
  | fuel + 1, d =>
    if d.digits ≠ 0 ∧ d.digits % 10 = 0 then dropZeros fuel ⟨d.digits / 10, d.exponent + 1⟩ else d

/-- The shortest decimal that rounds to `m * 2 ^ e`, for `m ≠ 0`. -/
def shortest (m : Nat) (e : Int) : Digits :=
  let (a, b) := ((Size.finite m e).ratio?).getD (m, 1)
  let k := leading a b
  let tries := (List.range 17).filterMap fun (n : Nat) =>
    (onGrid m e a b (k - n)).map fun d => Digits.mk d (k - n)
  dropZeros 20 (tries.head?.getD ⟨roundDiv a b, 0⟩)

/-- A positive fraction rounded to `n` significant digits, a half to the even digit. -/
def significant (n : Nat) (a b : Nat) : Digits :=
  let p := leading a b - n + 1
  let (x, y) := scaleTen a b p
  dropZeros (n + 1) ⟨roundDiv x y, p⟩

end LeadFlow.Decimal
