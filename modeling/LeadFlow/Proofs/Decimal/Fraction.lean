import LeadFlow.Decimal.Rounding
import Mathlib

set_option autoImplicit false

/-!
# Decimal: exact fractions

What a double stands for as a fraction, and how fractions are rounded to whole numbers: a half goes to
the even neighbour, as for doubles.  Rounding is off by half a unit at most and keeps the order.

Main statements: `roundEven_near`, `roundEven_mono`.
-/

namespace LeadFlow.Decimal

/-- The fraction that a double stands for; zero for one that is not finite. -/
def fraction (x : Float) : ℚ :=
  match ratio? x with
  | some (n, d) => n / d
  | none => 0

example : fraction 2.75 = 11 / 4 := by decide +kernel

/-! ## Rounding fractions -/

/-- The rounded quotient is off by half a unit at most. -/
theorem roundDiv_near (num : Nat) {den : Nat} (hden : 0 < den) :
    2 * (den * roundDiv num den) ≤ 2 * num + den ∧ 2 * num ≤ 2 * (den * roundDiv num den) + den := by
  have hnum := Nat.div_add_mod num den
  have hrest := Nat.mod_lt num hden
  unfold roundDiv
  dsimp only
  split
  · rename_i hup
    have hhalf : den ≤ 2 * (num % den) := by
      simp only [Bool.or_eq_true, Bool.and_eq_true, decide_eq_true_eq, beq_iff_eq] at hup
      omega
    rw [Nat.mul_succ]
    omega
  · rename_i hdown
    have hhalf : 2 * (num % den) ≤ den := by
      simp only [Bool.or_eq_true, decide_eq_true_eq, not_or] at hdown
      omega
    omega

/-- Up to a half is rounded to zero. -/
theorem roundDiv_eq_zero {num den : Nat} (hden : 0 < den) (h : 2 * num ≤ den) : roundDiv num den = 0 := by
  have hlt : num < den := by omega
  unfold roundDiv
  rw [Nat.div_eq_of_lt hlt, Nat.mod_eq_of_lt hlt]
  exact if_neg (by simp [h])

/-- The whole number nearest to a fraction, a half to the even neighbour. -/
def roundEven (x : ℚ) : ℤ := signed (decide (x < 0)) (roundDiv x.num.natAbs x.den)

theorem abs_eq_natAbs_div (x : ℚ) : |x| = x.num.natAbs / x.den := by
  conv_lhs => rw [← Rat.num_div_den x]
  rw [abs_div, Nat.abs_cast, ← Int.cast_abs, Int.abs_eq_natAbs]
  rfl

/-- A fraction and its whole number have one sign. -/
theorem roundEven_sub (x : ℚ) : |roundEven x - x| = |(roundDiv x.num.natAbs x.den : ℚ) - abs x| := by
  unfold roundEven signed
  by_cases hx : x < 0
  · rw [if_pos (by simpa using hx), abs_of_neg hx, ← abs_neg]
    congr 1
    push_cast
    ring
  · rw [if_neg (by simpa using hx), abs_of_nonneg (not_lt.mp hx)]
    rfl

/-- Rounding is off by half a unit at most. -/
theorem roundEven_near (x : ℚ) : |roundEven x - x| ≤ 1 / 2 := by
  have hden : (0 : ℚ) < x.den := by exact_mod_cast x.den_pos
  obtain ⟨hlow, hhigh⟩ := roundDiv_near x.num.natAbs x.den_pos
  have hlow : 2 * (x.den * (roundDiv x.num.natAbs x.den : ℚ)) ≤ 2 * x.num.natAbs + x.den := by
    exact_mod_cast hlow
  have hhigh : 2 * (x.num.natAbs : ℚ) ≤ 2 * (x.den * roundDiv x.num.natAbs x.den) + x.den := by
    exact_mod_cast hhigh
  rw [roundEven_sub, abs_eq_natAbs_div x, abs_le]
  constructor
  · rw [le_sub_iff_add_le, ← sub_eq_neg_add, sub_le_iff_le_add, div_le_iff₀ hden]
    linarith
  · rw [sub_le_iff_le_add, ← sub_le_iff_le_add', le_div_iff₀ hden]
    linarith

example : [1 / 2, 3 / 2, 5 / 2, -(1 / 2), -(7 / 4)].map roundEven = [0, 2, 2, 0, -2] := by decide +kernel

/-- Up to a half is rounded to zero, on either side. -/
theorem roundEven_eq_zero {x : ℚ} (h : |x| ≤ 1 / 2) : roundEven x = 0 := by
  have hden : (0 : ℚ) < x.den := by exact_mod_cast x.den_pos
  have hhalf : 2 * x.num.natAbs ≤ x.den := by
    rw [abs_eq_natAbs_div, div_le_iff₀ hden] at h
    have hcast : 2 * (x.num.natAbs : ℚ) ≤ x.den := by linarith
    exact_mod_cast hcast
  unfold roundEven
  rw [roundDiv_eq_zero x.den_pos hhalf]
  unfold signed
  split <;> rfl

/-! ## Rounding keeps the order -/

/-- Two fractions are rounded in the order they have. -/
theorem roundEven_mono : Monotone roundEven := by
  intro x y hxy
  by_contra hlt
  have hstep : roundEven y + 1 ≤ roundEven x := by omega
  have hstep : (roundEven y : ℚ) + 1 ≤ roundEven x := by exact_mod_cast hstep
  obtain ⟨-, hx⟩ := abs_le.mp (roundEven_near x)
  obtain ⟨hy, -⟩ := abs_le.mp (roundEven_near y)
  -- both are off by just a half, in opposite directions, which leaves no room between them
  obtain rfl : x = y := le_antisymm hxy (by linarith)
  exact hlt (le_refl _)

/-- A whole number is rounded to itself. -/
theorem roundEven_intCast (n : ℤ) : roundEven n = n := by
  have hnear : |((roundEven n - n : ℤ) : ℚ)| ≤ 1 / 2 := by
    push_cast
    exact roundEven_near n
  have hlt : |roundEven n - n| < 1 := by
    have hcast : ((|roundEven n - n| : ℤ) : ℚ) < 1 := by
      rw [Int.cast_abs]
      linarith
    exact_mod_cast hcast
  exact sub_eq_zero.mp (Int.abs_lt_one_iff.mp hlt)

/-- What is not below a whole number is not below it when rounded. -/
theorem le_roundEven {n : ℤ} {x : ℚ} (h : n ≤ x) : n ≤ roundEven x := by
  rw [← roundEven_intCast n]
  exact roundEven_mono h

/-- What is not above a whole number is not above it when rounded. -/
theorem roundEven_le {n : ℤ} {x : ℚ} (h : x ≤ n) : roundEven x ≤ n := by
  rw [← roundEven_intCast n]
  exact roundEven_mono h

end LeadFlow.Decimal
