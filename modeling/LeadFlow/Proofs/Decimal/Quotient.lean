import LeadFlow.Proofs.Decimal.Magnitude
import LeadFlow.Value.Arithmetic
import Mathlib

set_option autoImplicit false

/-!
# Decimal: how large quotients get

A quotient of whole numbers is rounded to a double once.  It is finite unless the one is very much larger
than the other, and its exponent follows the number of bits by which it is.

Main statements: `upTo_quotient`, `dividedBy_eq_ok`.
-/

namespace LeadFlow.Decimal

open Float.Model Float.Model.UnpackedFloat

/-- At an exponent not far below that of a fraction, few bits are in front of the point. -/
theorem scale_div_lt {num den : Nat} (hden : den ≠ 0) {e : Int}
    (he : (num.log2 : Int) - den.log2 - 53 ≤ e) :
    ∃ a b, scale num den e = (a, b) ∧ a / b < 2 ^ 54 := by
  have hnum : num < 2 ^ (num.log2 + 1) := Nat.lt_log2_self
  have hlow : 2 ^ den.log2 ≤ den := Nat.log2_self_le hden
  have hpos : 0 < den := Nat.pos_of_ne_zero hden
  unfold scale
  split
  · refine ⟨_, _, rfl, (Nat.div_lt_iff_lt_mul (Nat.mul_pos hpos (Nat.two_pow_pos _))).mpr ?_⟩
    calc num < 2 ^ (num.log2 + 1) := hnum
      _ ≤ 2 ^ (54 + (den.log2 + e.toNat)) := Nat.pow_le_pow_right (by decide) (by omega)
      _ = 2 ^ 54 * (2 ^ den.log2 * 2 ^ e.toNat) := by rw [Nat.pow_add, Nat.pow_add]
      _ ≤ 2 ^ 54 * (den * 2 ^ e.toNat) := Nat.mul_le_mul_left _ (Nat.mul_le_mul_right _ hlow)
  · refine ⟨_, _, rfl, (Nat.div_lt_iff_lt_mul hpos).mpr ?_⟩
    calc num * 2 ^ (-e).toNat < 2 ^ (num.log2 + 1) * 2 ^ (-e).toNat :=
          Nat.mul_lt_mul_of_pos_right hnum (by positivity)
      _ = 2 ^ (num.log2 + 1 + (-e).toNat) := (Nat.pow_add ..).symm
      _ ≤ 2 ^ (54 + den.log2) := Nat.pow_le_pow_right (by decide) (by omega)
      _ = 2 ^ 54 * 2 ^ den.log2 := Nat.pow_add ..
      _ ≤ 2 ^ 54 * den := Nat.mul_le_mul_left _ hlow

/-- The exponent field of a fraction, from the number of bits by which it is above one. -/
theorem bitsOfRatio_field_le {num den k : Nat} (hden : den ≠ 0) (h : num < 2 ^ k * den) :
    bitsOfRatio num den / hiddenBit ≤ k + 1026 := by
  by_cases hnum : num = 0
  · subst hnum
    have hnone : bitsOfRatio 0 den = 0 := rfl
    rw [hnone, Nat.zero_div]
    exact Nat.zero_le _
  · have hlog : num.log2 < k + (den.log2 + 1) := by
      rw [Nat.log2_lt hnum, Nat.pow_add]
      exact h.trans (Nat.mul_lt_mul_of_pos_left Nat.lt_log2_self (by positivity))
    obtain ⟨e, he⟩ : ∃ e, exponentFor num den = e := ⟨_, rfl⟩
    have hbounds : (num.log2 : Int) - den.log2 - 53 ≤ e ∧ e ≤ (k : Int) - 52 := by
      rw [← he]
      unfold exponentFor
      dsimp only
      split <;> omega
    obtain ⟨a, b, hscale, hfront⟩ := scale_div_lt hden hbounds.1
    have hround := roundDiv_le a b
    have hfield : (e + 1074).toNat ≤ k + 1022 := by omega
    have hbits : bitsOfRatio num den ≤ (k + 1026) * hiddenBit := by
      calc bitsOfRatio num den ≤ (e + 1074).toNat * hiddenBit + roundDiv a b := by
            rw [bitsOfRatio_eq hnum he hscale]
            exact Nat.min_le_left _ _
        _ ≤ (k + 1022) * hiddenBit + 4 * hiddenBit :=
            Nat.add_le_add (Nat.mul_le_mul_right _ hfield) (hround.trans hfront)
        _ = (k + 1026) * hiddenBit := (Nat.add_mul ..).symm
    exact (Nat.div_le_div_right hbits).trans (Nat.mul_div_cancel _ (by decide)).le

/-- Bits with an exponent field below the largest are those of a finite double. -/
theorem upTo_ofBits {bits field : Nat} (hbits : bits < 2 ^ 64) (hfield : bits / hiddenBit % 2048 ≤ field)
    (hleast : 1 ≤ field) (hmost : field ≤ 2046) :
    UpTo (signOf (2048 ≤ bits / hiddenBit)) (field - 1075) (Float.ofBits bits.toUInt64).toModel.unpack := by
  have hsame : bits.toUInt64.toBitVec.toNat = bits := Nat.mod_eq_of_lt hbits
  refine UpTo.pack ?_ (by omega) (by omega)
  rw [unpack_eq, hsame]
  dsimp only
  rw [if_neg (by omega)]
  split
  · split
    · trivial
    · exact ⟨rfl, by omega⟩
  · exact ⟨rfl, by omega⟩

/-- A quotient has the sign of the number that is divided, and few bits in front of the point if that number
is not much larger. -/
theorem upTo_quotient {n : Int} {d k : Nat} (hd : d ≠ 0) (h : n.natAbs < 2 ^ k * d) (hk : k ≤ 1000) :
    UpTo (signOf (n < 0)) (k - 49) (quotient n d).toModel.unpack := by
  have hfield := bitsOfRatio_field_le hd h
  obtain ⟨bits, hbits⟩ : ∃ bits, bitsOfRatio n.natAbs d = bits := ⟨_, rfl⟩
  rw [hbits] at hfield
  have hlimit : ((k + 1026 : Nat) : Int) - 1075 = k - 49 := by omega
  have hmod : bits / hiddenBit % 2048 ≤ k + 1026 := (Nat.mod_le _ _).trans hfield
  have hlow : bits < 2048 * hiddenBit := (Nat.div_lt_iff_lt_mul (by decide)).mp (by omega)
  unfold quotient ofRatio
  rw [hbits, ← hlimit]
  by_cases hneg : n < 0
  · have hsplit : (bits + 2048 * hiddenBit) / hiddenBit = bits / hiddenBit + 2048 :=
      Nat.add_mul_div_right _ _ (by decide)
    have hbound : bits + 2048 * hiddenBit < 2 ^ 64 := by
      unfold hiddenBit at *
      omega
    have hsigned : (bits + 2048 * hiddenBit) / hiddenBit % 2048 ≤ k + 1026 := by
      rwa [hsplit, Nat.add_mod_right]
    have hupTo := upTo_ofBits hbound hsigned (by omega) (by omega)
    rw [hsplit] at hupTo
    simpa [hneg] using hupTo
  · have hbound : bits < 2 ^ 64 := by
      unfold hiddenBit at *
      omega
    have hupTo := upTo_ofBits hbound hmod (by omega) (by omega)
    have hsmall : ¬ 2048 ≤ bits / hiddenBit := by omega
    simpa [hneg, hsmall] using hupTo

/-- A double with a limit is not infinite. -/
theorem UpTo.isInf {s : Sign} {limit : Int} {x : Float} (hx : UpTo s limit x.toModel.unpack) :
    x.isInf = false := by
  obtain ⟨s', hx⟩ | ⟨m, e, hm, hx, -⟩ := hx.cases
  · exact congrArg UnpackedFloat.isInf hx
  · exact congrArg UnpackedFloat.isInf hx

/-- A number that is not very much larger than another can be divided by it. -/
theorem dividedBy_eq_ok {n : Int} {d k : Nat} (hd : d ≠ 0) (h : n.natAbs < 2 ^ k * d) (hk : k ≤ 1000) :
    dividedBy n d = .ok (quotient n d) := by
  unfold dividedBy
  dsimp only
  rw [(upTo_quotient hd h hk).isInf]
  rfl

end LeadFlow.Decimal
