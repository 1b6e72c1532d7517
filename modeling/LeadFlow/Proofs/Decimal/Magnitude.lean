import LeadFlow.Decimal.Rounding
import LeadFlow.Value.Arithmetic
import Mathlib

set_option autoImplicit false

/-!
# Decimal: how large doubles get

Sums and products of doubles that are neither negative nor large are so again, and can be rounded to a
whole number.  All that is known of a double here is a bound on its exponent: that it is far from the
largest one is enough to keep clear of infinity.

Main statements: `Moderate.add`, `Moderate.mul`, `Moderate.round`, `moderate_ofInt?`.
-/

namespace LeadFlow.Decimal

open Float.Model Float.Model.UnpackedFloat

/-- Taken apart, the double is zero, or has a sign and an exponent up to a limit. -/
def UpTo (s : Sign) (limit : Int) : UnpackedFloat → Prop
  | .zero _ => True
  | .finite s' _ e _ => s' = s ∧ e ≤ limit
  | _ => False

/-- The double is not negative, and its exponent is up to a limit. -/
def Moderate (limit : Int) (x : Float) : Prop := UpTo .positive limit x.toModel.unpack

/-! ## Bits -/

section Fields

variable (b : BitVec 64)

theorem toNat_unpackExponent :
    (@unpackExponent Format.binary64 b).toNat = b.toNat / hiddenBit % 2048 := by
  simp [unpackExponent, BitVec.extractLsb, BitVec.extractLsb', Nat.shiftRight_eq_div_pow, hiddenBit]

theorem toNat_unpackMantissa :
    (@unpackMantissa Format.binary64 b).toNat = b.toNat % hiddenBit := by
  simp [unpackMantissa, BitVec.extractLsb, BitVec.extractLsb', hiddenBit]

theorem toNat_unpackSign :
    (@unpackSign Format.binary64 b).toNat = b.toNat / hiddenBit / 2048 := by
  have hb := b.isLt
  simp [unpackSign, BitVec.extractLsb, BitVec.extractLsb', Nat.shiftRight_eq_div_pow, hiddenBit]
  omega

theorem toNat_packComponents (s : Sign) (e : BitVec 11) (m : BitVec 52) :
    (packComponents Format.binary64 s e m).toNat =
      s.toBitVec.toNat * 2048 * hiddenBit + e.toNat * hiddenBit + m.toNat := by
  simp only [packComponents, BitVec.toNat_append]
  rw [← Nat.shiftLeft_add_eq_or_of_lt m.isLt, ← Nat.shiftLeft_add_eq_or_of_lt e.isLt]
  simp only [Nat.shiftLeft_eq, hiddenBit]
  ring

end Fields

/-- The sign that a bit stands for. -/
def signOf (negative : Bool) : Sign := if negative then .negative else .positive

/-- What a double is by the fields of its bits, read as `Binary.ofFloat` reads them. -/
theorem unpack_eq (b : BitVec 64) : UnpackedFloat.unpack Format.binary64 b =
    let s := signOf (2048 ≤ b.toNat / hiddenBit)
    let field := b.toNat / hiddenBit % 2048
    let low := b.toNat % hiddenBit
    if field = 2047 then (if low = 0 then .infinity s else .notANumber)
    else if field = 0 then (if h : low = 0 then .zero s else .finite s low (-1074) (Nat.pos_of_ne_zero h))
    else .finite s (low + hiddenBit) ((field : Nat) - 1075) (Nat.add_pos_right _ (by decide)) := by
  have hfield := toNat_unpackExponent b
  have hlow := toNat_unpackMantissa b
  have hsign : Sign.ofBitVec (@unpackSign Format.binary64 b) =
      signOf (2048 ≤ b.toNat / hiddenBit) := by
    have hbit := toNat_unpackSign b
    unfold Sign.ofBitVec signOf
    by_cases h : 2048 ≤ b.toNat / hiddenBit
    · have hone : @unpackSign Format.binary64 b ≠ 0#1 := by
        intro hzero
        rw [hzero] at hbit
        have hnone : b.toNat / hiddenBit / 2048 = 0 := hbit.symm
        omega
      simp [h, hone]
    · have hzero : @unpackSign Format.binary64 b = 0#1 := by
        apply BitVec.eq_of_toNat_eq
        rw [hbit]
        exact Nat.div_eq_of_lt (by omega)
      simp [h, hzero]
  have hmost : @unpackExponent Format.binary64 b = -1#_ ↔ b.toNat / hiddenBit % 2048 = 2047 := by
    rw [← hfield]
    exact ⟨fun h => by rw [h]; rfl, fun h => BitVec.eq_of_toNat_eq (h.trans rfl)⟩
  have hleast : @unpackExponent Format.binary64 b = 0#_ ↔ b.toNat / hiddenBit % 2048 = 0 := by
    rw [← hfield]
    exact ⟨fun h => by rw [h]; rfl, fun h => BitVec.eq_of_toNat_eq (h.trans rfl)⟩
  have hnone : @unpackMantissa Format.binary64 b = 0#_ ↔ b.toNat % hiddenBit = 0 := by
    rw [← hlow]
    exact ⟨fun h => by rw [h]; rfl, fun h => BitVec.eq_of_toNat_eq (h.trans rfl)⟩
  have hwhole : (1#1 ++ @unpackMantissa Format.binary64 b).toNat =
      b.toNat % hiddenBit + hiddenBit := by
    rw [BitVec.toNat_append, ← Nat.shiftLeft_add_eq_or_of_lt (BitVec.isLt _), hlow, Nat.add_comm]
    rfl
  have hbias : (Format.binary64.exponentBias + Format.binary64.mantissaBitsWithoutImplicit : Int) = 1075 := rfl
  unfold UnpackedFloat.unpack
  dsimp only
  simp only [hmost, hleast, hnone, hsign, hwhole, hlow, hfield, hbias]
  split
  · rfl
  · split
    · rename_i hzero
      simp [hzero]
    · rfl

/-! ## Packing -/

/-- Components of a double that is not too large are found again. -/
theorem unpack_packComponents (s : Sign) (e : BitVec 11) (m : BitVec 52) (he : e.toNat ≠ 2047) :
    UnpackedFloat.unpack Format.binary64 (packComponents Format.binary64 s e m) =
      if e.toNat = 0 then
        (if h : m.toNat = 0 then .zero s else .finite s m.toNat (-1074) (Nat.pos_of_ne_zero h))
      else .finite s (m.toNat + hiddenBit) ((e.toNat : Nat) - 1075) (Nat.add_pos_right _ (by decide)) := by
  obtain ⟨high, hhigh⟩ : ∃ high, s.toBitVec.toNat * 2048 + e.toNat = high := ⟨_, rfl⟩
  have hbits : (packComponents Format.binary64 s e m).toNat = high * hiddenBit + m.toNat := by
    rw [toNat_packComponents, ← Nat.add_mul, hhigh]
  have hm : m.toNat < hiddenBit := m.isLt
  have he' : e.toNat < 2048 := e.isLt
  have hfield : (high * hiddenBit + m.toNat) / hiddenBit = high := by
    rw [Nat.mul_comm, Nat.mul_add_div (by decide), Nat.div_eq_of_lt hm, Nat.add_zero]
  have hlow : (high * hiddenBit + m.toNat) % hiddenBit = m.toNat := by
    rw [Nat.mul_comm, Nat.mul_add_mod, Nat.mod_eq_of_lt hm]
  have hsmall : high % 2048 = e.toNat := by omega
  have hsign : signOf (decide (2048 ≤ high)) = s := by
    cases s with
    | positive =>
      have hzero : Sign.positive.toBitVec.toNat = 0 := rfl
      have hlt : ¬ 2048 ≤ high := by omega
      simp [signOf, hlt]
    | negative =>
      have hone : Sign.negative.toBitVec.toNat = 1 := rfl
      have hle : 2048 ≤ high := by omega
      simp [signOf, hle]
  rw [unpack_eq]
  simp only [hbits, hfield, hlow, hsmall, hsign]
  simp [he]

theorem unpack_packedZero (s : Sign) :
    UnpackedFloat.unpack Format.binary64 (packedZero Format.binary64 s) = .zero s := by
  cases s <;> rfl

/-- The exponent field of a double that is packed. -/
def biased (e : Int) : Nat := (e + 1075).toNat

theorem toNat_biased {e : Int} (he : e ≤ 971) :
    (BitVec.ofNat 11 (biased e)).toNat = biased e ∧ biased e ≠ 2047 := by
  have hlt : biased e < 2047 := by
    unfold biased
    omega
  exact ⟨(BitVec.toNat_ofNat _ _).trans (Nat.mod_eq_of_lt (Nat.lt_succ_of_lt hlt)), hlt.ne⟩

/-- A finite double that is not too large is packed as such, and with all its bits if it has them. -/
theorem pack_eq (s : Sign) {m : Nat} {e : Int} (hm : 0 < m) (he : e ≤ 971) :
    UnpackedFloat.pack Format.binary64 (.finite s m e hm) =
      packComponents Format.binary64 s (if m.log2 = 52 then BitVec.ofNat 11 (biased e) else 0#11)
        (BitVec.ofNat 52 m) := by
  have hbiased : (e + Format.binary64.exponentBias + Format.binary64.mantissaBitsWithoutImplicit).toNat =
      biased e := by
    have hbias : Format.binary64.exponentBias = 1023 := rfl
    have hbits : Format.binary64.mantissaBitsWithoutImplicit = 52 := rfl
    rw [hbias, hbits]
    unfold biased
    omega
  have hfits : ¬ 2 ^ Format.binary64.exponentBits ≤ biased e + 1 := by
    have hfields : 2 ^ Format.binary64.exponentBits = 2048 := rfl
    rw [hfields]
    unfold biased
    omega
  have hwhole : m.log2 + 1 = Format.binary64.mantissaBits ↔ m.log2 = 52 := by
    have hbits : Format.binary64.mantissaBits = 53 := rfl
    rw [hbits]
    omega
  unfold UnpackedFloat.pack
  dsimp only
  rw [hbiased, if_neg hfits]
  simp only [hwhole]
  split <;> rfl

/-- An exponent that is not too large stays below its limit when the double is packed. -/
theorem UpTo.pack {s : Sign} {limit : Int} {u : UnpackedFloat} (hu : UpTo s limit u) (hleast : -1074 ≤ limit)
    (hmost : limit ≤ 971) : UpTo s limit (Float.Model.pack u).unpack := by
  change UpTo s limit (UnpackedFloat.unpack Format.binary64 (UnpackedFloat.pack Format.binary64 u))
  cases u with
  | infinity s => exact hu.elim
  | notANumber => exact hu.elim
  | zero s =>
    have hzero : UnpackedFloat.pack Format.binary64 (.zero s) = packedZero Format.binary64 s := rfl
    rw [hzero, unpack_packedZero]
    trivial
  | finite s m e hm =>
    obtain ⟨rfl, he⟩ := hu
    rw [pack_eq s hm (Int.le_trans he hmost)]
    split
    · obtain ⟨hbiased, hfinite⟩ := toNat_biased (Int.le_trans he hmost)
      rw [unpack_packComponents _ _ _ (by rwa [hbiased]), hbiased]
      split
      · split
        · trivial
        · exact ⟨rfl, hleast⟩
      · refine ⟨rfl, ?_⟩
        unfold biased
        omega
    · rw [unpack_packComponents _ _ _ (by decide)]
      split
      · split
        · trivial
        · exact ⟨rfl, hleast⟩
      · rename_i h
        exact absurd rfl h

/-- A double whose mantissa has all its bits is packed without loss. -/
theorem unpack_pack_normal {m : Nat} {e : Int} (hm : 0 < m) (hlog : m.log2 = 52) (hleast : -1074 ≤ e)
    (hmost : e ≤ 971) :
    (Float.Model.pack (.finite .positive m e hm)).unpack = .finite .positive m e hm := by
  change UnpackedFloat.unpack Format.binary64 (UnpackedFloat.pack Format.binary64 _) = _
  obtain ⟨hbiased, hfinite⟩ := toNat_biased hmost
  have hnormal : biased e ≠ 0 := by
    unfold biased
    omega
  obtain ⟨hlow, hhigh⟩ := (Nat.log2_eq_iff hm.ne').mp hlog
  have hmantissa : (BitVec.ofNat 52 m).toNat + hiddenBit = m := by
    rw [BitVec.toNat_ofNat]
    unfold hiddenBit
    omega
  rw [pack_eq _ _ hmost, if_pos hlog, unpack_packComponents _ _ _ (by rwa [hbiased]),
    if_neg (by rwa [hbiased])]
  simp only [hmantissa, hbiased, UnpackedFloat.finite.injEq, true_and]
  unfold biased
  omega

/-! ## Rounding -/

theorem mantissa_shiftRight (em : ExtendedMantissa) (k : Nat) :
    (em >>> k).mantissa = em.mantissa / 2 ^ k := by
  induction k with
  | zero => exact (Nat.div_one _).symm
  | succ k ih =>
    have hstep : (em >>> (k + 1)).mantissa = (em >>> k).mantissa / 2 := rfl
    rw [hstep, ih, Nat.div_div_eq_div_mul, Nat.pow_succ]

theorem roundedMantissa_le (em : ExtendedMantissa) : em.roundedMantissa ≤ em.mantissa + 1 := by
  obtain ⟨m, half, rest⟩ := em
  cases half <;> cases rest <;>
    simp [ExtendedMantissa.roundedMantissa, ExtendedMantissa.accuracy, Accuracy.roundToNearestEven]
  omega

theorem mantissa_ofMantissaAndAccuracy (m : Nat) (a : Accuracy) :
    (ExtendedMantissa.ofMantissaAndAccuracy m a).mantissa = m := by
  cases a with
  | exact => rfl
  | inexact o => cases o <;> rfl

/-- What is left of a mantissa when so many of its bits are dropped. -/
theorem div_lt_of_log2 {m k : Nat} (h : m.log2 ≤ 52 + k) : m / 2 ^ k < 2 ^ 53 := by
  rw [Nat.div_lt_iff_lt_mul (by positivity), ← Nat.pow_add]
  have hlog : m < 2 ^ (m.log2 + 1) := Nat.lt_log2_self
  exact lt_of_lt_of_le hlog (Nat.pow_le_pow_right (by decide) (by omega))

/-- Rounding raises the exponent by one at most, once it has dropped the bits that do not fit. -/
theorem upTo_roundWithAccuracy (s : Sign) {limit : Int} {m : Nat} {e : Int} (a : Accuracy) (he : e ≤ limit)
    (htotal : totalExponent m e ≤ limit + 53) (hleast : -1074 ≤ limit) :
    UpTo s (limit + 1) (roundWithAccuracy Format.binary64 s m e a) := by
  have htarget : ∀ t, Format.binary64.targetExponent t = max (t - 53) (-1074) := fun _ => rfl
  obtain ⟨⟨em, e₁⟩, hfirst⟩ : ∃ x, shiftToTargetExponent Format.binary64 m e a = x := ⟨_, rfl⟩
  have hshift : em.mantissa < 2 ^ 53 ∧ e₁ ≤ limit ∧ -1074 ≤ e₁ := by
    unfold shiftToTargetExponent shiftToExponent at hfirst
    simp only [htarget, Prod.mk.injEq] at hfirst
    obtain ⟨hem, he₁⟩ := hfirst
    rw [← hem, mantissa_shiftRight, mantissa_ofMantissaAndAccuracy]
    refine ⟨div_lt_of_log2 ?_, ?_, ?_⟩ <;> unfold totalExponent at * <;> omega
  have hrounded : em.roundedMantissa ≤ 2 ^ 53 := by
    have hle := roundedMantissa_le em
    omega
  have hlog : em.roundedMantissa.log2 ≤ 53 := by
    by_cases hzero : em.roundedMantissa = 0
    · simp [hzero]
    · have hlt := (Nat.log2_lt hzero).mpr (lt_of_le_of_lt hrounded (show 2 ^ 53 < 2 ^ 54 by decide))
      omega
  unfold roundWithAccuracy
  rw [hfirst]
  dsimp only
  split
  · trivial
  · refine ⟨rfl, ?_⟩
    unfold shiftToTargetExponent shiftToExponent
    simp only [htarget, totalExponent]
    omega

/-! ## Sums and products -/

theorem log2_lt_of_lt {m k : Nat} (h : m < 2 ^ k) (hk : 0 < k) : m.log2 < k := by
  by_cases hzero : m = 0
  · simpa [hzero] using hk
  · exact (Nat.log2_lt hzero).mpr h

/-- A number whose bits do not reach far beyond a limit is rounded to a double not far above it. -/
theorem upTo_normalize {limit : Int} {m : Nat} {e : Int} (hm : 0 < m) (he : e ≤ limit)
    (htotal : totalExponent m e ≤ limit + 54) (hleast : -1074 ≤ limit) :
    UpTo .positive (limit + 2) (UnpackedFloat.normalize Format.binary64 (m : Int) e .positive) := by
  obtain ⟨target, htarget⟩ : ∃ t, Format.binary64.targetExponent (totalExponent m e) = t := ⟨_, rfl⟩
  have hbound : target ≤ limit + 1 := by
    have heq : Format.binary64.targetExponent (totalExponent m e) =
      max (totalExponent m e - 53) (-1074) := rfl
    omega
  have hgreater : compare (m : Int) 0 = .gt := by
    rw [compare_gt_iff_gt]
    omega
  have hshifted : totalExponent (m <<< (e - target).toNat) (e - (e - target).toNat) ≤ limit + 1 + 53 := by
    have hlog : (m <<< (e - target).toNat).log2 < m.log2 + 1 + (e - target).toNat := by
      refine log2_lt_of_lt ?_ (by omega)
      rw [Nat.shiftLeft_eq, Nat.pow_add]
      exact Nat.mul_lt_mul_of_pos_right Nat.lt_log2_self (by positivity)
    unfold totalExponent at *
    omega
  unfold UnpackedFloat.normalize
  rw [hgreater]
  dsimp only
  unfold UnpackedFloat.round
  rw [Int.toNat_natCast, htarget]
  have hround := upTo_roundWithAccuracy .positive .exact (by omega) hshifted (by omega)
  rw [Int.add_assoc] at hround
  exact hround

/-- The mantissa of a double has 53 bits, and its exponent is not below the least one. -/
theorem lt_of_unpack_eq {b : BitVec 64} {s : Sign} {m : Nat} {e : Int} {hm : 0 < m}
    (h : UnpackedFloat.unpack Format.binary64 b = .finite s m e hm) : m < 2 ^ 53 ∧ -1074 ≤ e := by
  have hlow : b.toNat % hiddenBit < hiddenBit := Nat.mod_lt _ (by decide)
  rw [unpack_eq] at h
  dsimp only at h
  unfold hiddenBit at *
  split at h
  · split at h <;> cases h
  · split at h
    · split at h
      · cases h
      · cases h
        omega
    · cases h
      omega

namespace UpTo

variable {limit : Int} {s : Sign} {x y : Float}

theorem cases (h : UpTo s limit x.toModel.unpack) : (∃ s', x.toModel.unpack = .zero s') ∨
    ∃ m e hm, x.toModel.unpack = .finite s m e hm ∧ m < 2 ^ 53 ∧ -1074 ≤ e ∧ e ≤ limit := by
  cases hx : x.toModel.unpack with
  | zero s' => exact .inl ⟨s', rfl⟩
  | infinity s' =>
    rw [hx] at h
    exact h.elim
  | notANumber =>
    rw [hx] at h
    exact h.elim
  | finite s' m e hm =>
    rw [hx] at h
    obtain ⟨rfl, he⟩ := h
    obtain ⟨hmantissa, hleast⟩ := lt_of_unpack_eq hx
    exact .inr ⟨m, e, hm, rfl, hmantissa, hleast, he⟩

/-- Exponents of a product add up; half of the bits of the two mantissas are dropped. -/
theorem mul {s' : Sign} {a b : Int} (hx : UpTo s a x.toModel.unpack) (hy : UpTo s' b y.toModel.unpack)
    (hlimit : a + b + 54 ≤ limit) (hleast : -1074 < limit) (hmost : limit ≤ 971) :
    UpTo (s * s') limit (x * y).toModel.unpack := by
  refine UpTo.pack ?_ (by omega) hmost
  obtain ⟨t, hx⟩ | ⟨m, e, hm, hx, hmx, -, hex⟩ := hx.cases <;>
    obtain ⟨t', hy⟩ | ⟨m', e', hm', hy, hmy, -, hey⟩ := hy.cases <;> rw [hx, hy]
  · trivial
  · trivial
  · trivial
  · have hproduct : m * m' < 2 ^ 106 := by
      calc m * m' < 2 ^ 53 * 2 ^ 53 := Nat.mul_lt_mul'' hmx hmy
        _ = 2 ^ 106 := rfl
    have hlog := log2_lt_of_lt hproduct (by decide)
    have htotal : totalExponent (m * m') (e + e') ≤ limit - 1 + 53 := by
      unfold totalExponent
      omega
    have hround : UpTo (s * s') (limit - 1 + 1)
        (roundWithAccuracy Format.binary64 (s * s') (m * m') (e + e') .exact) :=
      upTo_roundWithAccuracy _ .exact (by omega) htotal (by omega)
    rwa [Int.sub_add_cancel] at hround

end UpTo

namespace Moderate

variable {limit : Int} {x y : Float}

theorem mono {limit' : Int} (hx : Moderate limit x) (h : limit ≤ limit') : Moderate limit' x := by
  unfold Moderate
  obtain ⟨s, hzero⟩ | ⟨m, e, hm, hfinite, -, -, he⟩ := hx.cases
  · rw [hzero]
    trivial
  · rw [hfinite]
    exact ⟨rfl, Int.le_trans he h⟩

theorem mul {a b : Int} (hx : Moderate a x) (hy : Moderate b y) (hlimit : a + b + 54 ≤ limit)
    (hleast : -1074 < limit) (hmost : limit ≤ 971) : Moderate limit (x * y) :=
  UpTo.mul hx hy hlimit hleast hmost

/-- A sum of doubles with exponents up to a limit is not far above it. -/
theorem add (hx : Moderate limit x) (hy : Moderate limit y) (hleast : -1074 ≤ limit)
    (hmost : limit ≤ 969) : Moderate (limit + 2) (x + y) := by
  refine UpTo.pack ?_ (by omega) (by omega)
  obtain ⟨s, hx⟩ | ⟨m, e, hm, hx, hmx, -, hex⟩ := hx.cases <;>
    obtain ⟨s', hy⟩ | ⟨m', e', hm', hy, hmy, -, hey⟩ := hy.cases <;> rw [hx, hy]
  · cases s <;> cases s' <;> trivial
  · exact ⟨rfl, by omega⟩
  · exact ⟨rfl, by omega⟩
  · -- both mantissas are brought to the smaller exponent first
    obtain ⟨low, hlow⟩ : ∃ low, min e e' = low := ⟨_, rfl⟩
    have hshifted : ∀ {m : Nat} {e : Int}, m < 2 ^ 53 → low ≤ e → e ≤ limit →
        m <<< (e - low).toNat < 2 ^ (53 + (limit - low).toNat) := by
      intro m e hm hlow he
      rw [Nat.shiftLeft_eq]
      calc m * 2 ^ (e - low).toNat < 2 ^ 53 * 2 ^ (e - low).toNat :=
            Nat.mul_lt_mul_of_pos_right hm (by positivity)
        _ = 2 ^ (53 + (e - low).toNat) := (Nat.pow_add ..).symm
        _ ≤ 2 ^ (53 + (limit - low).toNat) := Nat.pow_le_pow_right (by decide) (by omega)
    have hsum : m <<< (e - low).toNat + m' <<< (e' - low).toNat < 2 ^ (54 + (limit - low).toNat) := by
      have hm := hshifted hmx (by omega) hex
      have hm' := hshifted hmy (by omega) hey
      have hdouble : 2 ^ (54 + (limit - low).toNat) = 2 * 2 ^ (53 + (limit - low).toNat) := by ring
      omega
    have hpositive : 0 < m <<< (e - low).toNat + m' <<< (e' - low).toNat := by
      rw [Nat.shiftLeft_eq]
      positivity
    have htotal : totalExponent (m <<< (e - low).toNat + m' <<< (e' - low).toNat) low ≤ limit + 54 := by
      have hlog := log2_lt_of_lt hsum (by omega)
      unfold totalExponent
      omega
    unfold UnpackedFloat.add
    dsimp only
    rw [hlow]
    exact upTo_normalize hpositive (by omega) htotal hleast

end Moderate

/-! ## Whole numbers -/

/-- A double with a limit is finite, and if it is not zero it has the sign and an exponent up to the limit. -/
theorem UpTo.binary {s : Sign} {limit : Int} {x : Float} (hx : UpTo s limit x.toModel.unpack) :
    ∃ m e, (Binary.ofFloat x).size = .finite m e ∧ m < 2 ^ 53 ∧
      (m = 0 ∨ signOf (Binary.ofFloat x).negative = s ∧ e ≤ limit) := by
  have hbits : x.toBits.toNat = x.toModel.toBits.toBitVec.toNat := rfl
  have hunpack : x.toModel.unpack = UnpackedFloat.unpack Format.binary64 x.toModel.toBits.toBitVec := rfl
  rw [unpack_eq, ← hbits] at hunpack
  rw [hunpack] at hx
  have hlow : x.toBits.toNat % hiddenBit < hiddenBit := Nat.mod_lt _ (by decide)
  unfold Binary.ofFloat
  dsimp only at hx ⊢
  split
  · rename_i hfield
    rw [if_pos hfield] at hx
    split at hx <;> exact hx.elim
  · rename_i hfield
    rw [if_neg hfield] at hx
    split
    · rename_i hzero
      rw [if_pos hzero] at hx
      refine ⟨_, _, rfl, by unfold hiddenBit at *; omega, ?_⟩
      split at hx
      · exact .inl ‹_›
      · exact .inr hx
    · rename_i hzero
      rw [if_neg hzero] at hx
      exact ⟨_, _, rfl, by unfold hiddenBit at *; omega, .inr hx⟩

theorem roundDiv_le (n d : Nat) : roundDiv n d ≤ n / d + 1 := by
  unfold roundDiv
  dsimp only
  split <;> omega

theorem le_roundDiv (n d : Nat) : n / d ≤ roundDiv n d := by
  unfold roundDiv
  dsimp only
  split <;> omega

theorem roundDiv_zero (d : Nat) : roundDiv 0 d = 0 := by
  simp [roundDiv]

/-- By a rule for fractions that goes up to the next whole number at most, a double with a limit has a whole
number, which is not negative if the double is not. -/
theorem UpTo.wholeBy {s : Sign} {limit : Int} {x : Float} (hx : UpTo s limit x.toModel.unpack)
    {rule : Nat → Nat → Nat} (hzero : ∀ d, rule 0 d = 0) (hrule : ∀ n d, rule n d ≤ n / d + 1) :
    ∃ i, wholeBy rule x = .ok i ∧ i.natAbs < 2 ^ (54 + limit.toNat) ∧ (s = .positive → 0 ≤ i) := by
  obtain ⟨m, e, hsize, hm, hsign⟩ := hx.binary
  obtain ⟨⟨n, d⟩, hratio⟩ : ∃ r, (Size.finite m e).ratio? = some r := ⟨_, rfl⟩
  have hpair : (if 0 ≤ e then (m * 2 ^ e.toNat, 1) else (m, 2 ^ (-e).toNat)) = (n, d) :=
    Option.some.inj hratio
  have hbound : n < 2 ^ (53 + limit.toNat) ∧ (m = 0 → n = 0) := by
    split at hpair <;> cases hpair
    · refine ⟨?_, fun hnone => by simp [hnone]⟩
      obtain rfl | ⟨-, he⟩ := hsign
      · rw [Nat.zero_mul]
        positivity
      · rw [Nat.pow_add]
        exact Nat.mul_lt_mul_of_lt_of_le hm (Nat.pow_le_pow_right (by decide) (by omega)) (by positivity)
    · exact ⟨hm.trans_le (Nat.pow_le_pow_right (by decide) (by omega)), id⟩
  obtain ⟨hn, hnone⟩ := hbound
  have hwhole : Decimal.wholeBy rule x = .ok (signed (Binary.ofFloat x).negative (rule n d)) := by
    unfold Decimal.wholeBy
    dsimp only
    rw [hsize]
    dsimp only
    rw [hratio]
    rfl
  have hsize : (signed (Binary.ofFloat x).negative (rule n d)).natAbs = rule n d := by
    unfold signed
    split <;> omega
  refine ⟨_, hwhole, ?_, fun hpositive => ?_⟩
  · have hdouble : 2 ^ (54 + limit.toNat) = 2 * 2 ^ (53 + limit.toNat) := by ring
    have hle := hrule n d
    have hdiv := Nat.div_le_self n d
    omega
  · obtain hm | ⟨hsame, -⟩ := hsign
    · rw [hnone hm, hzero]
      unfold signed
      split <;> decide
    · subst hpositive
      cases hneg : (Binary.ofFloat x).negative with
      | true =>
        rw [hneg] at hsame
        cases hsame
      | false => exact Int.natCast_nonneg _

/-- A moderate double has a nearest whole number, which is not negative. -/
theorem Moderate.round {limit : Int} {x : Float} (hx : Moderate limit x) :
    ∃ n : Nat, Decimal.round x = .ok n ∧ n < 2 ^ (54 + limit.toNat) := by
  obtain ⟨i, hround, hmost, hleast⟩ := UpTo.wholeBy hx roundDiv_zero roundDiv_le
  obtain ⟨n, rfl⟩ := Int.eq_ofNat_of_zero_le (hleast rfl)
  exact ⟨n, hround, hmost⟩

/-- Scaled by the exponent of its leading bit, a whole number has 53 bits in front of the point. -/
theorem scale_log2 {n : Nat} (hn : n ≠ 0) : ∃ a b, scale n 1 ((n.log2 : Int) - 52) = (a, b) ∧
    b * hiddenBit ≤ a ∧ a < b * (2 * hiddenBit) := by
  have hlow : 2 ^ n.log2 ≤ n := Nat.log2_self_le hn
  have hhigh : n < 2 ^ (n.log2 + 1) := Nat.lt_log2_self
  have hbit : hiddenBit = 2 ^ 52 := rfl
  unfold scale
  by_cases h : (0 : Int) ≤ (n.log2 : Int) - 52
  · obtain ⟨k, hk⟩ : ∃ k, n.log2 = k + 52 := ⟨n.log2 - 52, by omega⟩
    have hexponent : ((n.log2 : Int) - 52).toNat = k := by omega
    rw [if_pos h, hexponent, Nat.pow_eq]
    refine ⟨_, _, rfl, ?_, ?_⟩
    · rw [hbit, Nat.one_mul, ← Nat.pow_add, ← hk]
      exact hlow
    · rw [hbit, Nat.one_mul, ← Nat.pow_succ', ← Nat.pow_add]
      rw [hk] at hhigh
      exact hhigh
  · obtain ⟨k, hk⟩ : ∃ k, n.log2 + k = 52 := ⟨52 - n.log2, by omega⟩
    have hexponent : (-((n.log2 : Int) - 52)).toNat = k := by omega
    rw [if_neg h, hexponent, Nat.pow_eq]
    refine ⟨_, _, rfl, ?_, ?_⟩
    · rw [hbit, Nat.one_mul, ← hk, Nat.pow_add]
      exact Nat.mul_le_mul_right _ hlow
    · have hsum : 2 * hiddenBit = 2 ^ (n.log2 + 1) * 2 ^ k := by
        rw [hbit, ← hk]
        ring
      rw [Nat.one_mul, hsum]
      exact Nat.mul_lt_mul_of_pos_right hhigh (by positivity)

/-- The bits of a fraction that has been scaled. -/
theorem bitsOfRatio_eq {num den a b : Nat} {e : Int} (hnum : num ≠ 0) (he : exponentFor num den = e)
    (hscale : scale num den e = (a, b)) :
    bitsOfRatio num den = min ((e + 1074).toNat * hiddenBit + roundDiv a b) (2047 * hiddenBit) := by
  unfold bitsOfRatio
  rw [if_neg hnum]
  -- the largest bits would be evaluated
  generalize 2047 * hiddenBit = most
  rw [he]
  extract_lets e'
  rw [hscale]

/-- The bits of the double nearest to a whole number: 53 bits of it, and an exponent. -/
theorem bitsOfRatio_whole {n : Nat} (hn : n ≠ 0) (hlog : n.log2 < 1000) :
    ∃ q, hiddenBit ≤ q ∧ q ≤ 2 * hiddenBit ∧ bitsOfRatio n 1 = (n.log2 + 1022) * hiddenBit + q := by
  obtain ⟨a, b, hscale, hlow, hhigh⟩ := scale_log2 hn
  have hb : 0 < b := by
    by_contra hzero
    simp only [Nat.not_lt, Nat.le_zero] at hzero
    simp [hzero] at hhigh
  have hexponent : exponentFor n 1 = (n.log2 : Int) - 52 := by
    have hone : ((1 : Nat).log2 : Int) = 0 := rfl
    unfold exponentFor
    rw [hone, Int.sub_zero]
    dsimp only
    rw [hscale]
    dsimp only
    rw [if_neg (by omega)]
    omega
  have hleast : hiddenBit ≤ roundDiv a b :=
    ((Nat.le_div_iff_mul_le hb).mpr (by rwa [Nat.mul_comm])).trans (le_roundDiv a b)
  have hmost : roundDiv a b ≤ 2 * hiddenBit := by
    have hdiv : a / b < 2 * hiddenBit := (Nat.div_lt_iff_lt_mul hb).mpr (by rwa [Nat.mul_comm])
    exact (roundDiv_le a b).trans hdiv
  refine ⟨roundDiv a b, hleast, hmost, ?_⟩
  have hfield : ((n.log2 : Int) - 52 + 1074).toNat = n.log2 + 1022 := by omega
  have hfinite : (n.log2 + 1022) * hiddenBit + roundDiv a b ≤ 2047 * hiddenBit := by
    calc (n.log2 + 1022) * hiddenBit + roundDiv a b
        ≤ 2022 * hiddenBit + 2 * hiddenBit := Nat.add_le_add (Nat.mul_le_mul_right _ (by omega)) hmost
      _ = (2022 + 2) * hiddenBit := (Nat.add_mul ..).symm
      _ ≤ 2047 * hiddenBit := Nat.mul_le_mul_right _ (by decide)
  rw [bitsOfRatio_eq hn hexponent hscale, hfield, Nat.min_eq_left hfinite]

/-- Bits of a positive double with all bits of its mantissa that is not infinite. -/
theorem unpack_ofBits_normal {bits : Nat} (hleast : hiddenBit ≤ bits) (hmost : bits < 2047 * hiddenBit) :
    (Float.ofBits bits.toUInt64).toModel.unpack = .finite .positive (bits % hiddenBit + hiddenBit)
      ((bits / hiddenBit : Nat) - 1075) (Nat.add_pos_right _ (by decide)) := by
  have hbits : bits.toUInt64.toBitVec.toNat = bits := by
    have hfits : bits < 2 ^ 64 := by
      unfold hiddenBit at hmost
      omega
    exact Nat.mod_eq_of_lt hfits
  have hfield : 1 ≤ bits / hiddenBit ∧ bits / hiddenBit < 2047 :=
    ⟨(Nat.one_le_div_iff (by decide)).mpr hleast, (Nat.div_lt_iff_lt_mul (by decide)).mpr hmost⟩
  have hsmall : bits / hiddenBit % 2048 = bits / hiddenBit := Nat.mod_eq_of_lt (by omega)
  have hpositive : decide (2048 ≤ bits / hiddenBit) = false := by
    simp only [decide_eq_false_iff_not]
    omega
  have hunpack : UnpackedFloat.unpack Format.binary64 bits.toUInt64.toBitVec =
      .finite .positive (bits % hiddenBit + hiddenBit) ((bits / hiddenBit : Nat) - 1075)
        (Nat.add_pos_right _ (by decide)) := by
    rw [unpack_eq]
    simp only [hbits, hsmall, hpositive, signOf]
    rw [if_neg (by omega), if_neg (by omega)]
    rfl
  have hmantissa : (bits % hiddenBit + hiddenBit).log2 = 52 := by
    have hlow : bits % hiddenBit < hiddenBit := Nat.mod_lt _ (by decide)
    rw [Nat.log2_eq_iff (Nat.add_pos_right _ (by decide)).ne']
    unfold hiddenBit at *
    omega
  change (Float.Model.pack (UnpackedFloat.unpack Format.binary64 bits.toUInt64.toBitVec)).unpack = _
  rw [hunpack]
  exact unpack_pack_normal _ hmantissa (by omega) (by omega)

/-- The double nearest to a whole number that is not too large.  It is zero for zero only. -/
theorem moderate_ofInt? {n k : Nat} (h : n < 2 ^ k) (hk : k ≤ 1000) :
    ∃ x, ofInt? n = some x ∧ Moderate (k - 52) x ∧ (n ≠ 0 → ∀ s, x.toModel.unpack ≠ .zero s) := by
  obtain ⟨x, hx⟩ : ∃ x, Float.ofBits (bitsOfRatio n 1).toUInt64 = x := ⟨_, rfl⟩
  have hofInt : ofInt? n = if x.isInf then none else some x := by
    rw [← hx]
    rfl
  by_cases hn : n = 0
  · subst hn
    have hzero : x.toModel.unpack = .zero .positive := by
      rw [← hx]
      rfl
    have hfinite : x.isInf = false := congrArg UnpackedFloat.isInf hzero
    rw [hofInt, hfinite]
    refine ⟨x, rfl, ?_, fun h => absurd rfl h⟩
    unfold Moderate
    rw [hzero]
    trivial
  · have hlog : n.log2 < k := (Nat.log2_lt hn).mpr h
    obtain ⟨q, hleast, hmost, hbits⟩ := bitsOfRatio_whole hn (by omega)
    have hnormal : hiddenBit ≤ bitsOfRatio n 1 ∧ bitsOfRatio n 1 < 2047 * hiddenBit ∧
        bitsOfRatio n 1 / hiddenBit ≤ n.log2 + 1024 := by
      rw [hbits]
      unfold hiddenBit at *
      omega
    obtain ⟨hleast, hmost, hfield⟩ := hnormal
    have hunpack := unpack_ofBits_normal hleast hmost
    rw [hx] at hunpack
    have hfinite : x.isInf = false := congrArg UnpackedFloat.isInf hunpack
    rw [hofInt, hfinite]
    refine ⟨x, rfl, ?_, fun _ s hs => ?_⟩
    · unfold Moderate
      rw [hunpack]
      exact ⟨rfl, by omega⟩
    · rw [hunpack] at hs
      cases hs

/-! ## Order -/

theorem unpack_zero : (0 : Float).toModel.unpack = .zero .positive := rfl

theorem le_iff {x y : Float} : x ≤ y ↔ x.toModel.unpack.le y.toModel.unpack = true :=
  decide_eq_true_iff

theorem lt_iff {x y : Float} : x < y ↔ x.toModel.unpack.lt y.toModel.unpack = true :=
  decide_eq_true_iff

/-- A moderate double is not negative. -/
theorem Moderate.nonneg {limit : Int} {x : Float} (hx : Moderate limit x) : 0 ≤ x := by
  rw [le_iff, unpack_zero]
  obtain ⟨s, hx⟩ | ⟨m, e, hm, hx, -⟩ := hx.cases <;> rw [hx] <;> rfl

/-- A double that is not negative and below two to the power of 53 is moderate. -/
theorem moderate_of_lt {x : Float} (hleast : 0 ≤ x) (hmost : x < 9007199254740992) : Moderate 1 x := by
  have hbound : (9007199254740992 : Float).toModel.unpack = .finite .positive hiddenBit 1 (by decide) := by
    rfl
  rw [le_iff, unpack_zero] at hleast
  rw [lt_iff, hbound] at hmost
  unfold Moderate
  cases hx : x.toModel.unpack with
  | zero s => trivial
  | notANumber =>
    rw [hx] at hleast
    cases hleast
  | infinity s =>
    rw [hx] at hleast hmost
    cases s
    · cases hleast
    · cases hmost
  | finite s m e hm =>
    rw [hx] at hleast hmost
    cases s with
    | negative => cases hleast
    | positive =>
      have hless : ((compare e 1).then (compare m hiddenBit)) = .lt := by
        simpa [UnpackedFloat.lt, UnpackedFloat.compare] using hmost
      cases horder : compare e 1 with
      | lt => exact ⟨rfl, (compare_lt_iff_lt.mp horder).le⟩
      | eq => exact ⟨rfl, (compare_eq_iff_eq.mp horder).le⟩
      | gt =>
        rw [horder] at hless
        cases hless

/-- Only a zero is equal to zero. -/
theorem beq_zero {x : Float} (hx : ∀ s, x.toModel.unpack ≠ .zero s) : (x == 0) = false := by
  have hbeq : (x == 0) = (x.toModel.unpack.compare (.zero .positive) == some .eq) := rfl
  rw [hbeq]
  cases h : x.toModel.unpack with
  | zero s => exact absurd h (hx s)
  | notANumber => rfl
  | infinity s => cases s <;> rfl
  | finite s m e hm => cases s <;> rfl

end LeadFlow.Decimal
