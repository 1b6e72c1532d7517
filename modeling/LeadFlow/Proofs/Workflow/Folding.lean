import LeadFlow.Proofs.Decimal.Magnitude
import LeadFlow.Proofs.Decode.Checked
import LeadFlow.Proofs.Value.Edited
import LeadFlow.Settings
import LeadFlow.Storage.Workflows
import LeadFlow.Workflow.Accumulate

set_option autoImplicit false

/-!
# Workflow: folding runs into the statistics

Runs are counted in full.  As long as the numbers stay where whole numbers are exact, folding has no
fault, and what comes out can be stored, read back, and folded into again; and it is told apart from
what was stored before.

Main statements: `leadsProcessed_of_accumulate`, `accumulate_ok`, `same_stored`.
-/

namespace LeadFlow

open Decimal

/-! ## Doubles of counts -/

/-- A count has a double, which is zero for zero only. -/
theorem doubleOf_count {n k : Nat} (h : n < 2 ^ k) (hk : k ≤ 1000) :
    ∃ x, doubleOf n = .ok x ∧ Moderate (k - 52) x ∧ (n ≠ 0 → (x == 0) = false) := by
  obtain ⟨x, hx, hmoderate, hzero⟩ := moderate_ofInt? h hk
  refine ⟨x, ?_, hmoderate, fun hn => beq_zero (hzero hn)⟩
  unfold doubleOf
  rw [hx]

/-- The hours that a lead saves by default. -/
theorem moderate_hours : Moderate (-51) Settings.default.hoursPerRecord := by
  have hunpack : Settings.default.hoursPerRecord.toModel.unpack =
      .finite .positive 4953959590107546 (-51) (by decide) := by rfl
  unfold Moderate
  rw [hunpack]
  exact ⟨rfl, Int.le_refl _⟩

/-- What so many leads save by default. -/
theorem saving_default {n : Nat} (h : n < 2 ^ 53) :
    ∃ x, Stats.saving (.float Settings.default.hoursPerRecord) n = .ok x ∧ Moderate 4 x := by
  obtain ⟨x, hx, hmoderate, -⟩ := doubleOf_count h (by decide)
  refine ⟨x * Settings.default.hoursPerRecord, ?_, hmoderate.mul moderate_hours ?_ ?_ ?_⟩
  · unfold Stats.saving Num.mul Num.combine Num.toFloat
    dsimp only
    rw [hx]
    rfl
  all_goals decide

namespace Stats

variable {s : Stats} {statuses : List RunStatus}

/-! ## Folding -/

/-- There is a rate after a batch, whatever it was before. -/
theorem rateAfter_ok {processed : Int} (rate : Float) {batch successes : Nat} (hprocessed : 0 ≤ processed)
    (hsum : processed + batch < 2 ^ 53) (hbatch : batch ≠ 0) (hsuccesses : successes ≤ batch) :
    ∃ after, StatsOf.rateAfter processed rate batch successes = .ok after := by
  obtain ⟨leads, rfl⟩ := Int.eq_ofNat_of_zero_le hprocessed
  have hleads : leads + batch < 2 ^ 53 := by exact_mod_cast hsum
  obtain ⟨hundred, hhundred, -, hne⟩ := doubleOf_count (show 100 < 2 ^ 7 by decide) (by decide)
  obtain ⟨x, hx, -⟩ := doubleOf_count (show leads < 2 ^ 53 by omega) (by decide)
  obtain ⟨y, hy, -⟩ := doubleOf_count (show successes < 2 ^ 53 by omega) (by decide)
  obtain ⟨z, hz, -, hzne⟩ := doubleOf_count hleads (by decide)
  have hdiv : ∀ a b : Float, (b == 0) = false → StatsArithmetic.div a b = .ok (a / b) := by
    intro a b hb
    exact if_neg (by simp [hb])
  have hcast : ((leads + batch : Nat) : Int) = (leads : Int) + batch := rfl
  rw [hcast] at hz
  refine ⟨StatsArithmetic.roundTenth ((x * (rate / hundred) + y) / z * hundred), ?_⟩
  unfold StatsOf.rateAfter
  change (do
    let hundred ← doubleOf (100 : Nat)
    let converted := (← doubleOf leads) * (← StatsArithmetic.div rate hundred) + (← doubleOf successes)
    return StatsArithmetic.roundTenth
      ((← StatsArithmetic.div converted (← doubleOf (leads + batch))) * hundred)) = Except.ok _
  rw [hhundred, hx, hy, hz]
  simp only [bind, Except.bind, hdiv _ _ (hne (by decide)), hdiv _ _ (hzne (by omega))]
  rfl

/-- The hours saved stay a number that is not negative. -/
theorem hoursAfter_ok {hours : Float} {batch : Nat} (hhours : 0 ≤ hours)
    (hmost : hours < 9007199254740992) (hbatch : batch < 2 ^ 53) :
    ∃ after, StatsOf.hoursAfter hours (saving (.float Settings.default.hoursPerRecord)) batch = .ok after ∧
      0 ≤ after := by
  obtain ⟨saved, hsaved, hmoderate⟩ := saving_default hbatch
  have hsum : Moderate 6 (hours + saved) :=
    ((moderate_of_lt hhours hmost).mono (by decide)).add hmoderate (by decide) (by decide)
  obtain ⟨n, hn, hbound⟩ := hsum.round
  obtain ⟨after, hafter, hpositive, -⟩ := doubleOf_count hbound (by decide)
  refine ⟨after, ?_, hpositive.nonneg⟩
  unfold StatsOf.hoursAfter
  rw [hsaved]
  change (do doubleOf (← roundWhole (hours + saved))) = Except.ok after
  unfold roundWhole
  rw [hn]
  exact hafter

/-- Whatever comes of the other figures, every run is counted. -/
theorem leadsProcessed_of_accumulate {after : Stats} {saving : Nat → Outcome Float}
    (h : s.accumulate statuses saving = .ok after) :
    after.leadsProcessed = s.leadsProcessed + statuses.length := by
  unfold StatsOf.accumulate at h
  split at h
  · rename_i hempty
    cases h
    simp [List.isEmpty_iff.mp hempty]
  · cases hrate : StatsOf.rateAfter s.leadsProcessed s.conversionRate statuses.length
        (statuses.count .success) with
    | error f =>
      rw [hrate] at h
      cases h
    | ok rate =>
      rw [hrate] at h
      cases hhours : StatsOf.hoursAfter s.timeSavedHrs saving statuses.length with
      | error f =>
        rw [hhours] at h
        cases h
      | ok hours =>
        rw [hhours] at h
        cases h
        rfl

/-- As long as the figures are where whole numbers are exact, runs can be folded, and the hours do not
become negative. -/
theorem accumulate_ok (hprocessed : 0 ≤ s.leadsProcessed)
    (hsum : s.leadsProcessed + statuses.length < 2 ^ 53) (hhours : 0 ≤ s.timeSavedHrs)
    (hmost : s.timeSavedHrs < 9007199254740992) :
    ∃ after, s.accumulate statuses (saving (.float Settings.default.hoursPerRecord)) = .ok after ∧
      0 ≤ after.timeSavedHrs := by
  cases statuses with
  | nil => exact ⟨s, rfl, hhours⟩
  | cons status rest =>
    obtain ⟨rate, hrate⟩ := rateAfter_ok s.conversionRate hprocessed hsum (by simp)
      (List.count_le_length (a := .success))
    have hbatch : (status :: rest).length < 2 ^ 53 := by omega
    obtain ⟨hours, hhours, hpositive⟩ := hoursAfter_ok hhours hmost hbatch
    refine ⟨⟨s.leadsProcessed + (status :: rest).length, rate, hours, s.roi⟩, ?_, hpositive⟩
    unfold StatsOf.accumulate
    rw [if_neg (by simp), hrate, hhours]
    rfl

/-! ## Storing -/

/-- What is stored is read back as it was. -/
theorem decode_stored (s : Stats) : decode (.object s.stored) = .ok s := rfl

/-- A whole number that is equal to a double is what the double is cut off to. -/
theorem truncate_of_same {n m : Int} {x : Float} (hsame : (Num.int n).same (.float x) = true)
    (hx : Decimal.truncate x = .ok m) : m = n := by
  unfold Decimal.truncate wholeBy at hx
  unfold Num.same Num.le Num.exact ratio? at hsame
  dsimp only at hx hsame
  split at hx
  · cases hx
  · cases hx
  · rename_i mantissa e hsize
    obtain ⟨⟨a, d⟩, hratio, hpositive⟩ : ∃ r, (Size.finite mantissa e).ratio? = some r ∧ 0 < r.2 := by
      refine ⟨_, rfl, ?_⟩
      split
      · exact Nat.one_pos
      · exact Nat.two_pow_pos _
    rw [hsize, hratio] at hsame
    rw [hratio] at hx
    have hx : signed (Binary.ofFloat x).negative (a / d) = m := Except.ok.inj hx
    simp only [Option.map_some, Bool.and_eq_true, decide_eq_true_eq] at hsame
    have hwhole : n * d = if (Binary.ofFloat x).negative then -(a : Int) else a := by omega
    have hne : (d : Int) ≠ 0 := by
      have hd : 0 < d := hpositive
      omega
    rw [← hx, signed, Int.natCast_ediv]
    split <;> rename_i hsign
    · rw [if_pos hsign] at hwhole
      rw [show (a : Int) = -n * d by rw [Int.neg_mul]; omega, Int.mul_ediv_cancel _ hne, Int.neg_neg]
    · rw [if_neg hsign] at hwhole
      rw [← hwhole, Int.mul_ediv_cancel _ hne]

/-- A value that is equal to a whole number is decoded as that number, if it is decoded at all. -/
theorem whole_of_same {n m : Int} {w : Value} (hsame : (Value.int n).same w = true)
    (hw : Decode.whole w = .ok m) : m = n := by
  rw [Value.same] at hsame
  unfold Value.sameNum at hsame
  have hint : ∀ k, (Num.int n).same (.int k) = true → k = n := by
    intro k hk
    simp only [Num.same, Num.le, Num.exact, Bool.and_eq_true, decide_eq_true_eq] at hk
    omega
  cases w with
  | int k =>
    cases hw
    exact hint _ hsame
  | bool b =>
    cases hw
    exact hint _ hsame
  | float x =>
    unfold Decode.whole at hw
    dsimp only at hw
    split at hw
    · cases hw
    · rename_i k hk
      split at hw
      · cases hw
      · split at hw
        · cases hw
        · cases hw
          exact truncate_of_same hsame hk
  | _ => cases hsame

/-- Statistics count as equal to what was stored only if they count as many leads. -/
theorem same_stored {before after : Stats} {v : Value}
    (hbefore : decode (Storage.valueOr (.object []) v) = .ok before)
    (hsame : (Value.object after.stored).same v = true) :
    after.leadsProcessed = before.leadsProcessed := by
  cases v with
  | object gs =>
    rw [Value.same, Bool.and_eq_true] at hsame
    obtain ⟨w, hw, hcount⟩ := Value.same_of_sameFields hsame.2
      (show Fields.get? after.stored "leadsProcessed" = some (.int after.leadsProcessed) from rfl)
    have htruthy : (Value.object gs).isTruthy = true := by
      cases gs with
      | nil => cases hw
      | cons f rest => rfl
    rw [Storage.valueOr, if_pos htruthy] at hbefore
    obtain ⟨g₃, roi, h₃, -, rfl⟩ := Decode.Checked.seq_eq_ok hbefore
    obtain ⟨g₂, hours, h₂, -, rfl⟩ := Decode.Checked.seq_eq_ok h₃
    obtain ⟨g₁, rate, h₁, -, rfl⟩ := Decode.Checked.seq_eq_ok h₂
    unfold Decode.defaulted Fields.first? at h₁
    rw [hw] at h₁
    dsimp only at h₁
    obtain ⟨o, ho⟩ : ∃ o, Decode.whole w = o := ⟨_, rfl⟩
    rw [ho] at h₁
    cases o with
    | ok m =>
      cases h₁
      exact (whole_of_same hcount ho).symm
    | issues is => cases h₁
    | fault f => cases h₁
  | _ => cases hsame

end Stats

end LeadFlow
