import LeadFlow.Proofs.Workflow.Drift

set_option autoImplicit false

/-!
# Workflow: statistics stay in range

Folding runs into statistics over exact fractions.  Rounding keeps the order of fractions and leaves
alone what is on the grid already, so a rate that is an average of percentages is a percentage after it
was rounded, too, and moves to the side on which the batch is.

Main statements: `accumulate_continues` for one batch, `accumulateAll_inRange` for any number of them.
-/

namespace LeadFlow

open Decimal

/-- The fraction has one decimal place. -/
def IsTenths (x : ℚ) : Prop := ∃ n : ℤ, x = n / 10

theorem isTenths_zero : IsTenths 0 := ⟨0, by norm_num⟩

theorem isTenths_hundred : IsTenths 100 := ⟨1000, by norm_num⟩

theorem IsTenths.le_roundTenth {bound x : ℚ} (hbound : IsTenths bound) (h : bound ≤ x) :
    bound ≤ StatsArithmetic.roundTenth x := by
  obtain ⟨n, rfl⟩ := hbound
  have hn : (n : ℚ) ≤ roundEven (x * 10) := by exact_mod_cast le_roundEven (by linarith)
  change (n : ℚ) / 10 ≤ roundEven (x * 10) / 10
  linarith

theorem IsTenths.roundTenth_le {bound x : ℚ} (hbound : IsTenths bound) (h : x ≤ bound) :
    StatsArithmetic.roundTenth x ≤ bound := by
  obtain ⟨n, rfl⟩ := hbound
  have hn : (roundEven (x * 10) : ℚ) ≤ n := by exact_mod_cast roundEven_le (by linarith)
  change (roundEven (x * 10) : ℚ) / 10 ≤ n / 10
  linarith

namespace StatsOf

variable {s : StatsOf ℚ} {hours : ℚ} {batch : List RunStatus}

/-- Statistics that can come from counting: no figure is negative, and the rate is a percentage. -/
structure InRange (s : StatsOf ℚ) : Prop where
  counted : 0 ≤ s.leadsProcessed
  rated : 0 ≤ s.conversionRate ∧ s.conversionRate ≤ 100
  saved : 0 ≤ s.timeSavedHrs

/-! ## The rate as an average -/

/-- The rate after a batch before it is rounded: the average of the rate before and the share of successes
in the batch, each weighted by its runs. -/
def averaged (leads : ℕ) (rate : ℚ) (batch : List RunStatus) : ℚ :=
  (leads * (rate / 100) + batch.count .success) / (leads + batch.length) * 100

section Average

variable {leads : ℕ} {rate bound : ℚ}

theorem total_pos_of_ne_nil (hbatch : batch ≠ []) : (0 : ℚ) < leads + batch.length := by
  have hlength : 0 < batch.length := List.length_pos_iff.mpr hbatch
  exact_mod_cast (by omega : 0 < leads + batch.length)

theorem le_averaged_iff (hbatch : batch ≠ []) :
    bound ≤ averaged leads rate batch ↔
      bound * (leads + batch.length) ≤ leads * rate + 100 * batch.count .success := by
  have hexact : (leads * (rate / 100) + batch.count .success) * 100 =
      leads * rate + 100 * batch.count .success := by ring
  rw [averaged, div_mul_eq_mul_div, le_div_iff₀ (total_pos_of_ne_nil hbatch), hexact]

theorem averaged_le_iff (hbatch : batch ≠ []) :
    averaged leads rate batch ≤ bound ↔
      leads * rate + 100 * batch.count .success ≤ bound * (leads + batch.length) := by
  have hexact : (leads * (rate / 100) + batch.count .success) * 100 =
      leads * rate + 100 * batch.count .success := by ring
  rw [averaged, div_mul_eq_mul_div, div_le_iff₀ (total_pos_of_ne_nil hbatch), hexact]

theorem averaged_nonneg (hbatch : batch ≠ []) (hrate : 0 ≤ rate) : 0 ≤ averaged leads rate batch := by
  rw [le_averaged_iff hbatch, zero_mul]
  positivity

theorem averaged_le_hundred (hbatch : batch ≠ []) (hrate : rate ≤ 100) :
    averaged leads rate batch ≤ 100 := by
  have hbefore : (leads : ℚ) * rate ≤ leads * 100 := by gcongr
  have hsuccesses : (batch.count .success : ℚ) ≤ batch.length := by exact_mod_cast List.count_le_length
  rw [averaged_le_iff hbatch]
  linarith

/-- A batch of successes pulls a percentage up. -/
theorem le_averaged (hbatch : batch ≠ []) (hrate : rate ≤ 100)
    (h : ∀ status ∈ batch, status = .success) : rate ≤ averaged leads rate batch := by
  have hcount : batch.count .success = batch.length :=
    List.count_eq_length.mpr fun status hstatus => (h status hstatus).symm
  have hshare : rate * batch.length ≤ 100 * batch.length := by gcongr
  rw [le_averaged_iff hbatch, hcount]
  linarith

/-- A batch without successes pulls it down. -/
theorem averaged_le (hbatch : batch ≠ []) (hrate : 0 ≤ rate)
    (h : ∀ status ∈ batch, status ≠ .success) : averaged leads rate batch ≤ rate := by
  have hcount : batch.count .success = 0 := List.count_eq_zero.mpr fun hmem => h _ hmem rfl
  have hshare : 0 ≤ rate * batch.length := by positivity
  rw [averaged_le_iff hbatch, hcount, Nat.cast_zero]
  linarith

end Average

/-! ## Batches -/

/-- A batch takes statistics that are in range to statistics in range, without a fault. -/
theorem InRange.step (hs : s.InRange) (hhours : 0 ≤ hours) (batch : List RunStatus) :
    ∃ after, s.accumulate batch (exactly hours) = .ok after ∧ after.InRange := by
  by_cases hbatch : batch = []
  · subst hbatch
    exact ⟨s, rfl, hs⟩
  obtain ⟨leads, hleads⟩ := Int.eq_ofNat_of_zero_le hs.counted
  have hgrown : 0 ≤ s.timeSavedHrs + batch.length * hours := add_nonneg hs.saved (by positivity)
  refine ⟨_, accumulate_exactly hleads hbatch, by positivity, ⟨?_, ?_⟩, ?_⟩
  · exact isTenths_zero.le_roundTenth (averaged_nonneg hbatch hs.rated.1)
  · exact isTenths_hundred.roundTenth_le (averaged_le_hundred hbatch hs.rated.2)
  · exact Int.cast_nonneg (le_roundEven (by exact_mod_cast hgrown))

/-- However many batches are folded, statistics stay in range. -/
theorem accumulateAll_inRange (hs : s.InRange) (hhours : 0 ≤ hours) (batches : List (List RunStatus)) :
    ∃ after, accumulateAll (exactly hours) s batches = .ok after ∧ after.InRange := by
  induction batches using List.reverseRecOn with
  | nil => exact ⟨s, rfl, hs⟩
  | append_singleton batches batch ih =>
    obtain ⟨s', hs', hrange⟩ := ih
    obtain ⟨after, hafter, hrange'⟩ := hrange.step hhours batch
    refine ⟨after, ?_, hrange'⟩
    rw [accumulateAll_append, hs']
    exact hafter

/-- How statistics go on after a batch. -/
structure Continues (s : StatsOf ℚ) (batch : List RunStatus) (after : StatsOf ℚ) : Prop where
  inRange : after.InRange
  /-- every run is counted -/
  counted : after.leadsProcessed = s.leadsProcessed + batch.length
  roi : after.roi = s.roi
  /-- whole hours are not lost -/
  saved : (∃ n : ℤ, s.timeSavedHrs = n) → s.timeSavedHrs ≤ after.timeSavedHrs
  /-- successes do not lower the rate -/
  raised : IsTenths s.conversionRate → (∀ status ∈ batch, status = .success) →
    s.conversionRate ≤ after.conversionRate
  /-- a batch without successes does not raise the rate -/
  lowered : IsTenths s.conversionRate → (∀ status ∈ batch, status ≠ .success) →
    after.conversionRate ≤ s.conversionRate
  /-- without runs nothing changes -/
  idle : batch = [] → after = s

/-- Folding a batch into statistics that are in range has no fault, counts every run, keeps the figures in
range, and moves them to the side on which the batch is. -/
theorem accumulate_continues (hs : s.InRange) (hhours : 0 ≤ hours) (batch : List RunStatus) :
    ∃ after, s.accumulate batch (exactly hours) = .ok after ∧ s.Continues batch after := by
  obtain ⟨after, hafter, hrange⟩ := hs.step hhours batch
  refine ⟨after, hafter, ?_⟩
  by_cases hbatch : batch = []
  · subst hbatch
    obtain rfl : s = after := Except.ok.inj hafter
    exact ⟨hrange, (Int.add_zero _).symm, rfl, fun _ => le_refl _, fun _ _ => le_refl _,
      fun _ _ => le_refl _, fun _ => rfl⟩
  obtain ⟨leads, hleads⟩ := Int.eq_ofNat_of_zero_le hs.counted
  obtain rfl := Except.ok.inj ((accumulate_exactly hleads hbatch).symm.trans hafter)
  refine ⟨hrange, by rw [hleads], rfl, ?_, ?_, ?_, fun hnil => absurd hnil hbatch⟩
  · rintro ⟨n, hn⟩
    have hgrown : (n : ℚ) ≤ s.timeSavedHrs + batch.length * hours := by
      rw [hn]
      exact le_add_of_nonneg_right (by positivity)
    calc s.timeSavedHrs = n := hn
      _ ≤ roundEven (s.timeSavedHrs + batch.length * hours) := by exact_mod_cast le_roundEven hgrown
  · intro htenths hsuccess
    exact htenths.le_roundTenth (le_averaged hbatch hs.rated.2 hsuccess)
  · intro htenths hfailure
    exact htenths.roundTenth_le (averaged_le hbatch hs.rated.1 hfailure)

/-- Three leads before, one of them a success. -/
def threeLeads : StatsOf ℚ := ⟨3, 333 / 10, 7, 7 / 2⟩

/-- A success and a failure behind them take the rate to the share of two in five. -/
theorem accumulate_continues_threeLeads : threeLeads.InRange ∧
    threeLeads.accumulate [.success, .failed] (exactly (11 / 5)) = .ok ⟨5, 40, 11, 7 / 2⟩ ∧
    threeLeads.Continues [.success, .failed] ⟨5, 40, 11, 7 / 2⟩ := by
  have hrange : threeLeads.InRange := ⟨by decide, ⟨by norm_num [threeLeads], by norm_num [threeLeads]⟩,
    by norm_num [threeLeads]⟩
  have hfold : threeLeads.accumulate [.success, .failed] (exactly (11 / 5)) = .ok ⟨5, 40, 11, 7 / 2⟩ := by
    decide +kernel
  have hhours : (0 : ℚ) ≤ 11 / 5 := by norm_num
  obtain ⟨after, hafter, hcontinues⟩ := accumulate_continues hrange hhours [.success, .failed]
  obtain rfl := Except.ok.inj (hafter.symm.trans hfold)
  exact ⟨hrange, hfold, hcontinues⟩

end StatsOf

end LeadFlow
