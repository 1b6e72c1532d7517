import LeadFlow.Proofs.Decimal.Fraction
import LeadFlow.Workflow.Accumulate

set_option autoImplicit false

/-!
# Workflow: how far the statistics drift

Each batch is folded into figures that were rounded when the batch before was stored.  Over exact
fractions this module says how far they can get from those of all runs at once: by half an hour a batch,
and by a twentieth of a percentage point a batch, weighted by the runs counted up to there.  No bound
that is the same for all numbers of batches would do.

Main statements: `accumulateAll_near`, `hours_stand_still`, `rate_stands_still`.
-/

namespace LeadFlow

open Decimal

/-- Statistics over exact fractions. -/
instance : StatsArithmetic ℚ where
  ofInt n := .ok n
  add := (· + ·)
  mul := (· * ·)
  div x y := if y = 0 then .error .divisionByZero else .ok (x / y)
  roundTenth x := roundEven (x * 10) / 10
  roundUnit x := .ok (roundEven x)

theorem roundTenth_near (x : ℚ) : |StatsArithmetic.roundTenth x - x| ≤ 1 / 20 := by
  have h := roundEven_near (x * 10)
  change |(roundEven (x * 10) : ℚ) / 10 - x| ≤ 1 / 20
  rw [abs_le] at h ⊢
  constructor <;> linarith

theorem roundTenth_eq_zero {x : ℚ} (h : |x| ≤ 1 / 20) : StatsArithmetic.roundTenth x = 0 := by
  have hten : |x * 10| ≤ 1 / 2 := by
    rw [abs_le] at h ⊢
    constructor <;> linarith
  change (roundEven (x * 10) : ℚ) / 10 = 0
  rw [roundEven_eq_zero hten]
  norm_num

theorem div_of_ne_zero {x y : ℚ} (hy : y ≠ 0) : StatsArithmetic.div x y = .ok (x / y) := if_neg hy

namespace StatsOf

/-- Batches of runs, folded one after the other. -/
def accumulateAll {α : Type} [StatsArithmetic α] (saving : Nat → Outcome α) (s : StatsOf α)
    (batches : List (List RunStatus)) : Outcome (StatsOf α) :=
  batches.foldlM (fun s batch => s.accumulate batch saving) s

/-- What so many leads save, at so many hours a lead. -/
def exactly (hours : ℚ) (leads : Nat) : Outcome ℚ := .ok (leads * hours)

/-- Nothing processed yet. -/
def exactZero : StatsOf ℚ := ⟨0, 0, 0, 0⟩

variable {s : StatsOf ℚ} {hours : ℚ} {batch : List RunStatus} {batches : List (List RunStatus)}

/-! ## One batch -/

/-- The rate after a batch that has runs. -/
theorem rateAfter_exactly {n : Nat} (rate : ℚ) {length : Nat} (successes : Nat) (hlength : length ≠ 0) :
    rateAfter (n : ℤ) rate length successes =
      .ok (StatsArithmetic.roundTenth ((n * (rate / 100) + successes) / (n + length) * 100)) := by
  have hall : ((n : ℤ) + (length : ℤ) : ℤ) ≠ 0 := by omega
  unfold rateAfter
  simp only [StatsArithmetic.ofInt, bind, Except.bind]
  rw [div_of_ne_zero (by norm_num)]
  dsimp only
  rw [div_of_ne_zero (by exact_mod_cast hall)]
  simp only [StatsArithmetic.add, StatsArithmetic.mul, pure, Except.pure]
  norm_cast

/-- Rounded, the rate tells the successes up to a twentieth of a percentage point. -/
theorem rate_near (n : Nat) (rate : ℚ) {length : Nat} (successes : Nat) (hlength : length ≠ 0) :
    |(n + length) * StatsArithmetic.roundTenth
          ((n * (rate / 100) + successes) / (n + length) * 100) - (n * rate + 100 * successes)| ≤
      (n + length) / 20 := by
  obtain ⟨total, htotal⟩ : ∃ total : ℚ, total = n + length := ⟨_, rfl⟩
  have hpos : 0 < total := by
    rw [htotal]
    exact_mod_cast (by omega : 0 < n + length)
  have hexact : n * rate + 100 * successes = total * ((n * (rate / 100) + successes) / total * 100) := by
    field_simp
  rw [← htotal, hexact, ← mul_sub, abs_mul, abs_of_pos hpos]
  calc total * |StatsArithmetic.roundTenth ((n * (rate / 100) + successes) / total * 100) -
          (n * (rate / 100) + successes) / total * 100|
      ≤ total * (1 / 20) := mul_le_mul_of_nonneg_left (roundTenth_near _) hpos.le
    _ = total / 20 := by ring

/-- Exact statistics after a batch that has runs. -/
theorem accumulate_exactly {n : Nat} (hn : s.leadsProcessed = n) (hbatch : batch ≠ []) :
    s.accumulate batch (exactly hours) = .ok
      ⟨n + batch.length,
        StatsArithmetic.roundTenth
          ((n * (s.conversionRate / 100) + batch.count .success) / (n + batch.length) * 100),
        roundEven (s.timeSavedHrs + batch.length * hours), s.roi⟩ := by
  unfold accumulate
  rw [if_neg (by simpa using hbatch), hn, rateAfter_exactly _ _ (by simpa using hbatch)]
  rfl

/-! ## All batches -/

/-- How many runs there are in all batches. -/
def runCount (batches : List (List RunStatus)) : Nat := batches.flatten.length

/-- How many of them were successful. -/
def successCount (batches : List (List RunStatus)) : Nat := batches.flatten.count .success

/-- The sum of how many runs there were after each batch. -/
def standings (batches : List (List RunStatus)) : Nat := (batches.inits.map runCount).sum

theorem runCount_append (batches : List (List RunStatus)) (batch : List RunStatus) :
    runCount (batches ++ [batch]) = runCount batches + batch.length := by
  simp [runCount]

theorem successCount_append (batches : List (List RunStatus)) (batch : List RunStatus) :
    successCount (batches ++ [batch]) = successCount batches + batch.count .success := by
  simp [successCount]

theorem standings_append (batches : List (List RunStatus)) (batch : List RunStatus) :
    standings (batches ++ [batch]) = standings batches + (runCount batches + batch.length) := by
  unfold standings
  rw [List.inits_append]
  simp [runCount_append]

/-- How near statistics are to the runs of the batches that were folded. -/
structure Near (hours : ℚ) (batches : List (List RunStatus)) (s : StatsOf ℚ) : Prop where
  counted : s.leadsProcessed = runCount batches
  saved : |s.timeSavedHrs - hours * runCount batches| ≤ batches.length / 2
  /-- in successes times hundred -/
  rated : |runCount batches * s.conversionRate - 100 * successCount batches| ≤ standings batches / 20
  unrated : runCount batches = 0 → s.conversionRate = 0

theorem near_exactZero (hours : ℚ) : Near hours [] exactZero where
  counted := rfl
  saved := by simp [exactZero, runCount]
  rated := by simp [exactZero, runCount, successCount, standings]
  unrated _ := rfl

/-- A batch without runs changes nothing. -/
theorem Near.idle (h : Near hours batches s) : Near hours (batches ++ [[]]) s := by
  obtain ⟨hcounted, hsaved, hrated, hunrated⟩ := h
  have hruns : runCount (batches ++ [[]]) = runCount batches := runCount_append batches []
  have hsuccesses : successCount (batches ++ [[]]) = successCount batches := successCount_append batches []
  refine ⟨?_, ?_, ?_, ?_⟩
  · rw [hruns, hcounted]
  · rw [hruns, List.length_append, List.length_singleton]
    push_cast
    linarith
  · rw [hruns, hsuccesses, standings_append, List.length_nil]
    push_cast
    linarith [(Nat.cast_nonneg (runCount batches) : (0 : ℚ) ≤ runCount batches)]
  · rw [hruns]
    exact hunrated

/-- One more batch takes the statistics away by no more than its own rounding. -/
theorem Near.step (h : Near hours batches s) (batch : List RunStatus) :
    ∃ s', s.accumulate batch (exactly hours) = .ok s' ∧ Near hours (batches ++ [batch]) s' := by
  by_cases hbatch : batch = []
  · subst hbatch
    exact ⟨s, rfl, h.idle⟩
  obtain ⟨hcounted, hsaved, hrated, -⟩ := h
  have hlength : batch.length ≠ 0 := by simpa using hbatch
  refine ⟨_, accumulate_exactly hcounted hbatch, ?_, ?_, ?_, ?_⟩
  · rw [runCount_append]
    rfl
  · have hround := roundEven_near (s.timeSavedHrs + batch.length * hours)
    rw [runCount_append, List.length_append, List.length_singleton]
    dsimp only
    rw [abs_le] at hsaved hround ⊢
    push_cast
    constructor <;> linarith
  · have hround := rate_near (runCount batches) s.conversionRate (batch.count .success) hlength
    rw [runCount_append, successCount_append, standings_append]
    dsimp only
    push_cast
    rw [abs_le] at hrated hround ⊢
    constructor <;> linarith
  · intro hnone
    rw [runCount_append] at hnone
    omega

theorem accumulateAll_append {α : Type} [StatsArithmetic α] (saving : Nat → Outcome α) (s : StatsOf α)
    (batches : List (List RunStatus)) (batch : List RunStatus) :
    accumulateAll saving s (batches ++ [batch]) =
      (accumulateAll saving s batches).bind fun s' => s'.accumulate batch saving := by
  unfold accumulateAll
  rw [List.foldlM_append]
  refine congrArg _ (funext fun s' => ?_)
  rw [List.foldlM_cons]
  cases s'.accumulate batch saving <;> rfl

/-- Folded from zero, exact statistics stay near to all runs. -/
theorem accumulateAll_stays (hours : ℚ) (batches : List (List RunStatus)) :
    ∃ s, accumulateAll (exactly hours) exactZero batches = .ok s ∧ Near hours batches s := by
  induction batches using List.reverseRecOn with
  | nil => exact ⟨exactZero, rfl, near_exactZero hours⟩
  | append_singleton batches batch ih =>
    obtain ⟨s, hs, hnear⟩ := ih
    obtain ⟨s', hs', hnear'⟩ := hnear.step batch
    refine ⟨s', ?_, hnear'⟩
    rw [accumulateAll_append, hs]
    exact hs'

/-- Folded from zero, statistics count every run; the hours drift by half an hour a batch at most, and
the rate by a twentieth of a percentage point a batch, weighted by the runs counted up to there. -/
theorem accumulateAll_near (hours : ℚ) (batches : List (List RunStatus)) :
    ∃ s, accumulateAll (exactly hours) exactZero batches = .ok s ∧
      s.leadsProcessed = runCount batches ∧
      |s.timeSavedHrs - hours * runCount batches| ≤ batches.length / 2 ∧
      |s.conversionRate - 100 * successCount batches / runCount batches| ≤
        1 / 20 * (standings batches / runCount batches) := by
  obtain ⟨s, hs, hcounted, hsaved, hrated, hunrated⟩ := accumulateAll_stays hours batches
  refine ⟨s, hs, hcounted, hsaved, ?_⟩
  by_cases hnone : runCount batches = 0
  · rw [hunrated hnone, hnone]
    simp
  · have hpos : (0 : ℚ) < runCount batches := by exact_mod_cast Nat.pos_of_ne_zero hnone
    calc |s.conversionRate - 100 * successCount batches / runCount batches|
        = |runCount batches * s.conversionRate - 100 * successCount batches| / runCount batches := by
          rw [← abs_of_pos hpos, ← abs_div, abs_of_pos hpos]
          congr 1
          field_simp
      _ ≤ (standings batches / 20) / runCount batches := div_le_div_of_nonneg_right hrated hpos.le
      _ = 1 / 20 * (standings batches / runCount batches) := by ring

/-- Six runs in four batches, one of them a success. -/
def sixRuns : List (List RunStatus) := [[.failed], [.failed], [.success], [.failed, .failed, .failed]]

/-- At half an hour a lead, both figures are further off than they would be after a single batch. -/
theorem accumulateAll_drifts : ∃ s, accumulateAll (exactly (1 / 2)) exactZero sixRuns = .ok s ∧
    ¬ |s.timeSavedHrs - 1 / 2 * runCount sixRuns| ≤ 1 / 2 ∧
    ¬ |s.conversionRate - 100 * successCount sixRuns / runCount sixRuns| ≤ 1 / 20 := by
  have hruns : runCount sixRuns = 6 := rfl
  have hsuccesses : successCount sixRuns = 1 := rfl
  refine ⟨⟨6, 83 / 5, 2, 0⟩, by decide +kernel, ?_, ?_⟩
  · rw [hruns]
    norm_num [abs_le]
  · rw [hruns, hsuccesses]
    norm_num [abs_le]

/-- The statistics before the last batch, and the fold of that batch. -/
theorem accumulateAll_last (hours : ℚ) (batches : List (List RunStatus)) (batch : List RunStatus) :
    ∃ s, accumulateAll (exactly hours) exactZero batches = .ok s ∧
      s.leadsProcessed = runCount batches ∧
      accumulateAll (exactly hours) exactZero (batches ++ [batch]) = s.accumulate batch (exactly hours) := by
  obtain ⟨s, hs, hnear⟩ := accumulateAll_stays hours batches
  refine ⟨s, hs, hnear.counted, ?_⟩
  rw [accumulateAll_append, hs]
  rfl

/-! ## Figures that stand still -/

/-- Half an hour a lead is never saved when the leads come one by one: the hours drift by as much as they
can. -/
theorem hours_stand_still (statuses : List RunStatus) :
    ∃ s, accumulateAll (exactly (1 / 2)) exactZero (statuses.map fun status => [status]) = .ok s ∧
      s.timeSavedHrs = 0 := by
  induction statuses using List.reverseRecOn with
  | nil => exact ⟨exactZero, rfl, rfl⟩
  | append_singleton statuses status ih =>
    obtain ⟨s, hs, hcounted, hlast⟩ :=
      accumulateAll_last (1 / 2) (statuses.map fun status => [status]) [status]
    obtain ⟨s', hs', hhours⟩ := ih
    obtain rfl : s = s' := Except.ok.inj (hs.symm.trans hs')
    rw [List.map_append, List.map_singleton, hlast, accumulate_exactly hcounted (by simp)]
    refine ⟨_, rfl, ?_⟩
    dsimp only
    rw [hhours, roundEven_eq_zero (by norm_num)]
    rfl

/-- Behind so many failures, successes that come one by one never show: the rate stands at zero while the
share of successes can get as near to all as it likes. -/
theorem rate_stands_still (hours : ℚ) {failures : Nat} (hfailures : 1999 ≤ failures) (successes : Nat) :
    ∃ s, accumulateAll (exactly hours) exactZero
        (.replicate failures .failed :: .replicate successes [.success]) = .ok s ∧
      s.conversionRate = 0 := by
  have hcount : ∀ successes, runCount (.replicate failures .failed :: .replicate successes [.success]) =
      failures + successes := by
    intro successes
    simp [runCount]
  induction successes with
  | zero =>
    have hbatch : List.replicate failures RunStatus.failed ≠ [] := by
      simp only [ne_eq, List.replicate_eq_nil_iff]
      omega
    have hfold : exactZero.accumulate (.replicate failures .failed) (exactly hours) = .ok _ :=
      accumulate_exactly (n := 0) rfl hbatch
    refine ⟨_, (bind_pure _).trans hfold, roundTenth_eq_zero ?_⟩
    simp [List.count_replicate]
  | succ successes ih =>
    obtain ⟨s, hs, hcounted, hlast⟩ := accumulateAll_last hours
      (.replicate failures .failed :: .replicate successes [.success]) [.success]
    obtain ⟨s', hs', hrate⟩ := ih
    obtain rfl : s = s' := Except.ok.inj (hs.symm.trans hs')
    rw [List.replicate_succ', ← List.cons_append, hlast, accumulate_exactly hcounted (by simp)]
    refine ⟨_, rfl, roundTenth_eq_zero ?_⟩
    have hmany : (1999 : ℚ) ≤ failures := by exact_mod_cast hfailures
    have hall : (2000 : ℚ) ≤ failures + successes + 1 := by
      linarith [(Nat.cast_nonneg successes : (0 : ℚ) ≤ successes)]
    have hshare : (((failures + successes : Nat) : ℚ) * (0 / 100) + [RunStatus.success].count .success) /
        ((failures + successes : Nat) + [RunStatus.success].length) * 100 =
          100 / (failures + successes + 1) := by
      push_cast
      simp
      ring
    rw [hrate, hcount, hshare, abs_of_nonneg (by positivity)]
    calc (100 : ℚ) / (failures + successes + 1) ≤ 100 / 2000 := by gcongr
      _ = 1 / 20 := by norm_num

end StatsOf

end LeadFlow
