import LeadFlow.Calendar.Zone
import Mathlib.Tactic.Ring

set_option autoImplicit false

/-!
# Calendar: years and their Sundays

A day lies in its year (`yearOf_spec`).  A time before the calendar counts as one of its first year
(`yearAt_spec`).  The Sundays that a rule can name lie in their month, hence far from both ends of
the year when the month does (`sunday_bounds`).
-/

namespace LeadFlow.Calendar

/-! ## Days and years -/

/-- The days before a year by its place in cycles of 400, 100 and 4 years. -/
theorem daysBeforeYear_cycles {q c k j : Nat} (hc : c ≤ 3) (hk : k ≤ 24) (hj : j ≤ 3) :
    daysBeforeYear (400 * q + 100 * c + 4 * k + j + 1) = 146097 * q + 36524 * c + 1461 * k + 365 * j := by
  have hfour : (400 * q + 100 * c + 4 * k + j) / 4 = 100 * q + 25 * c + k := by omega
  have hhundred : (400 * q + 100 * c + 4 * k + j) / 100 = 4 * q + c := by omega
  have hcycle : (400 * q + 100 * c + 4 * k + j) / 400 = q := by omega
  unfold daysBeforeYear
  dsimp only
  rw [Nat.add_sub_cancel, hfour, hhundred, hcycle]
  omega

/-- A year has at least 365 days. -/
theorem daysBeforeYear_succ {y : Nat} (h : 1 ≤ y) : daysBeforeYear y + 365 ≤ daysBeforeYear (y + 1) := by
  unfold daysBeforeYear
  dsimp only
  omega

theorem daysBeforeYear_mono {y z : Nat} (hy : 1 ≤ y) (h : y ≤ z) : daysBeforeYear y ≤ daysBeforeYear z := by
  induction h with
  | refl => exact Nat.le_refl _
  | step h ih => exact Nat.le_trans ih (Nat.le_of_add_right_le (daysBeforeYear_succ (Nat.le_trans hy h)))

theorem yearOf_pos (n : Nat) : 1 ≤ yearOf n := Nat.succ_pos _

/-- A day lies in its year. -/
theorem yearOf_spec (n : Nat) :
    daysBeforeYear (yearOf n) ≤ n ∧ n < daysBeforeYear (yearOf n + 1) := by
  obtain ⟨q, hq⟩ : ∃ q, n / 146097 = q := ⟨_, rfl⟩
  obtain ⟨c, hcentury⟩ : ∃ c, min (n % 146097 / 36524) 3 = c := ⟨_, rfl⟩
  obtain ⟨r, hr⟩ : ∃ r, n % 146097 - c * 36524 = r := ⟨_, rfl⟩
  obtain ⟨k, hk⟩ : ∃ k, r / 1461 = k := ⟨_, rfl⟩
  obtain ⟨j, hj⟩ : ∃ j, min (r % 1461 / 365) 3 = j := ⟨_, rfl⟩
  have hyear : yearOf n = 400 * q + 100 * c + 4 * k + j + 1 := by
    unfold yearOf
    dsimp only
    rw [hq, hcentury, hr, hk, hj]
    ring
  have hc3 : c ≤ 3 := by omega
  have hk24 : k ≤ 24 := by omega
  have hj3 : j ≤ 3 := by omega
  have hn : n = 146097 * q + 36524 * c + 1461 * k + r % 1461 := by omega
  have hbefore := daysBeforeYear_cycles (q := q) hc3 hk24 hj3
  rw [hyear]
  refine ⟨by omega, ?_⟩
  -- the year after: the next of four, or the start of the next cycle of 4, 100 or 400 years
  obtain hj | rfl : j < 3 ∨ j = 3 := by omega
  · have := daysBeforeYear_succ (y := 400 * q + 100 * c + 4 * k + j + 1) (by omega)
    omega
  obtain hk' | rfl : k < 24 ∨ k = 24 := by omega
  · have hnext := daysBeforeYear_cycles (q := q) (k := k + 1) (j := 0) hc3 hk' (by omega)
    rw [show 400 * q + 100 * c + 4 * k + 3 + 1 + 1 = 400 * q + 100 * c + 4 * (k + 1) + 0 + 1 by ring, hnext]
    omega
  obtain hc' | rfl : c < 3 ∨ c = 3 := by omega
  · have hnext := daysBeforeYear_cycles (q := q) (c := c + 1) (k := 0) (j := 0) hc' (by omega) (by omega)
    rw [show 400 * q + 100 * c + 4 * 24 + 3 + 1 + 1 = 400 * q + 100 * (c + 1) + 4 * 0 + 0 + 1 by ring, hnext]
    omega
  · have hnext := daysBeforeYear_cycles (q := q + 1) (c := 0) (k := 0) (j := 0) (by omega) (by omega) (by omega)
    rw [show 400 * q + 100 * 3 + 4 * 24 + 3 + 1 + 1 = 400 * (q + 1) + 100 * 0 + 4 * 0 + 0 + 1 by ring, hnext]
    omega

/-- The microsecond at which a year begins. -/
def yearStart (y : Nat) : Int := daysBeforeYear y * day

theorem yearAt_eq (micros : Int) : yearAt micros = yearOf (micros / day).toNat := rfl

theorem yearAt_pos (micros : Int) : 1 ≤ yearAt micros := yearOf_pos _

/-- A time lies in its year; the times before the calendar count as times of its first year. -/
theorem yearAt_spec (micros : Int) :
    (yearStart (yearAt micros) ≤ micros ∨ micros < 0 ∧ yearAt micros = 1) ∧
      micros < yearStart (yearAt micros + 1) := by
  obtain ⟨hfrom, hto⟩ := yearOf_spec (micros / day).toNat
  rw [← yearAt_eq] at hfrom hto
  obtain ⟨y, hy⟩ : ∃ y, yearAt micros = y := ⟨_, rfl⟩
  rw [hy] at hfrom hto ⊢
  unfold yearStart
  unfold day second at *
  refine ⟨?_, by omega⟩
  obtain hneg | hpos : micros < 0 ∨ 0 ≤ micros := by omega
  · refine .inr ⟨hneg, ?_⟩
    rw [← hy, yearAt_eq, show (micros / day).toNat = 0 by unfold day second; omega]
    rfl
  · exact .inl (by omega)

theorem yearStart_succ {y : Nat} (h : 1 ≤ y) : yearStart y + 365 * day ≤ yearStart (y + 1) := by
  have := daysBeforeYear_succ h
  unfold yearStart day second
  omega

theorem yearStart_mono {y z : Nat} (hy : 1 ≤ y) (h : y ≤ z) : yearStart y ≤ yearStart z := by
  have := daysBeforeYear_mono hy h
  unfold yearStart day second
  omega

/-- Of two times, the later lies in the year of the earlier, or that year has ended by the start of
its own. -/
theorem yearAt_eq_or_later {a b : Int} (h : a ≤ b) :
    yearAt b = yearAt a ∨ yearStart (yearAt a + 1) ≤ yearStart (yearAt b) ∧ yearStart (yearAt b) ≤ b := by
  obtain ⟨hfromA, -⟩ := yearAt_spec a
  obtain ⟨hfromB, htoB⟩ := yearAt_spec b
  obtain heq | hlt | hgt : yearAt b = yearAt a ∨ yearAt a < yearAt b ∨ yearAt b < yearAt a := by omega
  · exact .inl heq
  · have := yearAt_pos a
    exact .inr ⟨yearStart_mono (by omega) hlt, by omega⟩
  · have := yearAt_pos b
    have : yearStart (yearAt b + 1) ≤ yearStart (yearAt a) := yearStart_mono (by omega) hgt
    omega

/-! ## Sundays -/

/-- The number of days of a month lies between 28 and 31. -/
theorem daysInMonth_bounds (y m : Nat) : 28 ≤ daysInMonth y m ∧ daysInMonth y m ≤ 31 := by
  unfold daysInMonth
  split <;> split <;> omega

/-- The days before a month lie between 28 and 31 for each month before it. -/
theorem daysBeforeMonth_bounds (y m : Nat) :
    28 * (m - 1) ≤ daysBeforeMonth y m ∧ daysBeforeMonth y m ≤ 31 * (m - 1) := by
  unfold daysBeforeMonth
  induction m - 1 with
  | zero => exact ⟨Nat.le_refl _, Nat.le_refl _⟩
  | succ n ih =>
    have hmonth := daysInMonth_bounds y (n + 1)
    change 28 * n ≤ List.sum _ ∧ List.sum _ ≤ 31 * n at ih
    change 28 * (n + 1) ≤ List.sum _ ∧ List.sum _ ≤ 31 * (n + 1)
    rw [List.range_succ, List.map_append, List.sum_append]
    simp only [List.map_cons, List.map_nil, List.sum_cons, List.sum_nil]
    omega

/-- A Sunday that a rule names lies in its month. -/
theorem sunday_bounds (y m w : Nat) :
    daysBeforeYear y + 28 * (m - 1) ≤ sunday y m w ∧ sunday y m w ≤ daysBeforeYear y + 31 * (m - 1) + 30 := by
  obtain ⟨sundays, hsundays⟩ : ∃ l, ((List.range (daysInMonth y m)).filter fun i =>
    weekdayOf ((Date.mk y m 1).number + i) == 6) = l := ⟨_, rfl⟩
  have hmonth := daysInMonth_bounds y m
  have hwithin : ∀ i ∈ sundays, i < daysInMonth y m := fun i hi => by
    rw [← hsundays] at hi
    exact List.mem_range.mp (List.mem_filter.mp hi).1
  have hnamed : sundays[w]?.getD (sundays.getLast?.getD 0) < daysInMonth y m := by
    cases hw : sundays[w]? with
    | some i => exact hwithin i (List.mem_of_getElem? hw)
    | none =>
      cases hlast : sundays.getLast? with
      | some i => exact hwithin i (List.mem_of_getLast? hlast)
      | none => simp only [Option.getD_none]; omega
  have hfirst := daysBeforeMonth_bounds y m
  unfold sunday
  dsimp only
  rw [hsundays, show (Date.mk y m 1).number = daysBeforeYear y + daysBeforeMonth y m from rfl]
  omega

end LeadFlow.Calendar
