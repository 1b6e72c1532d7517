import LeadFlow.Calendar.Moment
import LeadFlow.Proofs.Calendar.Years

set_option autoImplicit false

/-!
# Calendar: offsets around the changes of a year

Every known region with daylight saving time changes its offset twice a year, early in a night of
spring and in one of autumn (`Region.IsRegular`, `regular_of_known`); `Region.Turns` says what that
makes of a year.  Main statements: reading an instant in a zone does not change the instant
(`Moment.instant_inZone`), and what is later by the local clock is later, unless it falls into the
first hours of a day (`Moment.instant_lt`).
-/

namespace LeadFlow.Calendar

/-- Coordinated time, a fixed offset, or a region known by name. -/
def Zone.IsKnown : Zone → Prop
  | .utc | .fixed _ => True
  | .region r => r ∈ regions

/-- A month from February to April. -/
def IsSpring (month : Nat) : Prop := 2 ≤ month ∧ month ≤ 4

/-- October or November. -/
def IsAutumn (month : Nat) : Prop := 10 ≤ month ∧ month ≤ 11

/-- The region has no daylight saving time, or changes its offset once in spring and once in autumn,
in the first two hours of a day of its standard time. -/
def Region.IsRegular (r : Region) : Prop :=
  match r.daylight with
  | none => True
  | some d =>
    (IsSpring d.startMonth ∧ IsAutumn d.endMonth ∨ IsSpring d.endMonth ∧ IsAutumn d.startMonth) ∧
      (0 ≤ d.startSecond + r.standard ∧ d.startSecond + r.standard ≤ 7200) ∧
      (0 ≤ d.endSecond + r.standard ∧ d.endSecond + r.standard ≤ 7200)

theorem regular_of_known {r : Region} (h : r ∈ regions) : r.IsRegular := by
  simp only [regions, List.mem_cons, List.not_mem_nil, or_false] at h
  obtain rfl | rfl | rfl | rfl | rfl := h <;> simp [Region.IsRegular, IsSpring, IsAutumn]

/-! ## The changes of a year -/

/-- The offsets of a year: `outer` seconds up to a night in spring and from a night in autumn on,
`inner` seconds between.  The changes are given in standard local time. -/
structure Region.Turns (r : Region) (outer inner : Int) (year : Nat) (spring autumn : Int) : Prop where
  changes : r.changes year =
    [⟨spring - r.standard * second, outer, inner⟩, ⟨autumn - r.standard * second, inner, outer⟩]
  spring_after : yearStart year + 28 * day ≤ spring
  spring_autumn : spring + 28 * day ≤ autumn
  autumn_before : autumn ≤ yearStart year + 341 * day
  spring_night : spring % day ≤ 7200 * second
  autumn_night : autumn % day ≤ 7200 * second

/-- The standard local time of a change: some seconds from midnight UTC of a Sunday of a month. -/
def Region.turnOf (r : Region) (year month week : Nat) (sec : Int) : Int :=
  sunday year month week * day + (sec + r.standard) * second

/-- A change within the first two hours of a day lies on a day of its month. -/
theorem Region.turnOf_bounds (r : Region) (year month week : Nat) {sec : Int}
    (hsec : 0 ≤ sec + r.standard ∧ sec + r.standard ≤ 7200) :
    yearStart year + (28 * (month - 1) : Nat) * day ≤ r.turnOf year month week sec ∧
      r.turnOf year month week sec ≤ yearStart year + (31 * (month - 1) + 30 : Nat) * day + 7200 * second ∧
      r.turnOf year month week sec % day ≤ 7200 * second := by
  obtain ⟨hfrom, hto⟩ := sunday_bounds year month week
  unfold Region.turnOf yearStart day second
  omega

/-- The changes of a year under daylight rules, in standard local time. -/
theorem Region.changes_eq {r : Region} {d : Daylight} (hd : r.daylight = some d) (year : Nat) :
    r.changes year =
      if r.turnOf year d.startMonth d.startWeek d.startSecond ≤ r.turnOf year d.endMonth d.endWeek d.endSecond then
        [⟨r.turnOf year d.startMonth d.startWeek d.startSecond - r.standard * second, r.standard, r.standard + 3600⟩,
          ⟨r.turnOf year d.endMonth d.endWeek d.endSecond - r.standard * second, r.standard + 3600, r.standard⟩]
      else
        [⟨r.turnOf year d.endMonth d.endWeek d.endSecond - r.standard * second, r.standard + 3600, r.standard⟩,
          ⟨r.turnOf year d.startMonth d.startWeek d.startSecond - r.standard * second, r.standard,
            r.standard + 3600⟩] := by
  have hinstant (month week : Nat) (sec : Int) :
      sunday year month week * day + sec * second = r.turnOf year month week sec - r.standard * second := by
    unfold Region.turnOf
    ring
  simp only [Region.changes, hd, hinstant, Int.sub_le_sub_right_iff]

/-- The two offsets of a region with daylight saving time: standard time and an hour ahead of it. -/
def Region.IsOffsets (r : Region) (outer inner : Int) : Prop :=
  outer = r.standard ∧ inner = r.standard + 3600 ∨ outer = r.standard + 3600 ∧ inner = r.standard

/-- Each year of a regular region with daylight saving time has its two changes, and every year
begins with the same of the two offsets. -/
theorem Region.turns {r : Region} (hregular : r.IsRegular) {d : Daylight} (hd : r.daylight = some d) :
    ∃ outer inner, r.IsOffsets outer inner ∧ ∀ year, ∃ spring autumn, r.Turns outer inner year spring autumn := by
  simp only [Region.IsRegular, hd, IsSpring, IsAutumn] at hregular
  obtain ⟨hmonths, hstart, hend⟩ := hregular
  have hboundsStart (year : Nat) := r.turnOf_bounds year d.startMonth d.startWeek hstart
  have hboundsEnd (year : Nat) := r.turnOf_bounds year d.endMonth d.endWeek hend
  have hchanges := Region.changes_eq hd
  obtain ⟨on, hon⟩ : ∃ on : Nat → Int, on = fun y => r.turnOf y d.startMonth d.startWeek d.startSecond := ⟨_, rfl⟩
  obtain ⟨off, hoff⟩ : ∃ off : Nat → Int, off = fun y => r.turnOf y d.endMonth d.endWeek d.endSecond := ⟨_, rfl⟩
  simp only [← congrFun hon, ← congrFun hoff] at hboundsStart hboundsEnd hchanges
  obtain hmonths | hmonths := hmonths
  · refine ⟨r.standard, r.standard + 3600, .inl ⟨rfl, rfl⟩, fun y => ⟨on y, off y, ?_⟩⟩
    obtain ⟨hfromStart, htoStart, hnightStart⟩ := hboundsStart y
    obtain ⟨hfromEnd, htoEnd, hnightEnd⟩ := hboundsEnd y
    unfold day second at *
    exact ⟨by rw [hchanges, if_pos (by omega)]; rfl, by unfold day second; omega, by unfold day second; omega,
      by unfold day second; omega, hnightStart, hnightEnd⟩
  · refine ⟨r.standard + 3600, r.standard, .inr ⟨rfl, rfl⟩, fun y => ⟨off y, on y, ?_⟩⟩
    obtain ⟨hfromStart, htoStart, hnightStart⟩ := hboundsStart y
    obtain ⟨hfromEnd, htoEnd, hnightEnd⟩ := hboundsEnd y
    unfold day second at *
    exact ⟨by rw [hchanges, if_neg (by omega)]; rfl, by unfold day second; omega, by unfold day second; omega,
      by unfold day second; omega, hnightEnd, hnightStart⟩

/-! ## The offset in force -/

/-- By how much local time passes a change late: an hour, but in the second pass not at all. -/
def lateness (fold : Bool) : Int := if fold then 0 else 3600 * second

theorem lateness_bounds (fold : Bool) : 0 ≤ lateness fold ∧ lateness fold ≤ 3600 * second := by
  cases fold <;> decide

namespace Region.Turns

variable {r : Region} {outer inner spring autumn : Int}

/-- At an instant the offset goes by the standard local time. -/
theorem offsetUtc_eq {t : Int} (h : r.Turns outer inner (yearAt (t + r.standard * second)) spring autumn) :
    (Zone.region r).offsetUtc t = second *
      (if autumn ≤ t + r.standard * second then outer
        else if spring ≤ t + r.standard * second then inner else outer) := by
  have hpast (x : Int) : x - r.standard * second ≤ t ↔ x ≤ t + r.standard * second := by omega
  simp only [Zone.offsetUtc, h.changes, offsetAfter, List.foldl, List.head?_cons, Option.map, Option.getD,
    decide_eq_true_eq, hpast]

/-- Local time passes a change at its standard time in the second pass, and an hour later otherwise. -/
theorem offsetLocal_eq (hoffsets : r.IsOffsets outer inner) {wall : Int}
    (h : r.Turns outer inner (yearAt wall) spring autumn) (fold : Bool) :
    (Zone.region r).offsetLocal wall fold = second *
      (if autumn + lateness fold ≤ wall then outer else if spring + lateness fold ≤ wall then inner else outer) := by
  have hpast (x : Int) :
      x - r.standard * second + (if fold then r.standard else r.standard + 3600) * second ≤ wall ↔
        x + lateness fold ≤ wall := by
    unfold lateness second
    cases fold <;> simp only [reduceIte, Bool.false_eq_true] <;> omega
  have hpair : min outer inner = r.standard ∧ max outer inner = r.standard + 3600 := by
    unfold Region.IsOffsets at hoffsets
    omega
  simp only [Zone.offsetLocal, h.changes, offsetAfter, List.foldl, List.head?_cons, Option.map, Option.getD,
    decide_eq_true_eq, min_comm inner outer, max_comm inner outer, hpair.1, hpair.2, hpast]

/-- The second pass is the hour after the change back to standard time. -/
theorem foldUtc_eq (hoffsets : r.IsOffsets outer inner) {t : Int}
    (h : r.Turns outer inner (yearAt (t + r.standard * second)) spring autumn) :
    (Zone.region r).foldUtc t = true ↔
      (inner = r.standard ∧ spring ≤ t + r.standard * second ∧ t + r.standard * second < spring + 3600 * second) ∨
      (outer = r.standard ∧ autumn ≤ t + r.standard * second ∧ t + r.standard * second < autumn + 3600 * second) := by
  simp only [Zone.foldUtc, h.changes, List.any, Bool.or_eq_true, Bool.and_eq_true, decide_eq_true_eq,
    Bool.false_eq_true, or_false]
  unfold Region.IsOffsets at hoffsets
  unfold second
  omega

end Region.Turns

/-! ## Instants and their readings -/

/-- Without daylight rules the offset is always that of standard time. -/
theorem Region.offset_of_noDaylight {r : Region} (h : r.daylight = none) (micros : Int) (fold : Bool) :
    (Zone.region r).offsetUtc micros = second * r.standard ∧
      (Zone.region r).offsetLocal micros fold = second * r.standard := by
  simp only [Zone.offsetUtc, Zone.offsetLocal, Region.changes, h]
  exact ⟨rfl, rfl⟩

/-- The local reading of an instant has the offset of the instant. -/
theorem Region.offsetLocal_reading {r : Region} (h : r.IsRegular) (t : Int) :
    (Zone.region r).offsetLocal (t + (Zone.region r).offsetUtc t) ((Zone.region r).foldUtc t) =
      (Zone.region r).offsetUtc t := by
  cases hd : r.daylight with
  | none => rw [(offset_of_noDaylight hd _ _).2, (offset_of_noDaylight hd t false).1]
  | some d =>
    obtain ⟨outer, inner, hoffsets, hturns⟩ := Region.turns h hd
    obtain ⟨spring, autumn, hturn⟩ := hturns (yearAt (t + r.standard * second))
    have hutc := hturn.offsetUtc_eq
    have hfold := hturn.foldUtc_eq hoffsets
    obtain ⟨offset, hoffset⟩ : ∃ o, (Zone.region r).offsetUtc t = o := ⟨_, rfl⟩
    obtain ⟨fold, hpass⟩ : ∃ f, (Zone.region r).foldUtc t = f := ⟨_, rfl⟩
    rw [hoffset] at hutc ⊢
    rw [hpass] at hfold ⊢
    have hlate := lateness_bounds fold
    have hahead : t + r.standard * second ≤ t + offset ∧ t + offset ≤ t + r.standard * second + 3600 * second := by
      unfold Region.IsOffsets at hoffsets
      unfold second at *
      split_ifs at hutc <;> omega
    obtain hyear | ⟨hended, hbegun⟩ := yearAt_eq_or_later hahead.1
    · -- in one year, the reading passes each change when the instant does
      have hpasses (x : Int) (hx : x = spring ∨ x = autumn) :
          x + lateness fold ≤ t + offset ↔ x ≤ t + r.standard * second := by
        have := hturn.spring_autumn
        unfold Region.IsOffsets at hoffsets
        unfold lateness
        unfold day second at *
        cases fold <;> simp only [reduceIte, Bool.false_eq_true, true_iff, false_iff] at hfold ⊢ <;>
          split_ifs at hutc <;> omega
      rw [Region.Turns.offsetLocal_eq hoffsets (hyear.symm ▸ hturn)]
      simp only [hpasses spring (.inl rfl), hpasses autumn (.inr rfl)]
      exact hutc.symm
    · -- the last hour of a year: all its changes are past, and none of the next one's is
      obtain ⟨spring', autumn', hnext⟩ := hturns (yearAt (t + offset))
      have hwithin := (yearAt_spec (t + r.standard * second)).2
      have hlength := yearStart_succ (yearAt_pos (t + r.standard * second))
      have hpast : autumn ≤ t + r.standard * second := by
        have := hturn.autumn_before
        unfold day second at *
        omega
      have hahead' : t + offset < spring' ∧ spring' ≤ autumn' := by
        have := hnext.spring_after
        have := hnext.spring_autumn
        unfold day second at *
        omega
      rw [if_pos hpast] at hutc
      rw [hnext.offsetLocal_eq hoffsets, if_neg (by omega), if_neg (by omega), hutc]

variable {z : Zone}

/-- Reading an instant in a zone does not change it. -/
theorem Moment.instant_inZone (hz : z.IsKnown) (t : Int) : (Moment.inZone z t).instant = t := by
  have hoffset : z.offsetLocal (t + z.offsetUtc t) (z.foldUtc t) = z.offsetUtc t := by
    cases z with
    | utc => rfl
    | fixed o => rfl
    | region r => exact Region.offsetLocal_reading (regular_of_known hz) t
  change t + z.offsetUtc t - z.offsetLocal (t + z.offsetUtc t) (z.foldUtc t) = t
  rw [hoffset]
  ring

/-- The offsets of a zone differ by an hour at most. -/
theorem Zone.offsetLocal_within (hz : z.IsKnown) :
    ∃ least, ∀ wall fold, least ≤ z.offsetLocal wall fold ∧ z.offsetLocal wall fold ≤ least + 3600 * second := by
  cases z with
  | utc => exact ⟨0, fun _ _ => by simp [Zone.offsetLocal, second]⟩
  | fixed o => exact ⟨o, fun _ _ => by simp [Zone.offsetLocal, second]⟩
  | region r =>
    refine ⟨second * r.standard, fun wall fold => ?_⟩
    cases hd : r.daylight with
    | none => rw [(Region.offset_of_noDaylight hd wall fold).2]; unfold second; omega
    | some d =>
      obtain ⟨outer, inner, hoffsets, hturns⟩ := Region.turns (regular_of_known hz) hd
      obtain ⟨spring, autumn, hturn⟩ := hturns (yearAt wall)
      rw [hturn.offsetLocal_eq hoffsets]
      unfold Region.IsOffsets at hoffsets
      unfold second
      split_ifs <;> omega

/-- From three in the morning on, the offset of a day is settled. -/
theorem Zone.offsetLocal_of_sameDay (hz : z.IsKnown) {a b : Int} (hday : a / day = b / day)
    (ha : 3 * 3600 * second ≤ a % day) (hb : 3 * 3600 * second ≤ b % day) (fold fold' : Bool) :
    z.offsetLocal a fold = z.offsetLocal b fold' := by
  cases z with
  | utc => rfl
  | fixed o => rfl
  | region r =>
    cases hd : r.daylight with
    | none => rw [(Region.offset_of_noDaylight hd a fold).2, (Region.offset_of_noDaylight hd b fold').2]
    | some d =>
      obtain ⟨outer, inner, hoffsets, hturns⟩ := Region.turns (regular_of_known hz) hd
      obtain ⟨spring, autumn, hturn⟩ := hturns (yearAt a)
      have hyear : yearAt b = yearAt a := by rw [yearAt_eq, yearAt_eq, hday]
      -- a change is past from the end of its second hour, or third where clocks go back
      have hpasses (x : Int) (hx : x % day ≤ 7200 * second) :
          x + lateness fold ≤ a ↔ x + lateness fold' ≤ b := by
        have := lateness_bounds fold
        have := lateness_bounds fold'
        unfold day second at *
        omega
      rw [hturn.offsetLocal_eq hoffsets, Region.Turns.offsetLocal_eq hoffsets (hyear.symm ▸ hturn)]
      simp only [hpasses spring hturn.spring_night, hpasses autumn hturn.autumn_night]

/-- What is later by the local clock of a zone, at four in the morning or after, is later. -/
theorem Moment.instant_lt (hz : z.IsKnown) {a b : Moment} (ha : a.zone = some z) (hb : b.zone = some z)
    (hlater : a.wall < b.wall) (hmorning : 4 * 3600 * second ≤ b.timeOfDay) : a.instant < b.instant := by
  obtain ⟨least, hoffsets⟩ := Zone.offsetLocal_within hz
  have hofA := hoffsets a.wall a.fold
  have hofB := hoffsets b.wall b.fold
  have hinstant (m : Moment) (hm : m.zone = some z) : m.instant = m.wall - z.offsetLocal m.wall m.fold := by
    simp only [Moment.instant, Moment.instant?, Moment.offset?, hm, Option.map_some, Option.getD_some]
  rw [hinstant a ha, hinstant b hb]
  unfold Moment.timeOfDay at hmorning
  obtain hfar | hnear : a.wall + 3600 * second < b.wall ∨ b.wall ≤ a.wall + 3600 * second := by omega
  · omega
  · have hsame : z.offsetLocal a.wall a.fold = z.offsetLocal b.wall b.fold := by
      apply Zone.offsetLocal_of_sameDay hz <;> unfold day second at * <;> omega
    omega

end LeadFlow.Calendar
