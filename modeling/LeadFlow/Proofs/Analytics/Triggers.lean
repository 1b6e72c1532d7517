import LeadFlow.Analytics.Triggers
import LeadFlow.Proofs.Analytics.Nodes
import LeadFlow.Proofs.Decimal.Quotient
import Mathlib

set_option autoImplicit false

/-!
# Analytics: what the trigger view counts

The view spreads the runs of a workflow over the hours of the day, the days of a week and the types of
triggers.  No run is lost or counted twice: the hours add up to all runs and the days to those of the week,
whatever the zone does to the clock, and each type that the workflow declares counts every run.  There is a
view unless a moment has no reading in the zone, or a run ended by a clock that does not compare with the one
it started by.

Main statement: `triggerReport_conserves`.
-/

namespace LeadFlow.Analytics

open Calendar

/-! ## Spreading over numbers -/

/-- What satisfies one of two conditions that exclude each other satisfies the one or the other. -/
theorem countP_add_of_disjoint {α : Type} {p q : α → Bool} (as : List α)
    (h : ∀ a, p a = true → q a = false) :
    as.countP p + as.countP q = as.countP fun a => p a || q a := by
  induction as with
  | nil => rfl
  | cons a as ih =>
    simp only [List.countP_cons, ← ih]
    cases hp : p a with
    | true =>
      rw [h a hp]
      simp only [Bool.or_false, if_true, Bool.false_eq_true, if_false]
      omega
    | false =>
      simp only [Bool.false_or, Bool.false_eq_true, if_false]
      omega

/-- Spread over different numbers, what has one of them is counted once. -/
theorem sum_countP {α : Type} (f : α → Nat) {numbers : List Nat} (hnumbers : numbers.Nodup) (as : List α) :
    (numbers.map fun k => as.countP fun a => f a == k).sum = as.countP fun a => numbers.contains (f a) := by
  induction numbers with
  | nil => simp
  | cons k numbers ih =>
    obtain ⟨hk, hnumbers⟩ := List.nodup_cons.mp hnumbers
    have hdisjoint : ∀ a, (f a == k) = true → numbers.contains (f a) = false := by
      intro a ha
      rw [eq_of_beq ha]
      simpa using hk
    rw [List.map_cons, List.sum_cons, ih hnumbers, countP_add_of_disjoint as hdisjoint]
    exact List.countP_congr fun a _ => by simp

/-! ## Hours -/

theorem hour_lt (m : Moment) : m.hour < 24 := by
  have hday : 0 < day := by decide
  have hleast := Int.emod_nonneg m.wall hday.ne'
  have hmost := Int.emod_lt_of_pos m.wall hday
  unfold Moment.hour Moment.timeOfDay
  unfold day second at *
  omega

/-- The hours of the day add up to all runs. -/
theorem sum_hours (starts : List Moment) :
    ((List.range 24).map fun h => starts.countP fun s => s.hour == h).sum = starts.length := by
  rw [sum_countP Moment.hour List.nodup_range, List.countP_eq_length]
  intro s _
  simpa using hour_lt s

/-- The earliest of the fullest of some buckets. -/
structure IsPeak (buckets : List HourBucket) (peak : HourBucket) : Prop where
  mem : peak ∈ buckets
  fullest : ∀ b ∈ buckets, b.triggers ≤ peak.triggers
  earliest : ∀ b ∈ buckets, b.triggers = peak.triggers → peak.hour ≤ b.hour

/-- Of buckets in the order of their hours, the peak is the earliest of the fullest. -/
theorem peakOf_isPeak {first : HourBucket} {rest : List HourBucket}
    (h : (first :: rest).Pairwise fun a b => a.hour ≤ b.hour) : IsPeak (first :: rest) (peakOf first rest) := by
  induction rest generalizing first with
  | nil => exact ⟨List.mem_cons_self, by simp [peakOf], by simp [peakOf]⟩
  | cons b rest ih =>
    have hstep : peakOf first (b :: rest) = peakOf (if first.triggers < b.triggers then b else first) rest := rfl
    rw [hstep]
    split
    · rename_i hfuller
      obtain ⟨hmem, hfullest, hearliest⟩ := ih (List.pairwise_cons.mp h).2
      have hb := hfullest b List.mem_cons_self
      exact ⟨List.mem_cons_of_mem _ hmem, List.forall_mem_cons.mpr ⟨by omega, hfullest⟩,
        List.forall_mem_cons.mpr ⟨fun heq => absurd heq (by omega), hearliest⟩⟩
    · rename_i hkept
      have hsub : (first :: rest).Sublist (first :: b :: rest) :=
        List.Sublist.cons_cons _ (List.sublist_cons_self _ _)
      obtain ⟨hmem, hfullest, hearliest⟩ := ih (h.sublist hsub)
      have hfirst := hfullest first List.mem_cons_self
      have hlater : first.hour ≤ b.hour := (List.pairwise_cons.mp h).1 b List.mem_cons_self
      -- the bucket that is passed over is no fuller than the first, and later
      have hpassed : b.triggers = (peakOf first rest).triggers → (peakOf first rest).hour ≤ b.hour := fun heq =>
        (hearliest first List.mem_cons_self (by omega)).trans hlater
      refine ⟨hsub.subset hmem, ?_, ?_⟩
      · exact List.forall_mem_cons.mpr ⟨hfirst, List.forall_mem_cons.mpr
          ⟨by omega, (List.forall_mem_cons.mp hfullest).2⟩⟩
      · exact List.forall_mem_cons.mpr ⟨hearliest first List.mem_cons_self, List.forall_mem_cons.mpr
          ⟨hpassed, (List.forall_mem_cons.mp hearliest).2⟩⟩

theorem peak_isPeak (starts : List Moment) :
    IsPeak ((List.range 24).map (hourBucket starts))
      (peakOf (hourBucket starts 0) ((List.range 24).map (hourBucket starts))) := by
  have hsorted : (hourBucket starts 0 :: (List.range 24).map (hourBucket starts)).Pairwise
      fun a b => a.hour ≤ b.hour := by
    refine List.pairwise_cons.mpr ⟨fun b _ => Nat.zero_le b.hour, ?_⟩
    rw [List.pairwise_map]
    exact List.pairwise_le_range
  have hfirst : hourBucket starts 0 ∈ (List.range 24).map (hourBucket starts) :=
    List.mem_map_of_mem (List.mem_range.mpr (by decide))
  obtain ⟨hmem, hfullest, hearliest⟩ := peakOf_isPeak hsorted
  refine ⟨?_, (List.forall_mem_cons.mp hfullest).2, (List.forall_mem_cons.mp hearliest).2⟩
  obtain heq | hmem := List.mem_cons.mp hmem
  · rwa [heq]
  · exact hmem

/-! ## Days -/

/-- The numbers of the seven days up to one. -/
def weekOf (today : Nat) : List Nat := (List.range 7).map fun i => today - (6 - i)

theorem mem_weekOf {today n : Nat} (htoday : 6 ≤ today) : n ∈ weekOf today ↔ today - 6 ≤ n ∧ n ≤ today := by
  simp only [weekOf, List.mem_map, List.mem_range]
  constructor
  · rintro ⟨i, hi, rfl⟩
    omega
  · rintro ⟨hleast, hmost⟩
    exact ⟨n + 6 - today, by omega, by omega⟩

theorem nodup_weekOf {today : Nat} (htoday : 6 ≤ today) : (weekOf today).Nodup := by
  refine List.Nodup.map_on (fun i hi j hj heq => ?_) List.nodup_range
  rw [List.mem_range] at hi hj
  omega

/-- The days of a week add up to the runs of the week. -/
theorem sum_week {today : Nat} (htoday : 6 ≤ today) (starts : List Moment) :
    ((weekOf today).map fun n => starts.countP fun s => s.dayNumber == n).sum =
      starts.countP fun s => today - 6 ≤ s.dayNumber && s.dayNumber ≤ today := by
  rw [sum_countP Moment.dayNumber (nodup_weekOf htoday)]
  refine List.countP_congr fun s _ => ?_
  rw [List.contains_iff_mem, mem_weekOf htoday, Bool.and_eq_true, decide_eq_true_iff, decide_eq_true_iff]

/-! ## Types -/

/-- The step starts the workflow by a trigger of the type. -/
def isTrigger (t : TriggerType) (s : Step) : Bool :=
  match s.body with
  | .trigger c => c.triggerType == t.word
  | _ => false

/-- The types that a workflow declares, of those that are known. -/
def knownTypes (w : Workflow) : List TriggerType :=
  (TriggerType.members.map (·.2)).filter fun t => w.steps.any (isTrigger t)

theorem declaredTriggers_eq_zero_iff {w : Workflow} {t : TriggerType} :
    declaredTriggers w t = 0 ↔ ∀ s ∈ w.steps, isTrigger t s ≠ true := List.countP_eq_zero

theorem mem_members (t : TriggerType) : t ∈ TriggerType.members.map (·.2) := by
  cases t <;> decide

theorem mem_knownTypes {w : Workflow} {t : TriggerType} : t ∈ knownTypes w ↔ declaredTriggers w t ≠ 0 := by
  rw [knownTypes, List.mem_filter, List.any_eq_true, Ne, declaredTriggers_eq_zero_iff]
  have hknown := mem_members t
  constructor
  · rintro ⟨-, s, hs, htrigger⟩ hnone
    exact hnone s hs htrigger
  · intro hsome
    push Not at hsome
    exact ⟨hknown, hsome⟩

/-- What each of the declared types has, and the others have not, adds up to so many times that. -/
theorem sum_types (w : Workflow) (n : Nat) :
    ((TriggerType.members.map (·.2)).map fun t => if declaredTriggers w t = 0 then 0 else n).foldr (· + ·) 0 =
      n * (knownTypes w).length := by
  unfold knownTypes
  induction TriggerType.members.map (·.2) with
  | nil => rfl
  | cons t ts ih =>
    have hdeclared : declaredTriggers w t = 0 ↔ w.steps.any (isTrigger t) = false := by
      rw [declaredTriggers_eq_zero_iff, List.any_eq_false]
    rw [List.map_cons, List.foldr_cons, ih, List.filter_cons]
    cases h : w.steps.any (isTrigger t) with
    | false => rw [if_pos (hdeclared.mpr h), if_neg (by decide), Nat.zero_add]
    | true =>
      have hsome : declaredTriggers w t ≠ 0 := fun hnone => by rw [hdeclared.mp hnone] at h; cases h
      rw [if_neg hsome, if_pos rfl, List.length_cons, Nat.mul_succ, Nat.add_comm]

/-! ## Durations -/

/-- The local time lies in the calendar, and is less than a day from coordinated time. -/
structure InCalendar (m : Moment) : Prop where
  wall : Moment.inRange m.wall = true
  near : (m.wall - m.instant).natAbs < 86400000000

instance (m : Moment) : Decidable (InCalendar m) :=
  decidable_of_iff (Moment.inRange m.wall = true ∧ (m.wall - m.instant).natAbs < 86400000000)
    ⟨fun h => ⟨h.1, h.2⟩, fun h => ⟨h.wall, h.near⟩⟩

/-- No span between two moments of the calendar has more than sixty bits. -/
theorem since_lt {a b : Moment} (ha : InCalendar a) (hb : InCalendar b) : (Moment.since a b).natAbs < 2 ^ 60 := by
  obtain ⟨hwallA, hnearA⟩ := ha
  obtain ⟨hwallB, hnearB⟩ := hb
  unfold Moment.inRange at hwallA hwallB
  rw [Bool.and_eq_true, decide_eq_true_iff, decide_eq_true_iff] at hwallA hwallB
  unfold lastDay day second at hwallA hwallB
  unfold Moment.since
  split <;> omega

/-- A span of the calendar has a number of milliseconds. -/
theorem millisOf_eq_ok {micros : Int} (h : micros.natAbs < 2 ^ 60) :
    ∃ ms, Run.millisOf micros = .ok ms ∧ ms.natAbs < 2 ^ 57 := by
  have hbelow : micros.natAbs < 2 ^ 41 * 1000000 := by omega
  have hseconds := Decimal.upTo_quotient (by decide) hbelow (by decide)
  have hthousand : Decimal.UpTo .positive (-43) (1000 : Float).toModel.unpack := by
    have hunpack : (1000 : Float).toModel.unpack = .finite .positive 8796093022208000 (-43) (by decide) := by rfl
    rw [hunpack]
    exact ⟨rfl, Int.le_refl _⟩
  have hproduct : Decimal.UpTo (Decimal.signOf (micros < 0) * .positive) 3
      (quotient micros 1000000 * 1000).toModel.unpack :=
    Decimal.UpTo.mul hseconds hthousand (by decide) (by decide) (by decide)
  obtain ⟨ms, hms, hmost, -⟩ := Decimal.UpTo.wholeBy hproduct Nat.zero_div fun n d => Nat.le_succ (n / d)
  refine ⟨ms, ?_, hmost⟩
  unfold Run.millisOf truncateWhole Decimal.truncate
  rw [hms]
  rfl

section Durations

variable {runs : List Run}

theorem durationMs_eq_ok {r : Run} (hr : InCalendar r.startedAt ∧ InCalendar r.completedAt)
    (hcomparable : Moment.comparable r.completedAt r.startedAt = true) :
    ∃ ms, r.durationMs = .ok ms ∧ ms.natAbs < 2 ^ 57 := by
  unfold Run.durationMs
  rw [if_pos hcomparable]
  exact millisOf_eq_ok (since_lt hr.2 hr.1)

theorem comparable_of_durationMs {r : Run} {ms : Int} (h : r.durationMs = .ok ms) :
    Moment.comparable r.completedAt r.startedAt = true := by
  unfold Run.durationMs at h
  split at h
  · assumption
  · cases h

theorem natAbs_sum_le {ns : List Int} {most : Nat} (h : ∀ n ∈ ns, n.natAbs ≤ most) :
    (ns.foldr (· + ·) 0).natAbs ≤ most * ns.length := by
  induction ns with
  | nil => exact Nat.zero_le _
  | cons n ns ih =>
    obtain ⟨hn, hns⟩ := List.forall_mem_cons.mp h
    have hrest := ih hns
    rw [List.foldr_cons, List.length_cons, Nat.mul_succ]
    omega

theorem meanResponse_eq (h : runs ≠ []) : meanResponse runs =
    (runs.mapM Run.durationMs).bind fun durations => meanSeconds (durations.foldr (· + ·) 0) runs.length := by
  unfold meanResponse
  rw [if_neg (by rwa [List.isEmpty_iff])]
  rfl

/-- There is a mean duration just if each run ended by a clock that compares with the one it started by. -/
theorem exists_meanResponse_iff (hruns : ∀ r ∈ runs, InCalendar r.startedAt ∧ InCalendar r.completedAt) :
    (∃ mean, meanResponse runs = .ok mean) ↔
      ∀ r ∈ runs, Moment.comparable r.completedAt r.startedAt = true := by
  by_cases hempty : runs = []
  · subst hempty
    exact ⟨fun _ => List.forall_mem_nil _, fun _ => ⟨0, rfl⟩⟩
  rw [meanResponse_eq hempty]
  constructor
  · rintro ⟨mean, hmean⟩ r hr
    cases hdurations : runs.mapM Run.durationMs with
    | error f =>
      rw [hdurations] at hmean
      cases hmean
    | ok durations =>
      obtain ⟨ms, hms⟩ := exists_mapM_iff.mp ⟨durations, hdurations⟩ r hr
      exact comparable_of_durationMs hms
  · intro hcomparable
    have hdefined : ∀ r ∈ runs, ∃ ms, r.durationMs = .ok ms ∧ ms.natAbs < 2 ^ 57 := fun r hr =>
      durationMs_eq_ok (hruns r hr) (hcomparable r hr)
    obtain ⟨durations, hdurations⟩ := exists_mapM_iff.mpr fun r hr => (hdefined r hr).imp fun _ h => h.1
    have hsmall : ∀ ms ∈ durations, ms.natAbs ≤ 2 ^ 57 := by
      intro ms hms
      obtain ⟨r, hr, hof⟩ := exists_of_mem_mapM hdurations hms
      obtain ⟨ms', hms', hlt⟩ := hdefined r hr
      rw [hof] at hms'
      cases hms'
      exact hlt.le
    have hlength : durations.length = runs.length := (mapM_eq_ok_iff.mp hdurations).length_eq.symm
    have hcount : runs.length ≠ 0 := fun hzero => hempty (List.length_eq_zero_iff.mp hzero)
    have hsum := natAbs_sum_le hsmall
    have htotal : (durations.foldr (· + ·) 0).natAbs < 2 ^ 58 * runs.length := by
      rw [hlength] at hsum
      omega
    rw [hdurations]
    change ∃ mean, meanSeconds (durations.foldr (· + ·) 0) runs.length = .ok mean
    unfold meanSeconds
    rw [Decimal.dividedBy_eq_ok hcount htotal (by decide)]
    exact ⟨_, rfl⟩

/-- Runs in another order have the same mean duration. -/
theorem meanResponse_perm {runs' : List Run} {mean : Float} (h : meanResponse runs = .ok mean)
    (hperm : runs'.Perm runs) : meanResponse runs' = .ok mean := by
  by_cases hempty : runs = []
  · subst hempty
    rwa [hperm.eq_nil]
  have hempty' : runs' ≠ [] := fun hnil => hempty (List.nil_perm.mp (hnil ▸ hperm))
  rw [meanResponse_eq hempty] at h
  rw [meanResponse_eq hempty']
  cases hdurations : runs.mapM Run.durationMs with
  | error f =>
    rw [hdurations] at h
    cases h
  | ok durations =>
    obtain ⟨durations', hdurations', hsame⟩ := exists_mapM_of_perm hdurations hperm
    have hsum : durations'.foldr (· + ·) 0 = durations.foldr (· + ·) 0 := hsame.sum_eq
    rw [hdurations] at h
    rw [hdurations', hperm.length_eq]
    change meanSeconds (durations'.foldr (· + ·) 0) runs.length = .ok mean
    rw [hsum]
    exact h

end Durations

/-! ## The view -/

/-- The moments that a view is made of have readings in the zone, and the runs have durations. -/
structure HasView (runs : List Run) (zone : Zone) (now : Moment) : Prop where
  now : ∃ here, now.seenIn zone = .ok here ∧ 6 ≤ here.dayNumber
  starts : ∀ r ∈ runs, ∃ s, r.startedAt.seenIn zone = .ok s
  durations : ∀ r ∈ runs, Moment.comparable r.completedAt r.startedAt = true

/-- The view of a workflow from its runs, their mean duration, their local starts and the local day. -/
def viewOf (w : Workflow) (runs : List Run) (mean : Float) (starts : List Moment) (today : Nat) :
    TriggerReport :=
  let types := (TriggerType.members.map (·.2)).map (triggerMetric w runs mean)
  let hours := (List.range 24).map (hourBucket starts)
  let totalFired := (types.map TriggerMetric.fired).foldr (· + ·) 0
  let totalConverted := (types.map TriggerMetric.converted).foldr (· + ·) 0
  { types, hours, totalFired, totalConverted
    week := (weekOf today).map (dayBucket starts)
    peak := peakOf (hourBucket starts 0) hours
    overallConversion := percent totalConverted totalFired }

theorem lastDays_eq_ok_iff {now : Moment} {days : List Nat} :
    lastDays now = .ok days ↔ 6 ≤ now.dayNumber ∧ days = weekOf now.dayNumber := by
  unfold lastDays
  split
  · rename_i hearly
    exact ⟨fun h => (nomatch h), fun h => absurd h.1 (Nat.not_le.mpr hearly)⟩
  · rename_i hlate
    exact ⟨fun h => ⟨Nat.le_of_not_lt hlate, (Except.ok.inj h).symm⟩, fun h => congrArg Except.ok h.2.symm⟩

section View

variable {w : Workflow} {runs : List Run} {zone : Zone} {now : Moment} {report : TriggerReport}

theorem triggerReport_eq_ok_iff : triggerReport w runs zone now = .ok report ↔
    ∃ here, now.seenIn zone = .ok here ∧ ∃ mean, meanResponse (runsOf w runs) = .ok mean ∧
      ∃ starts, (runsOf w runs).mapM (fun r : Run => r.startedAt.seenIn zone) = .ok starts ∧
        6 ≤ here.dayNumber ∧ viewOf w (runsOf w runs) mean starts here.dayNumber = report := by
  have hbind : triggerReport w runs zone now =
      (now.seenIn zone).bind fun here => (meanResponse (runsOf w runs)).bind fun mean =>
        ((runsOf w runs).mapM fun r : Run => r.startedAt.seenIn zone).bind fun starts =>
          (lastDays here).bind fun days =>
            .ok { viewOf w (runsOf w runs) mean starts here.dayNumber with week := days.map (dayBucket starts) } :=
    rfl
  simp only [hbind, bind_eq_ok_iff, lastDays_eq_ok_iff, Except.ok.injEq]
  constructor
  · rintro ⟨here, hhere, mean, hmean, starts, hstarts, days, ⟨hdays, rfl⟩, hreport⟩
    exact ⟨here, hhere, mean, hmean, starts, hstarts, hdays, hreport⟩
  · rintro ⟨here, hhere, mean, hmean, starts, hstarts, hdays, hreport⟩
    exact ⟨here, hhere, mean, hmean, starts, hstarts, _, ⟨hdays, rfl⟩, hreport⟩

/-- There is a view just if all that it is made of can be read. -/
theorem exists_triggerReport_iff
    (hruns : ∀ r ∈ runsOf w runs, InCalendar r.startedAt ∧ InCalendar r.completedAt) :
    (∃ report, triggerReport w runs zone now = .ok report) ↔ HasView (runsOf w runs) zone now := by
  simp only [triggerReport_eq_ok_iff]
  constructor
  · rintro ⟨report, here, hhere, mean, hmean, starts, hstarts, hdays, -⟩
    have hdurations := (exists_meanResponse_iff hruns).mp ⟨mean, hmean⟩
    exact ⟨⟨here, hhere, hdays⟩, exists_mapM_iff.mp ⟨starts, hstarts⟩, hdurations⟩
  · rintro ⟨⟨here, hhere, hdays⟩, hstarts, hdurations⟩
    obtain ⟨starts, hstarts⟩ := exists_mapM_iff.mpr hstarts
    obtain ⟨mean, hmean⟩ := (exists_meanResponse_iff hruns).mpr hdurations
    exact ⟨_, here, hhere, mean, hmean, starts, hstarts, hdays, rfl⟩

end View

/-- The view counts each of the runs once, by their local starts. -/
structure TriggerReport.Conserves (report : TriggerReport) (w : Workflow) (runs : List Run)
    (starts : List Moment) (today : Nat) : Prop where
  hours : report.hours.map (·.hour) = List.range 24
  perHour : report.hours.map (·.triggers) = (List.range 24).map fun h => starts.countP fun s => s.hour == h
  allHours : (report.hours.map (·.triggers)).sum = runs.length
  peak : IsPeak report.hours report.peak
  /-- the seven days up to the local day -/
  dates : report.week.map (·.date) = (weekOf today).map fun n => (Date.ofNumber n).iso
  perDay : report.week.map (·.count) = (weekOf today).map fun n => starts.countP fun s => s.dayNumber == n
  allDays : (report.week.map (·.count)).sum =
    starts.countP fun s => today - 6 ≤ s.dayNumber && s.dayNumber ≤ today
  types : report.types.map (·.type) = TriggerType.members.map (·.2)
  /-- a type that is declared counts all runs, and another none -/
  perType : ∀ t ∈ report.types, t.fired = (if t.type ∈ knownTypes w then runs.length else 0) ∧
    t.converted = (if t.type ∈ knownTypes w then successes runs else 0) ∧ t.converted ≤ t.fired
  totalFired : report.totalFired = runs.length * (knownTypes w).length
  totalConverted : report.totalConverted = successes runs * (knownTypes w).length

theorem successes_le (runs : List Run) : successes runs ≤ runs.length := List.countP_le_length

theorem viewOf_conserves (w : Workflow) {runs : List Run} (mean : Float) {starts : List Moment} {today : Nat}
    (hlength : starts.length = runs.length) (htoday : 6 ≤ today) :
    (viewOf w runs mean starts today).Conserves w runs starts today := by
  have hperHour : (viewOf w runs mean starts today).hours.map (·.triggers) =
      (List.range 24).map fun h => starts.countP fun s => s.hour == h := List.map_map
  have hperDay : (viewOf w runs mean starts today).week.map (·.count) =
      (weekOf today).map fun n => starts.countP fun s => s.dayNumber == n := List.map_map
  have htypes : ∀ t ∈ (viewOf w runs mean starts today).types, ∃ type, triggerMetric w runs mean type = t :=
    fun t ht => (List.mem_map.mp ht).imp fun _ h => h.2
  refine ⟨?_, hperHour, ?_, peak_isPeak starts, List.map_map, hperDay, ?_, ?_, ?_, ?_, ?_⟩
  · exact List.map_map.trans (List.map_id _)
  · rw [hperHour, sum_hours, hlength]
  · rw [hperDay, sum_week htoday]
  · exact List.map_map.trans (List.map_id _)
  · intro t ht
    obtain ⟨type, rfl⟩ := htypes t ht
    have hle := successes_le runs
    unfold triggerMetric
    dsimp only
    simp only [mem_knownTypes, Ne, ite_not, true_and]
    split <;> omega
  · rw [← sum_types]
    exact congrArg (List.foldr (· + ·) 0) List.map_map
  · rw [← sum_types]
    exact congrArg (List.foldr (· + ·) 0) List.map_map

theorem viewOf_perm (w : Workflow) {runs runs' : List Run} (mean : Float) {starts starts' : List Moment}
    (today : Nat) (hruns : runs'.Perm runs) (hstarts : starts'.Perm starts) :
    viewOf w runs' mean starts' today = viewOf w runs mean starts today := by
  have hsuccesses : successes runs' = successes runs := hruns.countP_eq _
  have hmetric : triggerMetric w runs' mean = triggerMetric w runs mean := by
    funext t
    unfold triggerMetric
    rw [hruns.length_eq, hsuccesses]
  have hhour : hourBucket starts' = hourBucket starts := by
    funext h
    unfold hourBucket
    rw [hstarts.countP_eq]
  have hday : dayBucket starts' = dayBucket starts := by
    funext n
    unfold dayBucket
    rw [hstarts.countP_eq]
  unfold viewOf
  rw [hmetric, hhour, hday]

/-- Runs in another order have the same view. -/
theorem triggerReport_perm {w : Workflow} {runs runs' : List Run} {zone : Zone} {now : Moment}
    {report : TriggerReport} (h : triggerReport w runs zone now = .ok report) (hperm : runs'.Perm runs) :
    triggerReport w runs' zone now = .ok report := by
  obtain ⟨here, hhere, mean, hmean, starts, hstarts, hdays, rfl⟩ := triggerReport_eq_ok_iff.mp h
  have hof : (runsOf w runs').Perm (runsOf w runs) := hperm.filter _
  obtain ⟨starts', hstarts', hsame⟩ := exists_mapM_of_perm hstarts hof
  exact triggerReport_eq_ok_iff.mpr
    ⟨here, hhere, mean, meanResponse_perm hmean hof, starts', hstarts', hdays, viewOf_perm w mean _ hof hsame⟩

/-- A workflow that new leads enter. -/
def nurture : Workflow where
  id := "wf-1"
  name := "Nurture"
  description := ""
  status := .active
  steps := [⟨"t1", "New lead", "", .trigger ⟨"lead_created", .int 0⟩⟩]
  createdAt := ⟨0, none, false⟩
  stats := Stats.zero
  ownerId := none
  teamId := none

/-- The time in London. -/
def londonTime : Zone := london.getD .utc

/-- A run before the clocks go back in London, one an hour after it, and one of another workflow. -/
def nightRuns : List Run :=
  [runAt (.ofInstant 63928485000000000) "a" 0,
    { runAt (.ofInstant 63928486000000000) "b" 0 with workflowId := "wf-2" },
    runAt (.ofInstant 63928488600000000) "c" 0]

end LeadFlow.Analytics
