import LeadFlow.Analytics.Order
import Mathlib.Data.List.Pairwise

set_option autoImplicit false

/-!
# Analytics: runs in order

Projections read the runs latest first.  Starts can be brought into that order if they compare as places on
a line do: all in one zone, or all at fixed offsets.  Runs that started together keep the order in which they
were given, and without such runs the order does not depend on how they were given.

Main statements: `newestFirst_inOrder` and `newestFirst_perm`.
-/

namespace LeadFlow.Analytics

open Calendar

/-- Runs whose starts compare as places on a line. -/
structure Chronological (runs : List Run) : Prop where
  comparable : ∀ a ∈ runs, ∀ b ∈ runs, Moment.comparable a.startedAt b.startedAt = true
  line : ∃ place : Moment → Int, ∀ a ∈ runs, ∀ b ∈ runs,
    Moment.lt a.startedAt b.startedAt = decide (place a.startedAt < place b.startedAt)

/-- Neither run started before the other. -/
def areTogether (a b : Run) : Bool :=
  !Moment.lt a.startedAt b.startedAt && !Moment.lt b.startedAt a.startedAt

/-- The runs latest first, those that started together in the order given. -/
structure InOrder (runs sorted : List Run) : Prop where
  perm : sorted.Perm runs
  latest : sorted.Pairwise fun a b => Moment.lt a.startedAt b.startedAt = false
  ties : ∀ r ∈ runs, sorted.filter (areTogether r) = runs.filter (areTogether r)

/-- No two of the runs started together. -/
def AreApart (runs : List Run) : Prop := runs.Pairwise fun a b => areTogether a b = false

namespace Chronological

variable {runs : List Run}

/-- Moments of one zone compare by the local clock. -/
theorem of_oneZone {zone : Option Zone} (h : ∀ r ∈ runs, r.startedAt.zone = zone) : Chronological runs := by
  refine ⟨fun a ha b hb => ?_, Moment.wall, fun a ha b hb => ?_⟩
  · rw [Moment.comparable, h a ha, h b hb, beq_self_eq_true]
  · rw [Moment.lt, h a ha, h b hb, if_pos rfl]

/-- Moments at fixed offsets compare by their instants. -/
theorem of_fixed (h : ∀ r ∈ runs, ∃ offset, r.startedAt.zone = some (.fixed offset)) :
    Chronological runs := by
  have hinstant : ∀ r ∈ runs, ∃ offset, r.startedAt.zone = some (.fixed offset) ∧
      r.startedAt.instant = r.startedAt.wall - offset := by
    intro r hr
    obtain ⟨offset, hoffset⟩ := h r hr
    refine ⟨offset, hoffset, ?_⟩
    simp only [Moment.instant, Moment.instant?, Moment.offset?, hoffset]
    rfl
  refine ⟨fun a ha b hb => ?_, Moment.instant, fun a ha b hb => ?_⟩
  · obtain ⟨oa, ha', -⟩ := hinstant a ha
    obtain ⟨ob, hb', -⟩ := hinstant b hb
    rw [Moment.comparable, ha', hb']
    rfl
  · obtain ⟨oa, ha', ha⟩ := hinstant a ha
    obtain ⟨ob, hb', hb⟩ := hinstant b hb
    unfold Moment.lt
    split
    · rename_i hzone
      rw [ha', hb'] at hzone
      obtain rfl : oa = ob := by simpa using hzone
      rw [ha, hb]
      exact decide_eq_decide.mpr (by omega)
    · rfl

theorem perm {runs' : List Run} (h : Chronological runs) (hperm : runs'.Perm runs) : Chronological runs' := by
  obtain ⟨hcomparable, place, hplace⟩ := h
  exact ⟨fun a ha b hb => hcomparable a (hperm.mem_iff.mp ha) b (hperm.mem_iff.mp hb), place,
    fun a ha b hb => hplace a (hperm.mem_iff.mp ha) b (hperm.mem_iff.mp hb)⟩

theorem areComparable (h : Chronological runs) : areComparable runs = true := by
  cases runs with
  | nil => rfl
  | cons r rs =>
    exact List.all_eq_true.mpr fun s hs => h.comparable r List.mem_cons_self s (List.mem_cons_of_mem r hs)

end Chronological

/-! ## Sorting by a place -/

/-- A run started no earlier, by the places of the starts. -/
def noEarlierBy (place : Moment → Int) (a b : Run) : Bool := decide (place b.startedAt ≤ place a.startedAt)

section Places

variable {runs : List Run} {place : Moment → Int}

theorem noEarlierBy_trans (place : Moment → Int) (a b c : Run) (hab : noEarlierBy place a b = true)
    (hbc : noEarlierBy place b c = true) : noEarlierBy place a c = true := by
  simp only [noEarlierBy, decide_eq_true_eq] at *
  omega

theorem noEarlierBy_total (place : Moment → Int) (a b : Run) :
    (noEarlierBy place a b || noEarlierBy place b a) = true := by
  simp only [noEarlierBy, Bool.or_eq_true, decide_eq_true_eq]
  omega

/-- Starts on a line are sorted by their places. -/
theorem mergeSort_noEarlier (hplace : ∀ a ∈ runs, ∀ b ∈ runs,
    Moment.lt a.startedAt b.startedAt = decide (place a.startedAt < place b.startedAt)) :
    runs.mergeSort noEarlier = runs.mergeSort (noEarlierBy place) := by
  have hsame : ∀ a ∈ runs, ∀ b ∈ runs, noEarlier a b = noEarlierBy place (id a) (id b) := by
    intro a ha b hb
    rw [noEarlier, hplace a ha b hb, noEarlierBy, ← decide_not, id, id]
    exact decide_eq_decide.mpr (by omega)
  simpa using List.map_mergeSort hsame

/-- Runs that started together are at one place. -/
theorem areTogether_iff (hplace : ∀ a ∈ runs, ∀ b ∈ runs,
    Moment.lt a.startedAt b.startedAt = decide (place a.startedAt < place b.startedAt)) {a b : Run}
    (ha : a ∈ runs) (hb : b ∈ runs) : areTogether a b = true ↔ place a.startedAt = place b.startedAt := by
  rw [areTogether, hplace a ha b hb, hplace b hb a ha]
  simp only [Bool.and_eq_true, Bool.not_eq_true', decide_eq_false_iff_not]
  omega

end Places

/-! ## The order of runs -/

/-- Runs are put in order. -/
theorem newestFirst_inOrder {runs : List Run} (h : Chronological runs) :
    ∃ sorted, newestFirst runs = .ok sorted ∧ InOrder runs sorted := by
  obtain ⟨place, hplace⟩ := h.line
  refine ⟨runs.mergeSort (noEarlierBy place), ?_, ?_, ?_, fun r hr => ?_⟩
  · rw [newestFirst, h.areComparable, if_pos rfl, mergeSort_noEarlier hplace]
  · exact List.mergeSort_perm _ _
  · have hsorted := List.pairwise_mergeSort (noEarlierBy_trans place) (noEarlierBy_total place) runs
    refine hsorted.imp_of_mem fun {a b} ha hb hab => ?_
    rw [hplace a (List.mem_mergeSort.mp ha) b (List.mem_mergeSort.mp hb)]
    simp only [noEarlierBy, decide_eq_true_eq] at hab
    simpa using hab
  · -- sorting is stable: the runs at the place of `r` are a part that is sorted already
    have hplaces : ∀ a ∈ runs.filter (areTogether r), place r.startedAt = place a.startedAt := fun a ha =>
      (areTogether_iff hplace hr (List.mem_filter.mp ha).1).mp (List.mem_filter.mp ha).2
    have hsame : (runs.filter (areTogether r)).Pairwise fun a b => noEarlierBy place a b = true :=
      List.pairwise_of_forall_mem_list fun a ha b hb =>
        decide_eq_true (Int.le_of_eq ((hplaces b hb).symm.trans (hplaces a ha)))
    have hpart := (List.sublist_mergeSort (noEarlierBy_trans place) (noEarlierBy_total place) hsame
      List.filter_sublist).filter (areTogether r)
    simp only [List.filter_filter, Bool.and_self] at hpart
    exact (hpart.eq_of_length ((List.mergeSort_perm _ _).symm.filter _).length_eq).symm

theorem areTogether_comm (a b : Run) : areTogether a b = areTogether b a := Bool.and_comm _ _

/-- There is one order of runs that started apart. -/
theorem InOrder.unique {runs sorted sorted' : List Run} (hapart : AreApart runs) (h : InOrder runs sorted)
    (hperm : sorted'.Perm runs)
    (hlatest : sorted'.Pairwise fun a b => Moment.lt a.startedAt b.startedAt = false) : sorted' = sorted := by
  have : Std.Symm fun a b : Run => areTogether a b = false :=
    ⟨fun a b hab => (areTogether_comm b a).trans hab⟩
  refine List.Perm.eq_of_pairwise ?_ hlatest h.latest (hperm.trans h.perm.symm)
  intro a b ha hb hab hba
  by_contra hne
  have hdistinct : areTogether a b = false :=
    List.Pairwise.forall hapart (hperm.mem_iff.mp ha) (h.perm.mem_iff.mp hb) hne
  rw [areTogether, hab, hba] at hdistinct
  cases hdistinct

/-- The order of runs that started apart is the same, however they are given. -/
theorem newestFirst_perm {runs runs' : List Run} (h : Chronological runs) (hapart : AreApart runs)
    (hperm : runs'.Perm runs) : newestFirst runs' = newestFirst runs := by
  obtain ⟨sorted, hsorted, hinOrder⟩ := newestFirst_inOrder h
  obtain ⟨sorted', hsorted', hinOrder'⟩ := newestFirst_inOrder (h.perm hperm)
  rw [hsorted, hsorted', hinOrder.unique hapart (hinOrder'.perm.trans hperm) hinOrder'.latest]

end LeadFlow.Analytics
