import LeadFlow.Program.Course
import LeadFlow.Proofs.Decimal.Fraction

set_option autoImplicit false

/-!
# Programs: limits in exact time

Time is read in exact numbers here, those of any ordered group.  A run moves time forward and makes its
calls on the way.  With a limit it ends within the limit, or is cut just where the limit is used up;
and what it has called by then is what it would have called without a limit, as far as it got.

Main statements: `run_advances`, `run_cut`, and `runWithin_cut` for a limit of any sign.
-/

namespace LeadFlow

/-! ## Courses in time -/

namespace Course

variable {I : Interface} {τ σ : Type} [Preorder τ]

/-- Time has not gone back from one course to the other, and all calls between them were made
between their times. -/
structure Advances (c c' : Course I τ σ) : Prop where
  time : c.time ≤ c'.time
  calls : ∃ made, c'.calls = c.calls ++ made ∧ ∀ x ∈ made, c.time ≤ x.1 ∧ x.1 ≤ c'.time

namespace Advances

variable {c c₁ c₂ : Course I τ σ}

theorem refl (c : Course I τ σ) : c.Advances c := ⟨le_rfl, [], by simp, by simp⟩

theorem trans (h₁ : c.Advances c₁) (h₂ : c₁.Advances c₂) : c.Advances c₂ := by
  obtain ⟨htime₁, made₁, hcalls₁, hmade₁⟩ := h₁
  obtain ⟨htime₂, made₂, hcalls₂, hmade₂⟩ := h₂
  refine ⟨htime₁.trans htime₂, made₁ ++ made₂, by rw [hcalls₂, hcalls₁, List.append_assoc], fun x hx => ?_⟩
  obtain hx | hx := List.mem_append.mp hx
  · exact ⟨(hmade₁ x hx).1, (hmade₁ x hx).2.trans htime₂⟩
  · exact ⟨htime₁.trans (hmade₂ x hx).1, (hmade₂ x hx).2⟩

/-- Waiting from one time to a later one. -/
theorem waiting (c : Course I τ σ) {t : τ} (h : c.time ≤ t) : c.Advances { c with time := t } :=
  ⟨h, [], by simp, by simp⟩

/-- A call that takes up to a later time. -/
theorem noting (c : Course I τ σ) (call : I.Call) (world : σ) {t : τ} (h : c.time ≤ t) :
    c.Advances { c.noting call world with time := t } :=
  ⟨h, [(c.time, call)], rfl, by simpa using h⟩

end Advances

end Course

/-! ## Exact numbers -/

/-- A line of time that reckons without rounding. -/
class ExactTimeline (τ : Type) [Timeline τ] [AddCommGroup τ] [LinearOrder τ] : Prop
    extends IsOrderedAddMonoid τ where
  zero_eq : (Timeline.zero : τ) = 0
  add_eq (a b : τ) : Timeline.add a b = a + b
  sub_eq (a b : τ) : Timeline.sub a b = a - b
  le_eq (a b : τ) : Timeline.le a b = decide (a ≤ b)
  lt_eq (a b : τ) : Timeline.lt a b = decide (a < b)

/-- Seconds as fractions. -/
instance : Timeline ℚ where
  ofSeconds := Decimal.fraction
  add := (· + ·)
  sub := (· - ·)
  le a b := decide (a ≤ b)
  lt a b := decide (a < b)
  millis d := (d * 1000).num.tdiv (d * 1000).den
  micros d := Decimal.roundEven (d * 1000000)

instance : ExactTimeline ℚ where
  zero_eq := by decide +kernel
  add_eq _ _ := rfl
  sub_eq _ _ := rfl
  le_eq _ _ := rfl
  lt_eq _ _ := rfl

attribute [simp] ExactTimeline.zero_eq ExactTimeline.add_eq ExactTimeline.sub_eq ExactTimeline.le_eq
  ExactTimeline.lt_eq

variable {τ : Type} [Timeline τ] [AddCommGroup τ] [LinearOrder τ] [ExactTimeline τ]

namespace Timeline

variable {stop : Option τ} {time wait t : τ}

/-- Without a stop any wait comes to an end. -/
theorem after_none (time wait : τ) : after none time wait = some (time + max wait 0) := by
  unfold after
  by_cases hwait : wait ≤ 0
  · simp [hwait]
  · simp [not_le.mp hwait, (not_le.mp hwait).le]

/-- A wait that is not cut off takes its time, and ends before the stop if it takes any. -/
theorem after_eq_some (h : after stop time wait = some t) :
    t = time + max wait 0 ∧ ∀ s ∈ stop, time ≤ s → t ≤ s := by
  cases stop with
  | none =>
    rw [after_none] at h
    exact ⟨(Option.some.inj h).symm, by simp⟩
  | some s =>
    unfold after at h
    by_cases hwait : wait ≤ 0
    · obtain rfl : time = t := by simpa [hwait] using h
      simp [hwait]
    · obtain ⟨hin, rfl⟩ : time + wait ≤ s ∧ time + wait = t := by simpa [hwait] using h
      simp [hin, (not_le.mp hwait).le]

/-- A wait that is cut off would have ended beyond the stop. -/
theorem after_eq_none {s : τ} (h : after (some s) time wait = none) : s < time + max wait 0 := by
  unfold after at h
  by_cases hwait : wait ≤ 0
  · simp [hwait] at h
  · have hout : s < time + wait := by simpa [hwait] using h
    simpa [(not_le.mp hwait).le] using hout

theorem cutAt_some (s time : τ) : cutAt (some s) time = max time s := by
  unfold cutAt
  by_cases h : time ≤ s
  · simp [h]
  · simp [h, (not_le.mp h).le]

theorem le_cutAt (stop : Option τ) (time : τ) : time ≤ cutAt stop time := by
  cases stop with
  | none => exact le_rfl
  | some s =>
    rw [cutAt_some]
    exact le_max_left _ _

end Timeline

namespace Program

variable {I : Interface} {σ α : Type} {outside : Outside I τ σ}

/-! ## Runs -/

theorem le_of_after_eq_some {stop : Option τ} {time wait t : τ}
    (h : Timeline.after stop time wait = some t) : time ≤ t := by
  rw [(Timeline.after_eq_some h).1]
  exact le_add_of_nonneg_right (le_max_right _ _)

/-- A run moves time forward and makes its calls on the way, also one that is cut. -/
theorem run_advances (outside : Outside I τ σ) (stop : Option τ) (p : Program I α) (c : Course I τ σ) :
    c.Advances (p.run outside stop c).2 := by
  induction p generalizing c with
  | done a => exact .refl c
  | fail f => exact .refl c
  | now next ih => exact ih c.now c
  | pause s next ih =>
    simp only [run]
    split
    · rename_i t ht
      exact (Course.Advances.waiting c (le_of_after_eq_some ht)).trans (ih _)
    · exact .waiting c (Timeline.le_cutAt _ _)
  | call k next ih =>
    simp only [run]
    split
    · rename_i t ht
      exact (Course.Advances.noting c k _ (le_of_after_eq_some ht)).trans (ih _ _)
    · exact .noting c k _ (Timeline.le_cutAt _ _)

/-- A run that starts before its stop does not go beyond it. -/
theorem run_time_le {s : τ} (p : Program I α) {c : Course I τ σ} (hc : c.time ≤ s) :
    (p.run outside (some s) c).2.time ≤ s := by
  induction p generalizing c with
  | done a => exact hc
  | fail f => exact hc
  | now next ih => exact ih c.now hc
  | pause seconds next ih =>
    simp only [run]
    split
    · rename_i t ht
      exact ih ((Timeline.after_eq_some ht).2 s rfl hc)
    · simp [Timeline.cutAt_some, hc]
  | call k next ih =>
    simp only [run]
    split
    · rename_i t ht
      exact ih _ ((Timeline.after_eq_some ht).2 s rfl hc)
    · simp [Timeline.cutAt_some, hc]

/-- A run that is cut is cut at its stop.  Without the stop it would have made the same calls up to there,
and its other calls later. -/
theorem run_cut {s : τ} {p : Program I α} {c c' : Course I τ σ} (hc : c.time ≤ s)
    (h : p.run outside (some s) c = (.cut, c')) :
    c'.time = s ∧ ∃ later, (p.run outside none c).2.calls = c'.calls ++ later ∧ ∀ x ∈ later, s < x.1 := by
  induction p generalizing c with
  | done a => simp [run] at h
  | fail f => simp [run] at h
  | now next ih => exact ih c.now hc h
  | pause seconds next ih =>
    simp only [run] at h ⊢
    rw [Timeline.after_none]
    split at h
    · rename_i t ht
      obtain ⟨rfl, hin⟩ := Timeline.after_eq_some ht
      exact ih (hin s rfl hc) h
    · rename_i hnone
      obtain rfl := (Prod.mk.inj h).2
      refine ⟨by simp [Timeline.cutAt_some, hc], ?_⟩
      -- without the stop the wait would come to its end, and all the rest happen behind it
      obtain ⟨-, made, hcalls, hmade⟩ := run_advances outside none next
        { c with time := c.time + max (Timeline.ofSeconds seconds) 0 }
      exact ⟨made, hcalls, fun x hx => (Timeline.after_eq_none hnone).trans_le (hmade x hx).1⟩
  | call k next ih =>
    simp only [run] at h ⊢
    rw [Timeline.after_none]
    split at h
    · rename_i t ht
      obtain ⟨rfl, hin⟩ := Timeline.after_eq_some ht
      exact ih _ (hin s rfl hc) h
    · rename_i hnone
      obtain rfl := (Prod.mk.inj h).2
      refine ⟨by simp [Timeline.cutAt_some, hc], ?_⟩
      obtain ⟨-, made, hcalls, hmade⟩ := run_advances outside none
        (next (outside c.now k c.world).outcome)
        { c.noting k (outside c.now k c.world).world with
          time := c.time + max (outside c.now k c.world).delay 0 }
      exact ⟨made, hcalls, fun x hx => (Timeline.after_eq_none hnone).trans_le (hmade x hx).1⟩

/-! ## Limits of any sign -/

variable {limit : τ} {c : Course I τ σ}

theorem runWithin_of_nonpos (h : limit ≤ 0) (p : Program I α) (c : Course I τ σ) :
    p.runWithin outside limit c = (.cut, c) := by
  unfold runWithin
  simp [h]

theorem runWithin_of_pos (h : 0 < limit) (p : Program I α) (c : Course I τ σ) :
    p.runWithin outside limit c = p.run outside (some (c.time + limit)) c := by
  unfold runWithin
  simp [h]

theorem runWithin_advances (outside : Outside I τ σ) (limit : τ) (p : Program I α) (c : Course I τ σ) :
    c.Advances (p.runWithin outside limit c).2 := by
  unfold runWithin
  split
  · exact .refl c
  · exact run_advances outside _ p c

/-- Nothing takes longer than its limit. -/
theorem runWithin_time_le (outside : Outside I τ σ) (limit : τ) (p : Program I α) (c : Course I τ σ) :
    (p.runWithin outside limit c).2.time ≤ c.time + max limit 0 := by
  obtain hlimit | hlimit := le_or_gt limit 0
  · rw [runWithin_of_nonpos hlimit, max_eq_right hlimit, add_zero]
  · rw [runWithin_of_pos hlimit, max_eq_left hlimit.le]
    exact run_time_le p (le_add_of_nonneg_right hlimit.le)

/-- What is cut has used its limit up, and the calls that it has not made by then would not have come
any earlier. -/
theorem runWithin_cut {p : Program I α} {c' : Course I τ σ}
    (h : p.runWithin outside limit c = (.cut, c')) :
    c'.time = c.time + max limit 0 ∧
      ∃ later, (p.run outside none c).2.calls = c'.calls ++ later ∧ ∀ x ∈ later, c'.time ≤ x.1 := by
  obtain hlimit | hlimit := le_or_gt limit 0
  · rw [runWithin_of_nonpos hlimit] at h
    obtain rfl := (Prod.mk.inj h).2
    obtain ⟨-, made, hcalls, hmade⟩ := run_advances outside none p c
    exact ⟨by rw [max_eq_right hlimit, add_zero], made, hcalls, fun x hx => (hmade x hx).1⟩
  · rw [runWithin_of_pos hlimit] at h
    obtain ⟨htime, later, hcalls, hlater⟩ := run_cut (le_add_of_nonneg_right hlimit.le) h
    rw [max_eq_left hlimit.le]
    exact ⟨htime, later, hcalls, fun x hx => htime.le.trans (hlater x hx).le⟩

end Program

end LeadFlow
