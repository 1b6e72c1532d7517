import LeadFlow.Proofs.Program.Transcript

set_option autoImplicit false

/-!
# Programs: effects on the outside

What a run makes of the outside.  Work that makes only harmless calls keeps what is true of the
outside (`run_keeps`).  Where answers go by a part of the outside only, so does the whole run
(`run_viewed`).  Work that is meant to have an effect lands it: its good results are those
with the effect, and without one it leaves everything as it was (`Lands`).

Main statement: `lands_retriedFrom`, a call that lands its effect still does so when it is retried.
-/

namespace LeadFlow

/-- The course, with a view of its outside in place of it. -/
def Course.viewed {I : Interface} {τ σ : Type} (view : σ → σ) (c : Course I τ σ) : Course I τ σ :=
  { c with world := view c.world }

namespace Program

variable {I : Interface} {τ σ α β : Type}

/-! ## Harmless calls -/

section Keeping

variable [Timeline τ] {outside : Outside I τ σ} {P : I.Call → Prop} {inv : σ → Prop}

/-- What no answer to a call changes is still true after a run, also after one that was cut. -/
theorem run_keeps (hstep : ∀ now c world, P c → inv world → inv (outside now c world).world)
    (stop : Option τ) {p : Program I α} (hp : p.Asks P) (j : Course I τ σ) (hj : inv j.world) :
    inv (p.run outside stop j).2.world := by
  induction p generalizing j with
  | done a => exact hj
  | fail e => exact hj
  | now next ih => exact ih _ (hp _) j hj
  | pause s next ih =>
    simp only [run]
    split
    · exact ih hp.2 _ hj
    · exact hj
  | call c next ih =>
    have hworld := hstep j.now c j.world hp.1 hj
    simp only [run]
    split
    · exact ih _ (hp.2 _) _ hworld
    · exact hworld

theorem runWithin_keeps (hstep : ∀ now c world, P c → inv world → inv (outside now c world).world)
    (limit : τ) {p : Program I α} (hp : p.Asks P) (j : Course I τ σ) (hj : inv j.world) :
    inv (p.runWithin outside limit j).2.world := by
  unfold runWithin
  split
  · exact hj
  · exact run_keeps hstep _ hp j hj

end Keeping

/-! ## Views of the outside -/

section Viewing

variable [Timeline τ]

/-- Some calls are answered by a view of the outside, and what they make of the view goes by it too. -/
structure GoesBy (outside : Outside I τ σ) (view : σ → σ) (inv : σ → Prop) (P : I.Call → Prop) :
    Prop where
  answer : ∀ now c world, P c → inv world →
    outside now c (view world) =
      { outside now c world with world := view (outside now c world).world }
  keeps : ∀ now c world, P c → inv world → inv (outside now c world).world

variable {outside : Outside I τ σ} {view : σ → σ} {inv : σ → Prop} {P : I.Call → Prop}

/-- A run that makes such calls only goes by the view. -/
theorem run_viewed (h : GoesBy outside view inv P) (stop : Option τ) {p : Program I α} (hp : p.Asks P)
    (j : Course I τ σ) (hj : inv j.world) :
    p.run outside stop (j.viewed view) =
      ((p.run outside stop j).1, (p.run outside stop j).2.viewed view) := by
  induction p generalizing j with
  | done a => rfl
  | fail e => rfl
  | now next ih => exact ih _ (hp _) j hj
  | pause s next ih =>
    simp only [run]
    have htime : (j.viewed view).time = j.time := rfl
    rw [htime]
    split
    · rename_i t _
      exact ih hp.2 { j with time := t } hj
    · rfl
  | call c next ih =>
    have hanswer := h.answer j.now c j.world hp.1 hj
    have hworld := h.keeps j.now c j.world hp.1 hj
    have hviewed : outside (j.viewed view).now c (j.viewed view).world =
        { outside j.now c j.world with world := view (outside j.now c j.world).world } := hanswer
    have htime : (j.viewed view).time = j.time := rfl
    simp only [run]
    rw [hviewed, htime]
    dsimp only
    split
    · rename_i t _
      exact ih _ (hp.2 _) { j.noting c (outside j.now c j.world).world with time := t } hworld
    · rfl

theorem runWithin_viewed (h : GoesBy outside view inv P) (limit : τ) {p : Program I α}
    (hp : p.Asks P) (j : Course I τ σ) (hj : inv j.world) :
    p.runWithin outside limit (j.viewed view) =
      ((p.runWithin outside limit j).1, (p.runWithin outside limit j).2.viewed view) := by
  unfold runWithin
  split
  · rfl
  · exact run_viewed h _ hp j hj

theorem complete_viewed (h : GoesBy outside view inv P) {p : Program I α} (hp : p.Asks P)
    (j : Course I τ σ) (hj : inv j.world) :
    p.complete outside (j.viewed view) =
        ((p.complete outside j).1, (p.complete outside j).2.viewed view) ∧
      inv (p.complete outside j).2.world := by
  have hkeeps := run_keeps h.keeps none hp j hj
  unfold complete
  rw [run_viewed h none hp j hj]
  obtain ⟨⟨ending, j₁⟩, hx⟩ : ∃ x, p.run outside none j = x := ⟨_, rfl⟩
  rw [hx] at hkeeps ⊢
  cases ending <;> exact ⟨rfl, hkeeps⟩

end Viewing

/-! ## Landing an effect -/

/-- The work ended with the effect and a good result, or with neither. -/
def Lands (before after : σ → Prop) (good : α → Prop) (x : Ending α × Course I τ σ) : Prop :=
  (∃ a, x.1 = .finished (.ok a) ∧ good a ∧ after x.2.world) ∨
    (∀ a, x.1 = .finished (.ok a) → ¬ good a) ∧ before x.2.world

/-- An answer has the effect at once, or is not a good one. -/
def AnswersWith [Timeline τ] (before after : σ → Prop) (good : α → Prop) (a : Answer τ σ α) : Prop :=
  (∃ r, a.outcome = .ok r ∧ good r ∧ a.delay = Timeline.zero ∧ after a.world) ∨
    (∀ r, a.outcome = .ok r → ¬ good r) ∧ before a.world

section Landing

variable {before after : σ → Prop} {good : α → Prop} {j : Course I τ σ}

theorem lands_cut_iff : Lands before after good (.cut, j) ↔ before j.world := by simp [Lands]

theorem lands_error_iff {e : Fault} :
    Lands before after good (.finished (.error e), j) ↔ before j.world := by simp [Lands]

theorem lands_ok_iff {a : α} : Lands before after good (.finished (.ok a), j) ↔
    good a ∧ after j.world ∨ ¬ good a ∧ before j.world := by simp [Lands]

variable [Timeline τ] {outside : Outside I τ σ} {stop : Option τ}

/-- Going on to a result that is just as good, without another call. -/
theorem lands_bind {good' : β → Prop} {p : Program I α} {f : α → Program I β}
    (hf : ∀ a, ∃ b, f a = done b ∧ (good' b ↔ good a))
    (hp : Lands before after good (p.run outside stop j)) :
    Lands before after good' ((p.bind f).run outside stop j) := by
  rw [run_bind]
  generalize p.run outside stop j = x at hp ⊢
  obtain ⟨ending, j'⟩ := x
  match ending with
  | .cut => exact lands_cut_iff.mpr (lands_cut_iff.mp hp)
  | .finished (.error e) => exact lands_error_iff.mpr (lands_error_iff.mp hp)
  | .finished (.ok a) =>
    obtain ⟨b, hb, hgood⟩ := hf a
    simp only [Ending.resume, hb, run]
    rw [lands_ok_iff, hgood]
    exact lands_ok_iff.mp hp

/-- An attempt has the same effect; a fault is no good result. -/
theorem lands_attempt {p : Program I α} (hp : Lands before after good (p.run outside stop j)) :
    Lands before after (fun o : Outcome α => ∃ a, o = .ok a ∧ good a) (p.attempt.run outside stop j) := by
  rw [run_attempt]
  generalize p.run outside stop j = x at hp ⊢
  obtain ⟨ending, j'⟩ := x
  match ending with
  | .cut => exact lands_cut_iff.mpr (lands_cut_iff.mp hp)
  | .finished (.error e) =>
    refine lands_ok_iff.mpr (.inr ⟨?_, lands_error_iff.mp hp⟩)
    rintro ⟨a, ha, -⟩
    cases ha
  | .finished (.ok a) =>
    rw [lands_ok_iff]
    simpa using lands_ok_iff.mp hp

/-- A call whose effect comes with its good answers.  A good one is not cut off. -/
theorem lands_call {c : I.Call} {good : I.Reply c → Prop} {good' : β → Prop}
    {next : Outcome (I.Reply c) → Program I β}
    (hzero : Timeline.le (Timeline.zero : τ) Timeline.zero = true)
    (h : AnswersWith before after good (outside j.now c j.world))
    (hgood : ∀ r j', good r → after j'.world →
      Lands before after good' ((next (.ok r)).run outside stop j'))
    (hbad : ∀ o j', (∀ r, o = .ok r → ¬ good r) → before j'.world →
      Lands before after good' ((next o).run outside stop j')) :
    Lands before after good' ((call c next).run outside stop j) := by
  simp only [run]
  obtain ⟨r, hr, hr', hdelay, hafter⟩ | ⟨hbad', hbefore⟩ := h
  · simp only [hr, hdelay, Timeline.after, hzero, if_true]
    exact hgood r _ hr' hafter
  · split
    · exact hbad _ _ hbad' hbefore
    · exact lands_cut_iff.mpr hbefore

section Retrying

variable {c : I.Call} {good : I.Reply c → Prop}

theorem lands_perform (hzero : Timeline.le (Timeline.zero : τ) Timeline.zero = true)
    (h : AnswersWith before after good (outside j.now c j.world)) :
    Lands before after good ((perform c).run outside stop j) := by
  refine lands_call hzero h (fun r j' hr hj' => lands_ok_iff.mpr (.inl ⟨hr, hj'⟩)) fun o j' ho hj' => ?_
  cases o with
  | error e => exact lands_error_iff.mpr hj'
  | ok r => exact lands_ok_iff.mpr (.inr ⟨ho r rfl, hj'⟩)

/-- The last of the attempts decides: before a retry nothing has happened. -/
theorem lands_retriedFrom (hzero : Timeline.le (Timeline.zero : τ) Timeline.zero = true)
    (s : RetryStrategy)
    (h : ∀ now world, before world → AnswersWith before after good (outside now c world))
    (left retry : Nat) (hj : before j.world) :
    Lands before after good ((retriedFrom s c left retry).run outside stop j) := by
  -- an attempt is repeated only after a fault, so each one starts from `before`
  induction left generalizing retry j with
  | zero => exact lands_perform hzero (h _ _ hj)
  | succ left ih =>
    rw [retriedFrom]
    refine lands_call hzero (h _ _ hj) (fun r j' hr hj' => lands_ok_iff.mpr (.inl ⟨hr, hj'⟩))
      fun o j' ho hj' => ?_
    cases o with
    | ok r => exact lands_ok_iff.mpr (.inr ⟨ho r rfl, hj'⟩)
    | error f =>
      simp only
      split
      · split
        · simp only [run]
          split
          · exact ih _ hj'
          · exact lands_cut_iff.mpr hj'
        · exact lands_error_iff.mpr hj'
      · exact lands_error_iff.mpr hj'

end Retrying

/-- Work for at most a time lands its effect if it does so without a limit on its time. -/
theorem lands_runWithin {limit : τ} {p : Program I α} (hj : before j.world)
    (hp : ∀ stop, Lands before after good (p.run outside stop j)) :
    Lands before after good (p.runWithin outside limit j) := by
  unfold runWithin
  split
  · exact lands_cut_iff.mpr hj
  · exact hp _

end Landing

end Program

end LeadFlow
