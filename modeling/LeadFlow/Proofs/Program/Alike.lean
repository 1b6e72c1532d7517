import LeadFlow.Proofs.Program.Effects

set_option autoImplicit false

/-!
# Programs: courses that look alike

Two courses may differ in what a view of the outside leaves out, and in calls that are not shown.  A
program that makes only calls answered by the view cannot tell them apart: it ends in the same way
from both, and the courses still look alike (`run_alike`).
-/

namespace LeadFlow

/-- The courses are at the same point by a view of the outside, and the calls that are shown were made
at the same times. -/
structure Course.Alike {I : Interface} {τ σ : Type} (view : σ → σ) (shown : I.Call → Bool)
    (c c' : Course I τ σ) : Prop where
  world : view c.world = view c'.world
  time : c.time = c'.time
  start : c.start = c'.start
  tick : c.tick = c'.tick
  issued : c.issued = c'.issued
  calls : c.calls.filter (fun x => shown x.2) = c'.calls.filter fun x => shown x.2

namespace Course.Alike

variable {I : Interface} {τ σ : Type} {view : σ → σ} {shown : I.Call → Bool} {c c' : Course I τ σ}

theorem refl (c : Course I τ σ) : c.Alike view shown c := ⟨rfl, rfl, rfl, rfl, rfl, rfl⟩

theorem now_eq [Timeline τ] (h : c.Alike view shown c') : c.now = c'.now := by
  unfold Course.now
  rw [h.time, h.start]

/-- Time passes for both. -/
theorem at_time (h : c.Alike view shown c') (t : τ) :
    ({ c with time := t } : Course I τ σ).Alike view shown { c' with time := t } :=
  ⟨h.world, rfl, h.start, h.tick, h.issued, h.calls⟩

/-- Both make the same call, and the view is the same after it. -/
theorem noting (h : c.Alike view shown c') (call : I.Call) {world world' : σ}
    (hworld : view world = view world') :
    (c.noting call world).Alike view shown (c'.noting call world') := by
  refine ⟨hworld, h.time, h.start, h.tick, h.issued, ?_⟩
  simp only [Course.noting, List.filter_append, h.calls, h.time]

/-- One of them makes a call that is not shown, and the view is the same after it. -/
theorem noting_hidden (h : c.Alike view shown c') {call : I.Call} (hidden : shown call = false)
    {world : σ} (hworld : view world = view c.world) :
    (c.noting call world).Alike view shown c' := by
  refine ⟨hworld.trans h.world, h.time, h.start, h.tick, h.issued, ?_⟩
  simp [Course.noting, List.filter_append, hidden, h.calls]

end Course.Alike

namespace Program

variable {I : Interface} {τ σ α : Type} {outside : Outside I τ σ} {view : σ → σ}
  {P : I.Call → Prop} {shown : I.Call → Bool}

/-- An answer by the view is the same for courses that look alike. -/
theorem GoesBy.same (h : GoesBy outside view (fun _ => True) P) {call : I.Call} (hcall : P call)
    (now : Calendar.Moment) {world world' : σ} (hworld : view world = view world') :
    (outside now call world).delay = (outside now call world').delay ∧
      (outside now call world).outcome = (outside now call world').outcome ∧
      view (outside now call world).world = view (outside now call world').world := by
  have hanswer := h.answer now call world hcall trivial
  rw [hworld, h.answer now call world' hcall trivial] at hanswer
  obtain ⟨hdelay, houtcome, hview⟩ := Answer.mk.inj hanswer
  exact ⟨hdelay.symm, houtcome.symm, hview.symm⟩

/-- A program whose calls are answered by the view runs alike from courses that look alike. -/
theorem run_alike [Timeline τ] (h : GoesBy outside view (fun _ => True) P) (stop : Option τ) {p : Program I α}
    (hp : p.Asks P) {c c' : Course I τ σ} (hc : c.Alike view shown c') :
    (p.run outside stop c).1 = (p.run outside stop c').1 ∧
      (p.run outside stop c).2.Alike view shown (p.run outside stop c').2 := by
  induction p generalizing c c' with
  | done a => exact ⟨rfl, hc⟩
  | fail e => exact ⟨rfl, hc⟩
  | now next ih =>
    simp only [run]
    rw [hc.now_eq]
    exact ih _ (hp _) hc
  | pause s next ih =>
    simp only [run]
    rw [hc.time]
    split
    · exact ih hp.2 (hc.at_time _)
    · exact ⟨rfl, hc.at_time _⟩
  | call k next ih =>
    obtain ⟨hdelay, houtcome, hworld⟩ := h.same hp.1 c.now hc.world
    simp only [run]
    rw [hc.time, ← hc.now_eq, hdelay, houtcome]
    split
    · exact ih _ (hp.2 _) ((hc.noting k hworld).at_time _)
    · exact ⟨rfl, (hc.noting k hworld).at_time _⟩

end Program

end LeadFlow
