import LeadFlow.Proofs.Program.Transcript

set_option autoImplicit false

/-!
# Programs: steady answers

Where every call is answered in the same way each time it is made, and at once, a program that does not
wait comes to what its answers say: the state of the outside does not matter, and neither time nor
clock moves on.

Main statement: `run_steady`.
-/

namespace LeadFlow

/-- Neither the time nor the clock has moved on. -/
structure Course.Still {I : Interface} {τ σ : Type} (c c' : Course I τ σ) : Prop where
  time : c'.time = c.time
  start : c'.start = c.start
  tick : c'.tick = c.tick

namespace Course.Still

variable {I : Interface} {τ σ : Type} {c c' c'' : Course I τ σ}

theorem refl (c : Course I τ σ) : c.Still c := ⟨rfl, rfl, rfl⟩

theorem trans (h : c.Still c') (h' : c'.Still c'') : c.Still c'' :=
  ⟨h'.time.trans h.time, h'.start.trans h.start, h'.tick.trans h.tick⟩

variable [Timeline τ]

theorem now_eq (h : c.Still c') : c'.now = c.now := by
  unfold Course.now
  rw [h.time, h.start]

/-- A clock that does not tick stands still also when it is read for a record. -/
theorem stamp (h : c.Still c') (htick : c.tick = 0) : c.Still c'.stamp.2 := by
  refine ⟨h.time, ?_, h.tick⟩
  change c'.start + c'.tick = c.start
  rw [h.tick, htick, h.start, Int.add_zero]

end Course.Still

namespace Program

variable {I : Interface} {τ σ α β : Type}

/-- What a program comes to with these answers, while the clock shows one time. -/
def evaluate (answers : (c : I.Call) → Outcome (I.Reply c)) (now : Calendar.Moment) :
    Program I α → Outcome α
  | done a => .ok a
  | fail f => .error f
  | call c next => (next (answers c)).evaluate answers now
  | pause _ next => next.evaluate answers now
  | .now next => (next now).evaluate answers now

section Evaluating

variable (answers : (c : I.Call) → Outcome (I.Reply c)) (now : Calendar.Moment)

theorem evaluate_bind (p : Program I α) (f : α → Program I β) :
    (p.bind f).evaluate answers now =
      (p.evaluate answers now).bind fun a => (f a).evaluate answers now := by
  induction p with
  | done a => rfl
  | fail e => rfl
  | call c next ih => exact ih _
  | pause s next ih => exact ih
  | now next ih => exact ih _

/-- An attempt has no fault. -/
theorem evaluate_attempt (p : Program I α) :
    p.attempt.evaluate answers now = .ok (p.evaluate answers now) := by
  induction p with
  | done a => rfl
  | fail e => rfl
  | call c next ih => exact ih _
  | pause s next ih => exact ih
  | now next ih => exact ih _

end Evaluating

variable [Timeline τ]

/-- Each call is answered in the same way every time, and at once. -/
structure Steady (outside : Outside I τ σ) (answers : (c : I.Call) → Outcome (I.Reply c)) : Prop where
  outcome : ∀ now c world, (outside now c world).outcome = answers c
  delay : ∀ now c world, Timeline.le (outside now c world).delay Timeline.zero = true

/-- The wait takes no time. -/
def IsNoWait (τ : Type) [Timeline τ] (seconds : Float) : Prop :=
  Timeline.le (Timeline.ofSeconds seconds : τ) Timeline.zero = true

theorem after_of_le_zero {wait : τ} (h : Timeline.le wait Timeline.zero = true) (stop : Option τ)
    (time : τ) : Timeline.after stop time wait = some time := by
  unfold Timeline.after
  rw [if_pos h]

variable {outside : Outside I τ σ} {answers : (c : I.Call) → Outcome (I.Reply c)}

/-- With steady answers a program without waits comes to an end where it began. -/
theorem run_steady (h : Steady outside answers) (stop : Option τ) {p : Program I α}
    (hp : p.KeepsTo (fun _ => True) (IsNoWait τ)) (c : Course I τ σ) :
    (p.run outside stop c).1 = .finished (p.evaluate answers c.now) ∧
      c.Still (p.run outside stop c).2 := by
  induction p generalizing c with
  | done a => exact ⟨rfl, .refl c⟩
  | fail e => exact ⟨rfl, .refl c⟩
  | now next ih => exact ih c.now (hp _) c
  | pause s next ih =>
    simp only [run]
    rw [after_of_le_zero hp.1]
    exact ih hp.2 c
  | call k next ih =>
    simp only [run]
    rw [after_of_le_zero (h.delay c.now k c.world), h.outcome]
    have hstill : c.Still { c.noting k (outside c.now k c.world).world with time := c.time } :=
      ⟨rfl, rfl, rfl⟩
    obtain ⟨hending, hrest⟩ :=
      ih (answers k) (hp.2 _) { c.noting k (outside c.now k c.world).world with time := c.time }
    rw [hstill.now_eq] at hending
    exact ⟨hending, hstill.trans hrest⟩

end Program

end LeadFlow
