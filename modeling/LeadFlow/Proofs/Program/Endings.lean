import LeadFlow.Proofs.Program.Transcript

set_option autoImplicit false

/-!
# Programs: what they can come to

A property of every result and every fault that a program can end with, whatever the outside answers.
It is shown part by part, and every run that ends has it.

Main statement: `run_ends`.
-/

namespace LeadFlow.Program

variable {I : Interface} {α β : Type}

/-- However the program ends, its outcome satisfies `P`. -/
def Ends (P : Outcome α → Prop) : Program I α → Prop
  | done a => P (.ok a)
  | fail f => P (.error f)
  | call _ next => ∀ answer, (next answer).Ends P
  | pause _ next => next.Ends P
  | now next => ∀ m, (next m).Ends P

/-! ## Parts of a program -/

section Parts

variable {P : Outcome β → Prop} {Q : Outcome α → Prop}

theorem ends_any (p : Program I α) : p.Ends fun _ => True := by
  induction p with
  | done a => trivial
  | fail f => trivial
  | call c next ih => exact ih
  | pause s next ih => exact ih
  | now next ih => exact ih

/-- A program in two parts ends as its second part does, or with a fault of the first. -/
theorem Ends.bind {p : Program I α} {f : α → Program I β} (hp : p.Ends Q)
    (hresult : ∀ a, Q (.ok a) → (f a).Ends P) (hfault : ∀ e, Q (.error e) → P (.error e)) :
    (p.bind f).Ends P := by
  induction p with
  | done a => exact hresult a hp
  | fail e => exact hfault e hp
  | call c next ih => exact fun answer => ih answer (hp answer)
  | pause s next ih => exact ih hp
  | now next ih => exact fun m => ih m (hp m)

/-- An attempt ends with a result. -/
theorem Ends.attempt {p : Program I α} (hp : p.Ends Q) : p.attempt.Ends fun o => ∃ o', o = .ok o' ∧ Q o' := by
  induction p with
  | done a => exact ⟨_, rfl, hp⟩
  | fail e => exact ⟨_, rfl, hp⟩
  | call c next ih => exact fun answer => ih answer (hp answer)
  | pause s next ih => exact ih hp
  | now next ih => exact fun m => ih m (hp m)

/-- A program that goes on with an attempt goes on with its outcome. -/
theorem Ends.attempt_bind {p : Program I α} {f : Outcome α → Program I β} (hp : p.Ends Q)
    (h : ∀ o, Q o → (f o).Ends P) : (p.attempt.bind f).Ends P := by
  refine hp.attempt.bind (fun o ho => ?_) fun e he => ?_
  · obtain ⟨o', hsame, ho'⟩ := ho
    obtain rfl := Except.ok.inj hsame
    exact h o ho'
  · obtain ⟨o', ho', -⟩ := he
    cases ho'

theorem ends_ask_bind {c : I.Call} {f : Outcome (I.Reply c) → Program I β} (h : ∀ answer, (f answer).Ends P) :
    ((ask c).bind f).Ends P := h

theorem ends_clock_bind {f : Calendar.Moment → Program I β} (h : ∀ m, (f m).Ends P) :
    ((clock : Program I Calendar.Moment).bind f).Ends P := h

theorem ends_ofOutcome {x : Outcome β} (h : P x) : (ofOutcome x : Program I β).Ends P := by
  cases x <;> exact h

end Parts

/-! ## Runs -/

variable {τ σ : Type} [Timeline τ] {P : Outcome α → Prop} {outside : Outside I τ σ} {c c' : Course I τ σ}
  {o : Outcome α}

/-- A run that was not cut ends as its program can. -/
theorem run_ends {stop : Option τ} {p : Program I α} (hp : p.Ends P)
    (h : p.run outside stop c = (.finished o, c')) : P o := by
  induction p generalizing c with
  | done a =>
    obtain ⟨rfl, -⟩ : Except.ok a = o ∧ c = c' := by simpa [run] using h
    exact hp
  | fail e =>
    obtain ⟨rfl, -⟩ : Except.error e = o ∧ c = c' := by simpa [run] using h
    exact hp
  | now next ih => exact ih c.now (hp _) (by simpa only [run] using h)
  | pause s next ih =>
    simp only [run] at h
    split at h
    · exact ih hp h
    · simp at h
  | call k next ih =>
    simp only [run] at h
    split at h
    · exact ih _ (hp _) h
    · simp at h

theorem runWithin_ends {limit : τ} {p : Program I α} (hp : p.Ends P)
    (h : p.runWithin outside limit c = (.finished o, c')) : P o := by
  unfold runWithin at h
  split at h
  · simp at h
  · exact run_ends hp h

end LeadFlow.Program
