import LeadFlow.Program.Course
import LeadFlow.Program.Retried

set_option autoImplicit false

/-!
# Programs: transcripts

What a program does, for every behaviour of the outside at once.  A transcript lists the calls that
were made with the answers they got; `Yields p es o` says that `p`, answered as in `es`, makes
exactly the calls of `es` and ends with `o`.  `KeepsTo P W p` says of every call that `p` can make,
whatever the answers are, that it satisfies `P`, and of every wait that it satisfies `W`.

Main statements: both go through a program part by part (`yields_bind_iff`, `KeepsTo.bind`), every
finished run has a transcript (`run_yields`), and a run of any length makes only calls that the
program can make (`run_asks`).
-/

namespace LeadFlow

/-- A call with the answer it got. -/
structure Exchange (I : Interface) where
  call : I.Call
  answer : Outcome (I.Reply call)

namespace Program

variable {I : Interface} {α β : Type}

/-- Answered as listed, the program makes just these calls and ends with the outcome.  Waiting and
the clock may come out in any way. -/
inductive Yields : Program I α → List (Exchange I) → Outcome α → Prop where
  | done (a : α) : Yields (done a) [] (.ok a)
  | fail (f : Fault) : Yields (fail f) [] (.error f)
  | call {c : I.Call} {next : Outcome (I.Reply c) → Program I α} {answer : Outcome (I.Reply c)}
      {es : List (Exchange I)} {o : Outcome α} :
      Yields (next answer) es o → Yields (call c next) (⟨c, answer⟩ :: es) o
  | pause {seconds : Float} {next : Program I α} {es : List (Exchange I)} {o : Outcome α} :
      Yields next es o → Yields (pause seconds next) es o
  | now {next : Calendar.Moment → Program I α} {es : List (Exchange I)} {o : Outcome α}
      (m : Calendar.Moment) : Yields (next m) es o → Yields (now next) es o

/-! ## Transcripts of the parts of a program -/

@[simp] theorem bind_eq (p : Program I α) (f : α → Program I β) : p >>= f = p.bind f := rfl

@[simp] theorem yields_done_iff {a : α} {es : List (Exchange I)} {o : Outcome α} :
    (done a : Program I α).Yields es o ↔ es = [] ∧ o = .ok a := by
  constructor
  · intro h
    cases h
    exact ⟨rfl, rfl⟩
  · rintro ⟨rfl, rfl⟩
    exact .done a

@[simp] theorem yields_fail_iff {f : Fault} {es : List (Exchange I)} {o : Outcome α} :
    (fail f : Program I α).Yields es o ↔ es = [] ∧ o = .error f := by
  constructor
  · intro h
    cases h
    exact ⟨rfl, rfl⟩
  · rintro ⟨rfl, rfl⟩
    exact .fail f

theorem yields_call_iff {c : I.Call} {next : Outcome (I.Reply c) → Program I α}
    {es : List (Exchange I)} {o : Outcome α} :
    (call c next).Yields es o ↔ ∃ answer rest, es = ⟨c, answer⟩ :: rest ∧ (next answer).Yields rest o := by
  constructor
  · intro h
    cases h with
    | call h => exact ⟨_, _, rfl, h⟩
  · rintro ⟨answer, rest, rfl, h⟩
    exact .call h

theorem yields_pause_iff {seconds : Float} {next : Program I α} {es : List (Exchange I)}
    {o : Outcome α} : (pause seconds next).Yields es o ↔ next.Yields es o := by
  constructor
  · intro h
    cases h with
    | pause h => exact h
  · exact .pause

theorem yields_now_iff {next : Calendar.Moment → Program I α} {es : List (Exchange I)}
    {o : Outcome α} : (now next).Yields es o ↔ ∃ m, (next m).Yields es o := by
  constructor
  · intro h
    cases h with
    | now m h => exact ⟨m, h⟩
  · rintro ⟨m, h⟩
    exact .now m h

/-- A program in two parts goes through one part after the other, unless the first ends it. -/
theorem yields_bind_iff {f : α → Program I β} {p : Program I α} {es : List (Exchange I)}
    {o : Outcome β} :
    (p.bind f).Yields es o ↔
      (∃ es₁ es₂ a, es = es₁ ++ es₂ ∧ p.Yields es₁ (.ok a) ∧ (f a).Yields es₂ o) ∨
        ∃ e, p.Yields es (.error e) ∧ o = .error e := by
  induction p generalizing es with
  | done a =>
    constructor
    · intro h
      exact .inl ⟨[], es, a, rfl, .done a, h⟩
    · rintro (⟨es₁, es₂, b, rfl, h₁, h₂⟩ | ⟨e, h, -⟩)
      · obtain ⟨rfl, hb⟩ := yields_done_iff.mp h₁
        cases hb
        exact h₂
      · cases h
  | fail e => simp [bind, and_comm, and_left_comm]
  | call c next ih =>
    simp only [bind, yields_call_iff, ih]
    constructor
    · rintro ⟨answer, rest, rfl, ⟨es₁, es₂, a, rfl, h₁, h₂⟩ | ⟨e, h, rfl⟩⟩
      · exact .inl ⟨⟨c, answer⟩ :: es₁, es₂, a, rfl, ⟨answer, es₁, rfl, h₁⟩, h₂⟩
      · exact .inr ⟨e, ⟨answer, rest, rfl, h⟩, rfl⟩
    · rintro (⟨es₁, es₂, a, rfl, ⟨answer, rest, rfl, h₁⟩, h₂⟩ | ⟨e, ⟨answer, rest, rfl, h⟩, rfl⟩)
      · exact ⟨answer, rest ++ es₂, rfl, .inl ⟨rest, es₂, a, rfl, h₁, h₂⟩⟩
      · exact ⟨answer, rest, rfl, .inr ⟨e, h, rfl⟩⟩
  | pause s next ih => simp only [bind, yields_pause_iff, ih]
  | now next ih =>
    simp only [bind, yields_now_iff, ih]
    constructor
    · rintro ⟨m, ⟨es₁, es₂, a, rfl, h₁, h₂⟩ | ⟨e, h, rfl⟩⟩
      · exact .inl ⟨es₁, es₂, a, rfl, ⟨m, h₁⟩, h₂⟩
      · exact .inr ⟨e, ⟨m, h⟩, rfl⟩
    · rintro (⟨es₁, es₂, a, rfl, ⟨m, h₁⟩, h₂⟩ | ⟨e, ⟨m, h⟩, rfl⟩)
      · exact ⟨m, .inl ⟨es₁, es₂, a, rfl, h₁, h₂⟩⟩
      · exact ⟨m, .inr ⟨e, h, rfl⟩⟩

/-- An attempt makes the same calls and ends with the outcome as its result. -/
theorem yields_attempt_iff {p : Program I α} {es : List (Exchange I)} {o : Outcome (Outcome α)} :
    p.attempt.Yields es o ↔ ∃ o', p.Yields es o' ∧ o = .ok o' := by
  induction p generalizing es with
  | done a => simp [attempt, and_assoc]
  | fail e => simp [attempt, and_assoc]
  | call c next ih =>
    simp only [attempt, yields_call_iff, ih]
    constructor
    · rintro ⟨answer, rest, rfl, o', h, rfl⟩
      exact ⟨o', ⟨answer, rest, rfl, h⟩, rfl⟩
    · rintro ⟨o', ⟨answer, rest, rfl, h⟩, rfl⟩
      exact ⟨answer, rest, rfl, o', h, rfl⟩
  | pause s next ih => simp only [attempt, yields_pause_iff, ih]
  | now next ih =>
    simp only [attempt, yields_now_iff, ih]
    constructor
    · rintro ⟨m, o', h, rfl⟩
      exact ⟨o', ⟨m, h⟩, rfl⟩
    · rintro ⟨o', ⟨m, h⟩, rfl⟩
      exact ⟨m, o', h, rfl⟩

/-- A program that goes on with the answer to a call. -/
theorem yields_ask_bind_iff {c : I.Call} {f : Outcome (I.Reply c) → Program I β}
    {es : List (Exchange I)} {o : Outcome β} :
    ((ask c).bind f).Yields es o ↔ ∃ answer rest, es = ⟨c, answer⟩ :: rest ∧ (f answer).Yields rest o :=
  yields_call_iff

/-- A program that goes on with the time by the clock. -/
theorem yields_clock_bind_iff {f : Calendar.Moment → Program I β} {es : List (Exchange I)}
    {o : Outcome β} : (clock.bind f).Yields es o ↔ ∃ m, (f m).Yields es o :=
  yields_now_iff

theorem yields_perform_iff {c : I.Call} {es : List (Exchange I)} {o : Outcome (I.Reply c)} :
    (perform c).Yields es o ↔ es = [⟨c, o⟩] := by
  simp only [perform, yields_call_iff]
  constructor
  · rintro ⟨answer, rest, rfl, h⟩
    cases answer <;> simp_all
  · rintro rfl
    refine ⟨o, [], rfl, ?_⟩
    cases o <;> simp

/-- A program that makes no call and reads no clock before it goes on. -/
theorem yields_ofOutcome_bind_iff {x : Outcome α} {f : α → Program I β} {es : List (Exchange I)}
    {o : Outcome β} :
    ((ofOutcome x).bind f).Yields es o ↔
      (∃ e, x = .error e ∧ es = [] ∧ o = .error e) ∨ ∃ a, x = .ok a ∧ (f a).Yields es o := by
  cases x <;> simp [ofOutcome]

/-- Every attempt of a retried call is that call, and it ends with a result just if an attempt got
that result. -/
theorem yields_retriedFrom {s : RetryStrategy} {c : I.Call} {left retry : Nat}
    {es : List (Exchange I)} {o : Outcome (I.Reply c)} (h : (retriedFrom s c left retry).Yields es o) :
    (∀ x ∈ es, x.call = c) ∧ ∀ r, ⟨c, .ok r⟩ ∈ es ↔ o = .ok r := by
  induction left generalizing retry es with
  | zero =>
    rw [retriedFrom, yields_perform_iff] at h
    subst h
    refine ⟨by simp, fun r => ?_⟩
    simp [eq_comm]
  | succ left ih =>
    rw [retriedFrom, yields_call_iff] at h
    obtain ⟨answer, rest, rfl, h⟩ := h
    cases answer with
    | ok r =>
      obtain ⟨rfl, rfl⟩ := yields_done_iff.mp h
      refine ⟨by simp, fun r' => ?_⟩
      simp [eq_comm]
    | error f =>
      simp only at h
      split at h
      · split at h
        · obtain ⟨hcalls, hlast⟩ := ih (yields_pause_iff.mp h)
          exact ⟨by simpa using hcalls, fun r => by simpa using hlast r⟩
        · obtain ⟨rfl, rfl⟩ := yields_fail_iff.mp h
          simp
      · obtain ⟨rfl, rfl⟩ := yields_fail_iff.mp h
        simp

/-! ## What a program can do -/

/-- Every call that the program can make satisfies `P`, and every wait `W`. -/
def KeepsTo (P : I.Call → Prop) (W : Float → Prop) : Program I α → Prop
  | done _ => True
  | fail _ => True
  | call c next => P c ∧ ∀ answer, (next answer).KeepsTo P W
  | pause seconds next => W seconds ∧ next.KeepsTo P W
  | now next => ∀ m, (next m).KeepsTo P W

/-- Every call that the program can make satisfies `P`. -/
abbrev Asks (P : I.Call → Prop) (p : Program I α) : Prop := p.KeepsTo P fun _ => True

variable {P : I.Call → Prop} {W : Float → Prop}

theorem KeepsTo.mono {Q : I.Call → Prop} {V : Float → Prop} {p : Program I α} (hp : p.KeepsTo P W)
    (hcalls : ∀ c, P c → Q c) (hwaits : ∀ seconds, W seconds → V seconds) : p.KeepsTo Q V := by
  induction p with
  | done a => trivial
  | fail e => trivial
  | call c next ih => exact ⟨hcalls c hp.1, fun answer => ih answer (hp.2 answer)⟩
  | pause s next ih => exact ⟨hwaits s hp.1, ih hp.2⟩
  | now next ih => exact fun m => ih m (hp m)

theorem KeepsTo.asks {Q : I.Call → Prop} {p : Program I α} (hp : p.KeepsTo P W) (h : ∀ c, P c → Q c) :
    p.Asks Q := hp.mono h fun _ _ => trivial

theorem asks_any (p : Program I α) : p.Asks fun _ => True := by
  induction p with
  | done a => trivial
  | fail e => trivial
  | call c next ih => exact ⟨trivial, ih⟩
  | pause s next ih => exact ⟨trivial, ih⟩
  | now next ih => exact ih

/-- The calls of a transcript are calls that the program can make. -/
theorem Yields.asks {p : Program I α} {es : List (Exchange I)} {o : Outcome α} (h : p.Yields es o)
    (hp : p.Asks P) : ∀ x ∈ es, P x.call := by
  induction h with
  | done a => simp
  | fail f => simp
  | call _ ih => exact List.forall_mem_cons.mpr ⟨hp.1, ih (hp.2 _)⟩
  | pause _ ih => exact ih hp.2
  | now m _ ih => exact ih (hp m)

theorem KeepsTo.bind {p : Program I α} {f : α → Program I β} (hp : p.KeepsTo P W)
    (hf : ∀ a, (f a).KeepsTo P W) : (p.bind f).KeepsTo P W := by
  induction p with
  | done a => exact hf a
  | fail e => trivial
  | call c next ih => exact ⟨hp.1, fun answer => ih answer (hp.2 answer)⟩
  | pause s next ih => exact ⟨hp.1, ih hp.2⟩
  | now next ih => exact fun m => ih m (hp m)

theorem KeepsTo.attempt {p : Program I α} (hp : p.KeepsTo P W) : p.attempt.KeepsTo P W := by
  induction p with
  | done a => trivial
  | fail e => trivial
  | call c next ih => exact ⟨hp.1, fun answer => ih answer (hp.2 answer)⟩
  | pause s next ih => exact ⟨hp.1, ih hp.2⟩
  | now next ih => exact fun m => ih m (hp m)

theorem keepsTo_ask {c : I.Call} (h : P c) : (ask c).KeepsTo P W := ⟨h, fun _ => trivial⟩

theorem keepsTo_perform {c : I.Call} (h : P c) : (perform c).KeepsTo P W := by
  refine ⟨h, fun answer => ?_⟩
  cases answer <;> trivial

theorem keepsTo_ofOutcome (x : Outcome α) : (ofOutcome x : Program I α).KeepsTo P W := by
  cases x <;> trivial

theorem keepsTo_ofOutcome_bind {x : Outcome α} {f : α → Program I β}
    (hf : ∀ a, x = .ok a → (f a).KeepsTo P W) : ((ofOutcome x).bind f).KeepsTo P W := by
  cases x with
  | ok a => exact hf a rfl
  | error e => trivial

theorem keepsTo_clock : (clock : Program I Calendar.Moment).KeepsTo P W := fun _ => trivial

/-- A retried call makes that call only, and waits as its strategy says. -/
theorem keepsTo_retriedFrom {s : RetryStrategy} {c : I.Call} (h : P c)
    (hwaits : ∀ retry seconds, s.waitFor retry = .ok seconds → W seconds) (left retry : Nat) :
    (retriedFrom s c left retry).KeepsTo P W := by
  induction left generalizing retry with
  | zero => exact keepsTo_perform h
  | succ left ih =>
    rw [retriedFrom]
    refine ⟨h, fun answer => ?_⟩
    cases answer with
    | ok r => trivial
    | error f =>
      simp only
      split
      · split
        · rename_i seconds hseconds
          exact ⟨hwaits retry seconds hseconds, ih _⟩
        · trivial
      · trivial

/-! ## Runs -/

section Runs

variable {τ σ : Type} [Timeline τ]

/-- An attempt runs the same way, and its fault is a result. -/
theorem run_attempt (outside : Outside I τ σ) (stop : Option τ) (p : Program I α) (c : Course I τ σ) :
    p.attempt.run outside stop c =
      match p.run outside stop c with
      | (.finished o, c') => (.finished (.ok o), c')
      | (.cut, c') => (.cut, c') := by
  induction p generalizing c with
  | done a => rfl
  | fail e => rfl
  | now next ih => exact ih _ _
  | pause s next ih =>
    simp only [attempt, run]
    split
    · exact ih _
    · rfl
  | call k next ih =>
    simp only [attempt, run]
    split
    · exact ih _ _
    · rfl

/-- The calls of a finished run are those of a transcript with the same outcome. -/
theorem run_yields (outside : Outside I τ σ) (stop : Option τ) {p : Program I α}
    {c c' : Course I τ σ} {o : Outcome α} (h : p.run outside stop c = (.finished o, c')) :
    ∃ es, p.Yields es o ∧ c'.calls.map (·.2) = c.calls.map (·.2) ++ es.map (·.call) := by
  induction p generalizing c with
  | done a =>
    obtain ⟨rfl, rfl⟩ : Except.ok a = o ∧ c = c' := by simpa [run] using h
    exact ⟨[], .done a, by simp⟩
  | fail e =>
    obtain ⟨rfl, rfl⟩ : Except.error e = o ∧ c = c' := by simpa [run] using h
    exact ⟨[], .fail e, by simp⟩
  | now next ih =>
    obtain ⟨es, hy, hc⟩ := ih c.now (by simpa only [run] using h)
    exact ⟨es, .now _ hy, hc⟩
  | pause s next ih =>
    simp only [run] at h
    split at h
    · obtain ⟨es, hy, hc⟩ := ih h
      exact ⟨es, .pause hy, hc⟩
    · simp at h
  | call k next ih =>
    simp only [run] at h
    split at h
    · obtain ⟨es, hy, hc⟩ := ih _ h
      exact ⟨⟨k, _⟩ :: es, .call hy, by simp [hc, Course.noting]⟩
    · simp at h

/-- A run adds calls to the course, each of them one that the program can make. -/
theorem run_asks (outside : Outside I τ σ) (stop : Option τ) {p : Program I α} (hp : p.Asks P)
    (c : Course I τ σ) :
    ∃ made, (p.run outside stop c).2.calls = c.calls ++ made ∧ ∀ x ∈ made, P x.2 := by
  induction p generalizing c with
  | done a => exact ⟨[], by simp [run]⟩
  | fail e => exact ⟨[], by simp [run]⟩
  | now next ih => exact ih c.now (hp _) c
  | pause s next ih =>
    simp only [run]
    split
    · exact ih hp.2 _
    · exact ⟨[], by simp⟩
  | call k next ih =>
    simp only [run]
    split
    · rename_i t _
      let a := outside c.now k c.world
      obtain ⟨made, hc, hmade⟩ :=
        ih a.outcome (hp.2 a.outcome) { c.noting k a.world with time := t }
      refine ⟨(c.time, k) :: made, ?_, ?_⟩
      · rw [hc]
        simp [Course.noting]
      · intro x hx
        cases hx with
        | head => exact hp.1
        | tail _ hx => exact hmade x hx
    · exact ⟨[(c.time, k)], by simp [Course.noting], by simpa using hp.1⟩

theorem runWithin_asks (outside : Outside I τ σ) (limit : τ) {p : Program I α} (hp : p.Asks P)
    (c : Course I τ σ) :
    ∃ made, (p.runWithin outside limit c).2.calls = c.calls ++ made ∧ ∀ x ∈ made, P x.2 := by
  unfold runWithin
  split
  · exact ⟨[], by simp⟩
  · exact run_asks outside _ hp c

theorem complete_asks (outside : Outside I τ σ) {p : Program I α} (hp : p.Asks P) (c : Course I τ σ) :
    ∃ made, (p.complete outside c).2.calls = c.calls ++ made ∧ ∀ x ∈ made, P x.2 := by
  have hrun := run_asks outside none hp c
  unfold complete
  split <;> rename_i heq <;> rw [heq] at hrun <;> exact hrun

end Runs

end Program

end LeadFlow
