import LeadFlow.Program.Basic
import LeadFlow.Program.Timeline

set_option autoImplicit false

/-!
# Programs: their course in time

The outside answers each call after some time and may change with it.  A course holds the outside,
the time, and the calls made so far with the time each was made at.  Running a program moves the
course on; a program that would go on beyond a given time is cut there.
-/

namespace LeadFlow

/-- An answer of the outside: how long it takes, what it says, and the outside after it. -/
structure Answer (τ σ α : Type) where
  delay : τ
  outcome : Outcome α
  world : σ

/-- How the outside, in state `σ`, answers calls; it may look at the clock. -/
abbrev Outside (I : Interface) (τ σ : Type) :=
  Calendar.Moment → (c : I.Call) → σ → Answer τ σ (I.Reply c)

/-- A course of calls in time. -/
structure Course (I : Interface) (τ σ : Type) where
  world : σ
  time : τ
  /-- the clock at time zero, in microseconds; it moves on by `tick` with each reading for a record -/
  start : Int
  tick : Int
  /-- how many run ids have been handed out -/
  issued : Nat
  /-- the calls made, in order -/
  calls : List (τ × I.Call)

namespace Course

variable {I : Interface} {τ σ : Type} [Timeline τ]

/-- The time by the clock. -/
def now (c : Course I τ σ) : Calendar.Moment := .ofInstant (c.start + Timeline.micros c.time)

/-- A reading of the clock for a record. -/
def stamp (c : Course I τ σ) : Calendar.Moment × Course I τ σ := (c.now, { c with start := c.start + c.tick })

/-- The course after a call was made and answered, at the time of the call. -/
def noting (c : Course I τ σ) (call : I.Call) (world : σ) : Course I τ σ :=
  { c with world := world, calls := c.calls ++ [(c.time, call)] }

end Course

/-- How a program ended. -/
inductive Ending (α : Type) where
  | finished (outcome : Outcome α)
  | cut

/-- Goes on from where a program ended with a result. -/
def Ending.resume {I : Interface} {τ σ α β : Type} (f : α → Course I τ σ → Ending β × Course I τ σ) :
    Ending α × Course I τ σ → Ending β × Course I τ σ
  | (.finished (.ok a), c) => f a c
  | (.finished (.error e), c) => (.finished (.error e), c)
  | (.cut, c) => (.cut, c)

namespace Program

variable {I : Interface} {τ σ α : Type} [Timeline τ]

/-- Runs a program.  Waits and answers that would end beyond `stop` are cut off there. -/
def run (outside : Outside I τ σ) (stop : Option τ) :
    Program I α → Course I τ σ → Ending α × Course I τ σ
  | done a, c => (.finished (.ok a), c)
  | fail f, c => (.finished (.error f), c)
  | now next, c => (next c.now).run outside stop c
  | pause s next, c =>
    match Timeline.after stop c.time (Timeline.ofSeconds s) with
    | some t => next.run outside stop { c with time := t }
    | none => (.cut, { c with time := Timeline.cutAt stop c.time })
  | call k next, c =>
    let a := outside c.now k c.world
    let c' := c.noting k a.world
    match Timeline.after stop c.time a.delay with
    | some t => (next a.outcome).run outside stop { c' with time := t }
    | none => (.cut, { c' with time := Timeline.cutAt stop c.time })

/-- A program in two parts runs one part after the other. -/
theorem run_bind {β : Type} (outside : Outside I τ σ) (stop : Option τ) (f : α → Program I β)
    (p : Program I α) (c : Course I τ σ) :
    (p.bind f).run outside stop c =
      Ending.resume (fun a c' => (f a).run outside stop c') (p.run outside stop c) := by
  induction p generalizing c with
  | done a => rfl
  | fail e => rfl
  | now next ih => simp only [bind, run]; exact ih _ _
  | pause s next ih =>
    simp only [bind, run]
    split
    · exact ih _
    · rfl
  | call k next ih =>
    simp only [bind, run]
    split
    · exact ih _ _
    · rfl

/-- Runs a program for at most `limit`; with nothing left it does not start. -/
def runWithin (outside : Outside I τ σ) (limit : τ) (p : Program I α) (c : Course I τ σ) :
    Ending α × Course I τ σ :=
  if Timeline.le limit Timeline.zero then (.cut, c)
  else p.run outside (some (Timeline.add c.time limit)) c

/-- Runs a program to its end. -/
def complete (outside : Outside I τ σ) (p : Program I α) (c : Course I τ σ) : Outcome α × Course I τ σ :=
  match p.run outside none c with
  | (.finished o, c') => (o, c')
  | (.cut, c') => (.error ⟨.timeout, none⟩, c')

end Program

end LeadFlow
