import LeadFlow.Calendar.Moment
import LeadFlow.Fault

set_option autoImplicit false

/-!
# Programs

A program is work that depends on the outside: it makes calls and goes on with their answers, waits,
reads the clock, and ends with a result or a fault.  It is a tree with one branch per answer, so
that what it does can be studied for every behaviour of the outside at once.
-/

namespace LeadFlow

/-- The calls a program may make, each with the type of its answer. -/
structure Interface where
  Call : Type
  Reply : Call → Type

/-- A program. -/
inductive Program (I : Interface) (α : Type) : Type where
  | done (a : α)
  | fail (f : Fault)
  | call (c : I.Call) (next : Outcome (I.Reply c) → Program I α)
  | pause (seconds : Float) (next : Program I α)
  | now (next : Calendar.Moment → Program I α)

namespace Program

variable {I : Interface} {α β : Type}

/-- Goes on with the result; a fault ends the program. -/
def bind (f : α → Program I β) : Program I α → Program I β
  | done a => f a
  | fail e => fail e
  | call c next => call c fun r => (next r).bind f
  | pause s next => pause s (next.bind f)
  | now next => now fun m => (next m).bind f

instance : Monad (Program I) where
  pure := done
  bind x f := x.bind f

/-- The program with its fault as a result. -/
def attempt : Program I α → Program I (Outcome α)
  | done a => done (.ok a)
  | fail e => done (.error e)
  | call c next => call c fun r => (next r).attempt
  | pause s next => pause s next.attempt
  | now next => now fun m => (next m).attempt

/-- A call whose fault is handled by the caller. -/
def ask (c : I.Call) : Program I (Outcome (I.Reply c)) := call c done

/-- A call whose fault ends the program. -/
def perform (c : I.Call) : Program I (I.Reply c) :=
  call c fun
    | .ok r => done r
    | .error f => fail f

/-- The time by the clock. -/
def clock : Program I Calendar.Moment := now done

/-- A result or a fault found without the outside. -/
def ofOutcome : Outcome α → Program I α
  | .ok a => done a
  | .error f => fail f

@[simp] theorem bind_done (f : α → Program I β) (a : α) : (done a).bind f = f a := rfl

@[simp] theorem bind_fail (f : α → Program I β) (e : Fault) : (fail e : Program I α).bind f = fail e := rfl

@[simp] theorem attempt_done (a : α) : (done a : Program I α).attempt = done (.ok a) := rfl

@[simp] theorem attempt_fail (e : Fault) : (fail e : Program I α).attempt = done (.error e) := rfl

theorem bind_assoc {γ : Type} (x : Program I α) (f : α → Program I β) (g : β → Program I γ) :
    (x.bind f).bind g = x.bind fun a => (f a).bind g := by
  induction x with
  | done a => rfl
  | fail e => rfl
  | call c next ih => simp only [bind]; congr 1; funext r; exact ih r
  | pause s next ih => simp only [bind, ih]
  | now next ih => simp only [bind]; congr 1; funext m; exact ih m

theorem bind_done_right (x : Program I α) : x.bind done = x := by
  induction x with
  | done a => rfl
  | fail e => rfl
  | call c next ih => simp only [bind]; congr 1; funext r; exact ih r
  | pause s next ih => simp only [bind, ih]
  | now next ih => simp only [bind]; congr 1; funext m; exact ih m

instance : LawfulMonad (Program I) :=
  LawfulMonad.mk' (Program I) bind_done_right (fun a f => bind_done f a) bind_assoc

end Program

end LeadFlow
