import LeadFlow.Program.Basic
import LeadFlow.Retry

set_option autoImplicit false

/-!
# Programs: retried calls

A call is repeated as long as its faults look passing and the strategy allows it, with a wait
before each repetition.  Any other fault ends it at once, and so does a wait that has no finite
length.
-/

namespace LeadFlow

/-- The wait before a retry in seconds. -/
def RetryStrategy.waitFor (s : RetryStrategy) (retry : Nat) : Outcome Float := do
  (← s.delayFor (.int retry)).toFloat

namespace Program

variable {I : Interface}

/-- A call with up to `left` further attempts, the next of which is number `retry`. -/
def retriedFrom (s : RetryStrategy) (c : I.Call) : Nat → Nat → Program I (I.Reply c)
  | 0, _ => perform c
  | left + 1, retry =>
    call c fun
      | .ok r => done r
      | .error f =>
        if f.isTransient then
          match s.waitFor retry with
          | .ok seconds => pause seconds (retriedFrom s c left (retry + 1))
          | .error e => fail e
        else fail f

/-- A call under a retry strategy. -/
def retried (s : RetryStrategy) (c : I.Call) : Program I (I.Reply c) := retriedFrom s c s.limit 1

end Program

end LeadFlow
