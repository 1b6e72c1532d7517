import LeadFlow.Settings
import LeadFlow.Value.Arithmetic

set_option autoImplicit false

/-!
# Retry strategies

How many further attempts a call may have after a passing fault, and how long to wait before each.
The wait before retry `n` is `delay * factor ^ (n - 1)`, at most `maxDelay`, to the millisecond.
-/

namespace LeadFlow

/-- A retry strategy. -/
structure RetryStrategy where
  retries : Num
  delay : Num
  factor : Num
  maxDelay : Num
  deriving Repr, DecidableEq

namespace RetryStrategy

/-- The longest wait unless a strategy says otherwise, in seconds. -/
def hour : Num := .float 3600

/-- No retries. -/
def none : RetryStrategy := ⟨.int 0, .float 0, .float 1, hour⟩

/-- The same wait before each retry. -/
def fixed (retries delay : Num) : RetryStrategy := ⟨retries, delay, .float 1, delay.most (.float 0)⟩

/-- Waits that grow by a factor. -/
def backoff (retries delay maxDelay factor : Num) : RetryStrategy := ⟨retries, delay, factor, maxDelay⟩

/-- For calls to storage that may be repeated. -/
def forStorage (s : Settings) : RetryStrategy :=
  if s.storageRetries ≤ 0 then none else fixed (.int s.storageRetries) (.float s.storageRetryDelay)

/-- For the one deferred attempt after a failed delivery. -/
def forFallback (s : Settings) : RetryStrategy := fixed (.int 1) (.float s.fallbackRetryDelay)

/-- For requests to the model: doubling waits of at most half a minute. -/
def forModel (s : Settings) : RetryStrategy :=
  backoff (.int (max s.modelAttempts 1 - 1)) (.float s.modelRetryDelay) (.float 30) (.float 2)

/-- The number of attempts. -/
def attempts (s : RetryStrategy) : Outcome Num := s.retries.add (.int 1)

/-- The fault of a wait that is no real number, which cannot be compared with the longest. -/
def notReal (s : RetryStrategy) : Fault := .notComparable "<" s.maxDelay.toValue.kindName "complex"

/-- The wait before a retry, counted from 1. -/
def delayFor (s : RetryStrategy) (retry : Num) : Outcome Num :=
  if retry.lt (.int 1) || s.delay.le (.int 0) then .ok (.float 0)
  else do
    match ← s.factor.power? (← retry.add (.int (-1))) with
    | Option.none => .error s.notReal
    | some growth => return ((← s.delay.mul growth).least s.maxDelay).roundTo 3

/-- A retry is allowed after this fault. -/
def allows (s : RetryStrategy) (retry : Num) (f : Fault) : Bool :=
  retry.le s.retries && f.isTransient

/-- What stands for no bound on the number of retries: more than any finite double. -/
def unbounded : Nat := Nat.pow 2 1024

/-- The number of retries that are ever allowed: none with NaN, as no number is at most NaN. -/
def limit (s : RetryStrategy) : Nat :=
  match s.retries with
  | .int n => n.toNat
  | .float x =>
    match Decimal.floor x with
    | .ok n => n.toNat
    | .error _ => if 0 < x then unbounded else 0

/-- The strategy as fields. -/
def toFields (s : RetryStrategy) : Fields :=
  [("retries", s.retries.toValue), ("delay", s.delay.toValue), ("factor", s.factor.toValue),
    ("max_delay", s.maxDelay.toValue)]

end RetryStrategy

end LeadFlow
