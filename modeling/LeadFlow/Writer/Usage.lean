import LeadFlow.Value.Arithmetic

set_option autoImplicit false

/-!
# Writer: accounting

How many requests the writing model has had, how many of them failed, and the tokens of the others
in all.
-/

namespace LeadFlow.Writer

/-- Running totals. -/
structure Usage where
  requests : Nat
  failures : Nat
  inputTokens : Num
  outputTokens : Num
  deriving Repr

namespace Usage

/-- Nothing asked yet. -/
def zero : Usage := ⟨0, 0, .int 0, .int 0⟩

/-- The totals after a request that failed. -/
def failed (u : Usage) : Usage := { u with requests := u.requests + 1, failures := u.failures + 1 }

/-- The name of the kind of a number. -/
def kindName (n : Num) : String := n.toValue.kindName

/-- A total and a count that may be anything. -/
def plus (total : Num) (count : Value) : Outcome Num :=
  match Num.ofValue? count with
  | some n => total.add n
  | none =>
    .error (.noOperation "+=" (kindName total) count.kindName)

/-- The totals after a request that was answered; a count that is no number is a fault, and what was
counted before it stays counted. -/
def answered (u : Usage) (input output : Value) : Outcome Unit × Usage :=
  let u := { u with requests := u.requests + 1 }
  match plus u.inputTokens input with
  | .error f => (.error f, u)
  | .ok i =>
    let u := { u with inputTokens := i }
    match plus u.outputTokens output with
    | .error f => (.error f, u)
    | .ok o => (.ok (), { u with outputTokens := o })

/-- The totals after a request that was answered with numbers. -/
def counted (u : Usage) (input output : Value) : Outcome Usage := do
  let (done, u) := u.answered input output
  done
  return u

/-- What an entry of a record holds: the items of a list, the keys of an object or the characters of
a text. -/
def entryItems : Value → Outcome (List Value)
  | .list items => .ok items
  | .object fs => .ok (fs.map fun f => .str f.1)
  | .str s => .ok (s.toList.map fun c => .str (.singleton c))
  | v => .error (.of .type
      s!"integrations.claude_client.TokenUsageTracker.record() argument after * must be an iterable, not {v.kindName}")

/-- The totals after a request on record: its input and output tokens, and whether it was answered
unless it was. -/
def recorded (u : Usage) (entry : Value) : Outcome Usage := do
  match ← entryItems entry with
  | [] =>
    .error (.of .type
      "TokenUsageTracker.record() missing 2 required positional arguments: 'input_tokens' and 'output_tokens'")
  | [_] =>
    .error (.of .type
      "TokenUsageTracker.record() missing 1 required positional argument: 'output_tokens'")
  | [input, output] => u.counted input output
  | [input, output, answered] => if answered.isTruthy then u.counted input output else return u.failed
  | items =>
    .error (.of .type
      s!"TokenUsageTracker.record() takes from 3 to 4 positional arguments but {items.length + 1} were given")

/-- The totals as fields. -/
def toFields (u : Usage) : Fields :=
  [("total_requests", .ofNat u.requests), ("failed_requests", .ofNat u.failures),
    ("total_input_tokens", u.inputTokens.toValue), ("total_output_tokens", u.outputTokens.toValue)]

end Usage

end LeadFlow.Writer
