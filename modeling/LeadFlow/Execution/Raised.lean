import LeadFlow.Fault
import LeadFlow.Value.Display
import LeadFlow.Value.Part

set_option autoImplicit false

/-!
# Execution: faults by name

A fault can be asked for by the name of its kind and the values it is to be raised with.  The kinds
that stand for an answer of the service are raised with a text of their own or none; the general one
of them needs a text and may have a status.  Every other kind takes any values.
-/

namespace LeadFlow

/-- The kinds that can be asked for. -/
def FaultKind.scripted : List FaultKind :=
  [.general, .runtime, .value, .type, .key, .os, .connection, .connectionReset, .timeout,
    .automation 500, .actorRequired, .notFound, .validation, .definition, .collaborator]

/-- Kinds of trouble with the system below. -/
def FaultKind.isOfSystem : FaultKind → Bool
  | .os | .connection | .connectionReset | .timeout => true
  | _ => false

/-- A fault asked for: its kind and the values it is raised with. -/
structure Raised where
  kind : FaultKind
  given : List Value
  deriving Repr

namespace Raised

/-- The kind stands for an answer of the service. -/
def isAnswer (r : Raised) : Bool := r.kind.status?.isSome

/-- The values are as many as the kind takes. -/
def check (r : Raised) : Outcome Unit :=
  match r.kind, r.given with
  | .automation _, [] =>
    .error (.of .type "AutomationException.__init__() missing 1 required positional argument: 'message'")
  | .automation _, _ => .ok ()
  | _, vs =>
    if r.isAnswer && 1 < vs.length then
      .error (.of .type
        s!"{r.kind.label}.__init__() takes from 1 to 2 positional arguments but {vs.length + 1} were given")
    else .ok ()

/-- The text as shown. -/
def text (r : Raised) : String :=
  match r.given with
  | [] => r.kind.defaultText
  | [v] => if r.kind == .key then v.inspect else v.display
  | v :: vs =>
    if r.isAnswer then v.display
    else if r.kind.isOfSystem && vs.length == 1 then
      s!"[Errno {v.display}] " ++ ", ".intercalate (vs.map Value.display)
    else "(" ++ ", ".intercalate (Value.inspectItems r.given) ++ ")"

/-- The text that an answer of the service has. -/
def message (r : Raised) : Value :=
  if r.isAnswer then r.given.head?.getD (.str r.kind.defaultText) else .null

/-- The status that an answer of the service has. -/
def status (r : Raised) : Value :=
  match r.kind, r.given with
  | .automation status, [_, v] => if v.isNull then .int status else v
  | kind, _ => (kind.status?.map Value.int).getD .null

/-- The fault itself. -/
def fault (r : Raised) : Outcome Fault := do
  r.check
  let kind :=
    match r.kind, r.status with
    | .automation _, .int n => .automation n
    | kind, _ => kind
  return ⟨kind,
    match r.given with
    | [] => none
    | [.str s] => some s
    | _ => some r.text⟩

/-- A fault asked for by `kind`, `message` and further values. -/
def ofFields (fs : Fields) (further : List Value) : Outcome Raised := do
  match Fields.get? fs "kind" with
  | none => .error (.of .key "kind")
  | some name =>
    match FaultKind.scripted.find? fun k => name.text? == some k.label with
    | none => .error (.of .key name.display)
    | some kind =>
      let message := fs.part "message"
      return ⟨kind, (if message.isNull then [] else [message]) ++ further⟩

end Raised

/-- The fault that fields ask for. -/
def Fault.ofFields (fs : Fields) : Outcome Fault := do (← Raised.ofFields fs []).fault

/-- The fault that comes of raising what fields ask for. -/
def Fault.raisedBy (fs : Fields) : Fault :=
  match Fault.ofFields fs with
  | .ok f => f
  | .error f => f

end LeadFlow
