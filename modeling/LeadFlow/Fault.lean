import LeadFlow.Text.Quoted
import LeadFlow.Text.Casing
import LeadFlow.Text.Search

set_option autoImplicit false

/-!
# Faults

A fault is what ends a call early: its kind and, mostly, a text.  Collaborators raise faults, and
so do the rules of this library.  The kind decides the label and the HTTP status, and together
with the text whether the fault looks like a passing one.
-/

namespace LeadFlow

/-- What may go wrong between the service and a host it talks to. -/
inductive NetworkFault where
  | readTimeout
  | connectTimeout
  | connect
  | read
  | protocol
  deriving DecidableEq, Repr

namespace NetworkFault

/-- The label. -/
def label : NetworkFault → String
  | readTimeout => "ReadTimeout"
  | connectTimeout => "ConnectTimeout"
  | connect => "ConnectError"
  | read => "ReadError"
  | protocol => "RemoteProtocolError"

/-- The host took too long. -/
def isTimeout : NetworkFault → Bool
  | readTimeout | connectTimeout => true
  | _ => false

end NetworkFault

/-- The kind of a fault. -/
inductive FaultKind where
  | general
  | runtime
  | value
  | type
  | key
  | attributes
  | overflow
  | zeroDivision
  | os
  | connection
  | connectionReset
  | timeout
  | network (cause : NetworkFault)
  | zoneNotFound
  | jsonDecode
  | unicodeDecode
  | unicodeEncode
  | recursion
  | memory
  | invalidAddress
  | malformed
  | operational
  | programming
  | integrity
  | pendingRollback
  | severalRows
  | automation (status : Int)
  | actorRequired
  | notFound
  | validation
  | definition
  | collaborator
  deriving DecidableEq, Repr

namespace FaultKind

/-- The label of a kind. -/
def label : FaultKind → String
  | general => "Exception"
  | runtime => "RuntimeError"
  | value => "ValueError"
  | type => "TypeError"
  | key => "KeyError"
  | attributes => "AttributeError"
  | overflow => "OverflowError"
  | zeroDivision => "ZeroDivisionError"
  | os => "OSError"
  | connection => "ConnectionError"
  | connectionReset => "ConnectionResetError"
  | timeout => "TimeoutError"
  | network cause => cause.label
  | zoneNotFound => "ZoneInfoNotFoundError"
  | jsonDecode => "JSONDecodeError"
  | unicodeDecode => "UnicodeDecodeError"
  | unicodeEncode => "UnicodeEncodeError"
  | recursion => "RecursionError"
  | memory => "MemoryError"
  | invalidAddress => "InvalidURL"
  | malformed => "ValidationError"
  | operational => "OperationalError"
  | programming => "ProgrammingError"
  | integrity => "IntegrityError"
  | pendingRollback => "PendingRollbackError"
  | severalRows => "MultipleResultsFound"
  | automation _ => "AutomationException"
  | actorRequired => "ActorRequiredError"
  | notFound => "NotFoundError"
  | validation => "ValidationError"
  | definition => "WorkflowDefinitionError"
  | collaborator => "CollaboratorError"

/-- The HTTP status of the kinds that stand for an answer of the service. -/
def status? : FaultKind → Option Int
  | automation status => some status
  | actorRequired => some 401
  | notFound => some 404
  | validation => some 422
  | definition => some 422
  | collaborator => some 502
  | _ => none

/-- The text of a fault raised without one. -/
def defaultText : FaultKind → String
  | actorRequired => "Missing X-Actor-Id header"
  | notFound => "Resource not found"
  | validation => "Validation failed"
  | definition => "Invalid workflow definition"
  | collaborator => "Collaborator call failed"
  | _ => ""

/-- Kinds that pass by themselves whatever their text says. -/
def isPassing : FaultKind → Bool
  | connection | connectionReset | timeout | collaborator => true
  | _ => false

/-- Kinds that a wrong value gives rise to. -/
def isValueFault : FaultKind → Bool
  | value | jsonDecode | unicodeDecode | unicodeEncode | malformed => true
  | _ => false

/-- The network fault behind a kind. -/
def network? : FaultKind → Option NetworkFault
  | network cause => some cause
  | _ => none

/-- Kinds that come from the database. -/
def isDatabaseFault : FaultKind → Bool
  | operational | programming | integrity | pendingRollback | severalRows => true
  | _ => false

end FaultKind

/-- A fault: its kind, and its text unless it was raised without one. -/
structure Fault where
  kind : FaultKind
  text? : Option String
  deriving DecidableEq, Repr

namespace Fault

/-- A fault with a text. -/
def of (kind : FaultKind) (text : String) : Fault := ⟨kind, some text⟩

/-- The text given, or that of the kind. -/
def given (f : Fault) : String := f.text?.getD f.kind.defaultText

/-- The text as shown: what was looked up in vain is shown in quotes. -/
def text (f : Fault) : String :=
  match f.kind, f.text? with
  | .key, some s | .zoneNotFound, some s => Text.quoted s
  | _, _ => f.given

/-- The text as shown, or the label if there is none. -/
def summary (f : Fault) : String := if f.text = "" then f.kind.label else f.text

/-- Readable text for a failed call of a collaborator. -/
def reason (f : Fault) : String :=
  if f.kind.status?.isSome && f.given ≠ "" then f.given else f.summary

/-- Parts of a text that point to a problem that will pass. -/
def passingMarks : List String :=
  ["timeout", "timed out", "connection", "temporar", "locked", "429", "502", "503", "504"]

/-- The fault looks like a passing problem of a backend. -/
def isTransient (f : Fault) : Bool :=
  f.kind.isPassing || passingMarks.any fun m => Text.contains (Text.lower f.text) m

/-! ## Faults of numbers -/

/-- A whole number beyond the largest double. -/
def tooLarge : Fault := .of .overflow "int too large to convert to float"

/-- A value outside the members of an enumeration. -/
def notAMember (shown enumeration : String) : Fault :=
  .of .value s!"{shown} is not a valid {enumeration}"

/-- Use of something that lacks an attribute as if it had it. -/
def lacks (kindName member : String) : Fault :=
  .of .attributes s!"'{kindName}' object has no attribute '{member}'"

/-- Use of something that has no fields as if it had. -/
def noFields (kindName : String) : Fault := .lacks kindName "get"

/-- Use of something that is no text as if it were. -/
def noText (kindName : String) : Fault :=
  .of .type s!"expected string or bytes-like object, got '{kindName}'"

/-- Use of something that is no text as the name of an attribute. -/
def nameless (kindName : String) : Fault :=
  .of .type s!"attribute name must be string, not '{kindName}'"

/-- A comparison of values that have no order. -/
def notComparable (sign left right : String) : Fault :=
  .of .type s!"'{sign}' not supported between instances of '{left}' and '{right}'"

/-- An operation on values that it is not for. -/
def noOperation (sign left right : String) : Fault :=
  .of .type s!"unsupported operand type(s) for {sign}: '{left}' and '{right}'"

/-- A loop over something that has no items. -/
def notIterable (kindName : String) : Fault := .of .type s!"'{kindName}' object is not iterable"

end Fault

/-- A result, or the fault that stands in its place. -/
abbrev Outcome (α : Type) := Except Fault α

end LeadFlow
