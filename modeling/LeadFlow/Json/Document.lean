import LeadFlow.Fault
import LeadFlow.Json.Reader
import LeadFlow.Text.Encoding

set_option autoImplicit false

/-!
# Json: documents

A document is JSON as it comes over the network, in one of several encodings.  A broken form, a number
that is too long, values nested too deep and bytes that make no text are faults of different kinds.
-/

namespace LeadFlow.Json

/-- The kind of fault that a cause makes. -/
def Cause.faultKind : Cause → FaultKind
  | digits _ => .value
  | depth _ => .recursion
  | _ => .jsonDecode

/-- The fault of a text that is refused. -/
def Refusal.fault (r : Refusal) (s : String) : Fault := .of r.cause.faultKind (r.message s)

/-- Why a document is not read. -/
inductive Unread where
  | bytes (r : Text.ByteRefusal)
  | text (r : Refusal) (s : String)
  deriving DecidableEq, Repr

/-- The fault. -/
def Unread.fault : Unread → Fault
  | bytes r => .of .unicodeDecode r.message
  | text r s => r.fault s

/-- The value of a document whose bytes are those of a text. -/
def readDocument (s : String) : Except Unread Value :=
  match Text.documentChars s with
  | .error r => .error (.bytes r)
  | .ok cs =>
    let s := String.ofList cs
    (read s).mapError fun r => .text r s

end LeadFlow.Json
