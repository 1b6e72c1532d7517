import LeadFlow.Json.Document
import LeadFlow.Json.Printer
import LeadFlow.Program.Course

set_option autoImplicit false

/-!
# Http: exchanges with hosts

A request posts a value to an address and is answered with a status and a text, or ends in a fault
of the network.
-/

namespace LeadFlow.Http

/-- A request that posts JSON. -/
structure Request where
  url : String
  headers : List (String × String)
  body : Value
  deriving Repr

/-- The request, unless its body cannot be written: JSON has no word for infinities and NaN. -/
def Request.written (r : Request) : Outcome Request :=
  if r.body.isFinite then .ok r
  else .error (.of .value "Out of range float values are not JSON compliant")

/-- A response. -/
structure Response where
  status : Int
  text : String
  deriving DecidableEq, Repr

/-- The status stands for success. -/
def Response.isSuccess (r : Response) : Bool := 200 ≤ r.status && r.status < 300

/-- The value of a response's text. -/
def Response.json (r : Response) : Outcome Value := (Json.readDocument r.text).mapError (·.fault)

/-- Exchanges over the network. -/
def network : Interface := ⟨Request, fun _ => Response⟩

/-- Work with a host. -/
abbrev Talk (α : Type) := Program network α

/-- A host that answers from a list: the last answer repeats, and without any it sends an empty
object. -/
def prepared {τ : Type} [Timeline τ] : Outside network τ (List (Outcome Response)) := fun _ _ answers =>
  match answers with
  | [] => ⟨Timeline.zero, .ok ⟨200, "\x7b\x7d"⟩, []⟩
  | [a] => ⟨Timeline.zero, a, [a]⟩
  | a :: rest => ⟨Timeline.zero, a, rest⟩

/-- A host that cannot be reached. -/
def unreachable {τ σ : Type} [Timeline τ] : Outside network τ σ := fun _ _ host =>
  ⟨Timeline.zero, .error (.of (.network .connect) "All connection attempts failed"), host⟩

end LeadFlow.Http
