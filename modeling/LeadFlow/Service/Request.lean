import LeadFlow.Json.Document
import LeadFlow.Service.Target

set_option autoImplicit false

/-!
# Service: requests and responses

A request names its actor in a header; who that is has been verified before the request comes in.  It
may bring an id of its own, which the response repeats.
-/

namespace LeadFlow.Service

/-- A request. -/
structure Request where
  method : String
  target : Target
  headers : List (String × String)
  body : String
  deriving DecidableEq, Repr

namespace Request

/-- The first header of a name, in any case; an empty one says nothing. -/
def header? (r : Request) (name : String) : Option String :=
  let found := r.headers.find? fun h => h.1.map Char.toLower == name
  (found.map (·.2)).filter (· != "")

/-- Who acts. -/
def actor? (r : Request) : Option String := r.header? "x-actor-id"

/-- The id that the request brings. -/
def id? (r : Request) : Option String := r.header? "x-request-id"

/-- The name of the kind of content, without what follows a semicolon. -/
def contentType (r : Request) : String :=
  Text.trim (((r.header? "content-type").getD "").map Char.toLower |> (Text.before · ";"))

/-- The body is said to be JSON. -/
def isJson (r : Request) : Bool :=
  match Text.split '/' r.contentType with
  | ["application", kind] => kind == "json" || (Text.cutAt? "+json".toList kind.toList).any (·.2.isEmpty)
  | _ => false

end Request

/-- A response; one without content has no body. -/
structure Response where
  status : Int
  body : Option Value
  requestId : String
  deriving Repr

end LeadFlow.Service
