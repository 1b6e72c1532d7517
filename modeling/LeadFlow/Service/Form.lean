import LeadFlow.Json.Printer
import LeadFlow.Service.Request
import LeadFlow.Text.Casing
import LeadFlow.Value.Part

set_option autoImplicit false

/-!
# Service: requests and responses as fields

A request can be written down as an object with a method, a path, headers, and a body that is a text
or a JSON value; a response as one with a status, a body and the id of the request.
-/

namespace LeadFlow.Service

open Fields

/-- Headers: names and values. -/
abbrev Headers := List (String × String)

/-- Headers from fields; what is no text is empty. -/
def headersOf (fs : Fields) : Headers := fs.map fun (name, v) => (name, (v.text?).getD "")

/-- A request from fields; `usual` are the headers of one that does not mention any.  A JSON value
as the body brings the header that says so. -/
def Request.ofFields (usual : Headers) (fs : Fields) : Request :=
  let headers := ((Fields.get? fs "headers").map fun h => headersOf (fieldsOf h)).getD usual
  let (headers, body) :=
    match Fields.get? fs "json" with
    | some v => (headers ++ [("Content-Type", "application/json")], Json.print v)
    | none => (headers, textPart fs "body")
  ⟨Text.upper (textPart fs "method" "GET"), .ofText (textPart fs "path"), headers, body⟩

/-- A response as fields; one without a body has the empty text. -/
def Response.toFields (r : Response) : Fields :=
  [("status", .int r.status), ("body", r.body.getD (.str "")), ("request_id", .str r.requestId)]

end LeadFlow.Service
