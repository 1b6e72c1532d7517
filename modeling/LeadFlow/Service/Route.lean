import LeadFlow.Service.Request
import LeadFlow.Settings

set_option autoImplicit false

/-!
# Service: routes

A path leads to an endpoint, which may have the id of a workflow in it, and an endpoint admits some
methods.  A path that would lead somewhere with a slash more or less at its end is redirected.
-/

namespace LeadFlow.Service

/-- What can be asked for. -/
inductive Endpoint where
  | health
  | readiness
  | execute (workflowId : String)
  | log
  | nodes (workflowId : String)
  | triggers (workflowId : String)
  | summary
  /-- a description of the service -/
  | docs
  deriving DecidableEq, Repr

/-- The methods that an endpoint admits. -/
def Endpoint.methods : Endpoint → List String
  | execute _ => ["POST"]
  | docs => ["GET", "HEAD"]
  | _ => ["GET"]

/-- A way to an endpoint: a path, or two parts of a path with an id between them. -/
inductive Route where
  | plain (path : String) (endpoint : Endpoint)
  | withId (stem tail : String) (endpoint : String → Endpoint)

namespace Route

/-- The characters between two parts. -/
def between? (stem tail path : List Char) : Option (List Char) := do
  let rest ← Text.after? stem path
  let back ← Text.after? tail.reverse rest.reverse
  return back.reverse

/-- The endpoint that a path leads to on this way.  An id is not empty and has no slash in it. -/
def endpoint? (path : String) : Route → Option Endpoint
  | plain p e => if p = path then some e else none
  | withId stem tail e =>
    match between? stem.toList tail.toList path.toList with
    | some id => if id.isEmpty || id.contains '/' then none else some (e (.ofList id))
    | none => none

/-- The pages that describe the service; those for readers are there in development only. -/
def forDocs (s : Settings) : List Route :=
  let pages := if s.isDevelopment then ["/docs", "/docs/oauth2-redirect", "/redoc"] else []
  ("/openapi.json" :: pages).map (plain · .docs)

/-- The ways to the probes, under a path. -/
def forProbes (under : String) : List Route :=
  [plain (under ++ "/health") .health, plain (under ++ "/health/ready") .readiness]

/-- All ways. -/
def all (s : Settings) : List Route :=
  forDocs s ++ forProbes "/api" ++ forProbes s.apiPrefix ++
    [withId (s.apiPrefix ++ "/workflows/") "/execute" .execute,
      plain (s.apiPrefix ++ "/executions/log") .log,
      withId (s.apiPrefix ++ "/analytics/workflows/") "/nodes" .nodes,
      withId (s.apiPrefix ++ "/analytics/workflows/") "/triggers" .triggers,
      plain (s.apiPrefix ++ "/analytics/summary") .summary]

/-- The endpoints that a path leads to. -/
def endpoints (s : Settings) (path : String) : List Endpoint := (all s).filterMap (endpoint? path)

end Route

/-- Where a request leads. -/
inductive Destination where
  | endpoint (e : Endpoint)
  /-- there is an endpoint, for other methods -/
  | wrongMethod
  /-- there is one with a slash more or less at the end -/
  | elsewhere
  | nowhere
  deriving DecidableEq, Repr

namespace Destination

/-- The path without the slashes at its end, or with one if it has none. -/
def otherPath (path : String) : String :=
  match path.toList.reverse with
  | '/' :: rest => .ofList (rest.dropWhile (· == '/')).reverse
  | _ => path ++ "/"

/-- The destination of a method and a path. -/
def find (s : Settings) (method path : String) : Destination :=
  match Route.endpoints s path with
  | [] =>
    if path = "/" || (Route.endpoints s (otherPath path)).isEmpty then nowhere else elsewhere
  | es =>
    match es.find? (·.methods.contains method) with
    | some e => endpoint e
    | none => wrongMethod

end Destination

end LeadFlow.Service
