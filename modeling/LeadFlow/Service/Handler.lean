import LeadFlow.Service.Answer
import LeadFlow.Service.Hosts
import LeadFlow.Service.Order
import LeadFlow.Service.Route
import LeadFlow.Storage.Deployment

set_option autoImplicit false

/-!
# Service: handling requests

A request is led to its endpoint, checked, and answered.  A body that is no JSON is refused before
anything else is looked at, then a request without an actor, and only then what else is wrong with
it.  Views leave the stored data alone.  An execution that cannot be committed is answered all the
same, and leaves nothing behind.
-/

namespace LeadFlow.Service

open Execution Storage

/-- What the service is set up with. -/
structure Setup (τ σ : Type) where
  settings : Settings
  network : Network τ σ
  rowId : Nat → String
  runId : Nat → String
  requestId : Nat → String

/-- What lasts from one request to the next. -/
structure Site (τ σ : Type) where
  deployment : Deployment (Hosts τ σ)
  requestsIssued : Nat

namespace Setup

variable {τ σ : Type} [Timeline τ]

/-- What an actor executes workflows with. -/
def desk (u : Setup τ σ) (actor : String) (sender : Sender) : Desk τ (Hosts τ σ) where
  others := u.network.outside u.settings
  task := Registry.builtIn.task
  context := ⟨actor, u.settings, sender, Writer.isConfigured u.settings⟩
  rowId := u.rowId
  runId := u.runId

/-- The actor of a request. -/
def actorOf (r : Request) : Handled String :=
  match r.actor? with
  | some actor => .ok actor
  | none => .error (.fault ⟨.actorRequired, none⟩)

/-- A limit from the request, or from the settings. -/
def limitOr (usual : Int) (asked : Option Int) : Int := asked.getD usual

/-! ## Endpoints -/

/-- What the liveness probe answers. -/
def health (u : Setup τ σ) : Value :=
  .object [("app", .str u.settings.appName), ("version", .str u.settings.appVersion),
    ("status", .str "healthy")]

/-- What the readiness probe answers. -/
def readiness (d : Deployment (Hosts τ σ)) : Handled Value :=
  if d.database.reachable then .ok (.object [("status", .str "healthy"), ("database", .str "ok")])
  else .error .unready

/-- A view, as the content that is answered. -/
def viewed {α : Type} (u : Setup τ σ) (d : Deployment (Hosts τ σ)) (p : Storage α)
    (content : α → Outcome Value) : Handled Value :=
  settled ((d.transact u.rowId p).1.bind content)

/-- A view for the actor of a request; `page` reads what is wanted of it. -/
def view {α β : Type} (u : Setup τ σ) (r : Request) (d : Deployment (Hosts τ σ))
    (page : Decode.Checked β) (p : String → β → Storage α) (content : α → Outcome Value) :
    Handled Value := do
  let actor ← actorOf r
  let wanted ← handled page
  u.viewed d (p actor wanted) content

/-- The log. -/
def log (u : Setup τ σ) (r : Request) (d : Deployment (Hosts τ σ)) : Handled Value :=
  u.view r d (LogPage.ofTarget r.target)
    (fun actor page => logView actor page.workflowId (limitOr u.settings.executionLogLimit page.limit))
    fun entries => .object <$> logFields entries

/-- The figures of the nodes of a workflow. -/
def nodes (u : Setup τ σ) (r : Request) (d : Deployment (Hosts τ σ)) (workflowId : String) :
    Handled Value :=
  u.view r d (countIn r.target "window" 5000)
    (fun actor window => nodesView actor workflowId (limitOr u.settings.nodeWindow window))
    fun ms => do return .list ((← ms.mapM metricFields).map .object)

/-- The triggers of a workflow. -/
def triggers (u : Setup τ σ) (r : Request) (d : Deployment (Hosts τ σ)) (workflowId : String) :
    Handled Value :=
  u.view r d (.ok ())
    (fun actor _ => triggersView actor workflowId u.settings.schedulingZone u.settings.nodeWindow)
    fun report => .ok (.object report.toFields)

/-- The totals of the actor. -/
def summary (u : Setup τ σ) (r : Request) (d : Deployment (Hosts τ σ)) : Handled Value :=
  u.view r d (.ok ()) (fun actor _ => summaryView actor) fun s => .ok (.object s.toFields)

/-- An order to execute a workflow, with the actor who gives it. -/
def orderOf (r : Request) : Handled (String × Order) := do
  let body ← (bodyValue r).mapError bodyRefusal
  let actor ← actorOf r
  return (actor, ← handled (orderIn body))

/-- Executes a workflow.  Nothing is kept of an execution whose results cannot be shown. -/
def execute (u : Setup τ σ) (r : Request) (workflowId : String) (d : Deployment (Hosts τ σ)) :
    Handled Value × Deployment (Hosts τ σ) :=
  match orderOf r with
  | .error e => (.error e, d)
  | .ok (actor, order) =>
    let (outcome, d') := d.execute (u.desk actor order.sender) workflowId order.leads
    match outcome.bind fun e => .object <$> batchFields e.batch with
    | .ok content => (.ok content, d')
    | .error f => (.error (.fault f), { d' with database := d.database })

/-- What an endpoint answers a request with, and what lasts. -/
def handle (u : Setup τ σ) (r : Request) (d : Deployment (Hosts τ σ)) :
    Endpoint → Handled (Option Value) × Deployment (Hosts τ σ)
  | .health => (.ok (some u.health), d)
  | .readiness => (some <$> readiness d, d)
  | .log => (some <$> u.log r d, d)
  | .nodes id => (some <$> u.nodes r d id, d)
  | .triggers id => (some <$> u.triggers r d id, d)
  | .summary => (some <$> u.summary r d, d)
  | .docs => (.ok none, d)
  | .execute id =>
    let (answer, d) := u.execute r id d
    (some <$> answer, d)

/-! ## Responses -/

/-- What a request comes to, and what lasts. -/
def answer (u : Setup τ σ) (r : Request) (d : Deployment (Hosts τ σ)) :
    Handled (Option Value) × Deployment (Hosts τ σ) :=
  match Destination.find u.settings r.method r.target.path with
  | .endpoint e => u.handle r d e
  | .wrongMethod => (.error .wrongMethod, d)
  | .elsewhere => (.error .redirected, d)
  | .nowhere => (.error .notFound, d)

/-- The id of a request: its own, or the next one of the supply. -/
def nameRequest (u : Setup τ σ) (r : Request) (issued : Nat) : String × Nat :=
  match r.id? with
  | some id => (id, issued)
  | none => (u.requestId issued, issued + 1)

/-- The response for what a request came to. -/
def responseFor (u : Setup τ σ) (requestId : String) : Handled (Option Value) → Response
  | .ok body => ⟨200, body, requestId⟩
  | .error e => ⟨e.status, e.body u.settings requestId, requestId⟩

/-- Responds to a request.  Who asks for the head of a response gets no body. -/
def respond (u : Setup τ σ) (r : Request) (site : Site τ σ) : Response × Site τ σ :=
  let (id, issued) := u.nameRequest r site.requestsIssued
  let (answer, d) := u.answer r site.deployment
  let response := u.responseFor id answer
  (if r.method = "HEAD" then { response with body := none } else response, ⟨d, issued⟩)

end Setup

end LeadFlow.Service
