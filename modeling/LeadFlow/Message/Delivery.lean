import LeadFlow.Execution.Call
import LeadFlow.Http.Address
import LeadFlow.Http.Exchange
import LeadFlow.Http.Header

set_option autoImplicit false

/-!
# Message: delivery

A message is delivered by posting it to the provider's address.  A problem with the provider is a
delivery that did not succeed; a token or an address that cannot be used is a fault.  An address
without a host is read from the root; the provider may answer, but no address can be made of it
afterwards, which is a fault too.
-/

namespace LeadFlow.Message

open Execution Http

/-- The value of the header that says who sends, if there is one. -/
def tokenHeader? (s : Settings) : Option String :=
  if s.emailToken = "" then none else some s!"Bearer {s.emailToken}"

/-- The provider's address, and the value of the header that says who sends: the user of the address,
or else the token. -/
def providerOf (s : Settings) : Outcome (Address × Option String) := do
  if let some f := (tokenHeader? s).bind asciiFault? then throw f
  let a ← (Address.read s.emailUrl).mapError fun r => .of .invalidAddress r.message
  let a := if a.isAbsolute then a else a.fromRoot
  return (a, a.credentials?.orElse fun _ => tokenHeader? s)

/-- The request that delivers a message. -/
def deliveryRequest (url : String) (authorization : Option String) (address : String) (content : Content)
    (tracking : Tracking) (leadId : String) : Request where
  url := url
  headers := ("content-type", "application/json") ::
    (authorization.map fun v => ("authorization", v)).toList
  body := .object ([("to_email", .str address), ("subject", content.subject),
      ("html_body", content.body), ("track_opens", .bool tracking.opens),
      ("track_clicks", .bool tracking.clicks)] ++
    (if leadId = "" then [] else [("lead_id", .str leadId)]))

/-- A delivery that did not succeed. -/
def undelivered (error : String) : Delivery := ⟨false, .null, .str error⟩

/-- The first of some values that says something, or the last. -/
def firstTruthy (last : Value) : List Value → Value
  | [] => last
  | v :: vs => if v.isTruthy then v else firstTruthy last vs

/-- The id the provider gave the message. -/
def messageIdIn (fs : Fields) : Value :=
  let field (key : String) := (Fields.get? fs key).getD .null
  firstTruthy (field "id") [field "message_id", field "messageId"]

/-- The fields of a response.  One that is no JSON or no object says nothing. -/
def reportIn (r : Response) : Outcome Fields :=
  match r.json with
  | .ok v => .ok (v.fields?.getD [])
  | .error f => if f.kind.isValueFault then .ok [] else .error f

/-- What the report of the provider comes to. -/
def deliveryOf (r : Response) (fs : Fields) : Delivery :=
  if r.isSuccess && ((Fields.get? fs "success").getD (.bool true)).isTruthy then
    ⟨true, messageIdIn fs, .null⟩
  else
    let error := (Fields.get? fs "error").getD .null
    undelivered (if error.isTruthy then error.display else s!"HTTP {r.status}")

/-- What a response from an address comes to. -/
def deliveryFrom (a : Address) (r : Response) : Outcome Delivery :=
  if a.isAbsolute then (reportIn r).map (deliveryOf r)
  else .error (.of .value s!"unknown url type: {Text.quoted a.text}")

/-- What a fault on the way to the provider comes to. -/
def deliveryFault (f : Fault) : Outcome Delivery :=
  match f.kind.network? with
  | some cause => .ok (undelivered (if cause.isTimeout then "Email provider timeout" else f.summary))
  | none => .error f

/-- Delivers a message. -/
def deliver (s : Settings) (address : String) (content : Content) (tracking : Tracking) (leadId : String) :
    Talk Delivery :=
  if !s.deliversEmail then .done (undelivered "Email transport not configured")
  else do
    let (a, authorization) ← Program.ofOutcome (providerOf s)
    .call (deliveryRequest a.text authorization address content tracking leadId) fun
      | .ok r => Program.ofOutcome (deliveryFrom a r)
      | .error f => Program.ofOutcome (deliveryFault f)

end LeadFlow.Message
