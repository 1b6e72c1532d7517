import LeadFlow.Lead
import LeadFlow.Message.Tag

set_option autoImplicit false

/-!
# Message: personal values

The values behind the tags: fields of the lead, of its knowledge base and of the sender.  A name
that is not built in is looked up in the knowledge base; a name without a value gives nothing, so
that no tag reaches a recipient.
-/

namespace LeadFlow.Message

/-- Where a built-in tag takes its value. -/
inductive Source where
  | firstName
  | lastName
  | name
  | company
  | email
  | knowledge (key : String)
  | insights
  | recentActivity
  | score
  | senderName
  | senderCompany
  | valueProp
  | productsServices
  | targetAudience
  deriving DecidableEq, Repr

/-- The built-in tags. -/
def builtIn : List (String × Source) := [
  ("first_name", .firstName), ("last_name", .lastName), ("full_name", .name), ("name", .name),
  ("lead_name", .name), ("company", .company), ("email", .email),
  ("title", .knowledge "title"), ("job_title", .knowledge "title"),
  ("industry", .knowledge "industry"), ("location", .knowledge "location"),
  ("company_overview", .knowledge "company_overview"),
  ("talking_point", .knowledge "talking_points"),
  ("outreach_angle", .knowledge "outreach_angle"),
  ("mentioned_on_website", .knowledge "mentioned_on_website"),
  ("company_size", .knowledge "employee_count"), ("employee_count", .knowledge "employee_count"),
  ("ai_insight", .insights), ("insights", .insights), ("insight_1", .insights),
  ("recent_activity", .recentActivity), ("score", .score),
  ("your_name", .senderName), ("sender_name", .senderName), ("sender_company", .senderCompany),
  ("value_prop", .valueProp), ("value_proposition", .valueProp),
  ("products_services", .productsServices), ("target_audience", .targetAudience)]

/-- The value a source has for a lead and a sender. -/
def Source.value (lead : Lead) (sender : Sender) : Source → Value
  | firstName => .str lead.firstName
  | lastName => .str lead.lastName
  | name => .str lead.name
  | company => .str lead.company
  | email => .str lead.email
  | knowledge key => lead.knowledge key
  | insights => .str lead.insights
  | recentActivity => .str (if lead.lastActivity = "" then lead.insights else lead.lastActivity)
  | score => lead.score.toValue
  | senderName => .str sender.senderName
  | senderCompany => .str sender.companyName
  | valueProp => .str sender.valueProp
  | productsServices => .str sender.productsServices
  | targetAudience => .str sender.targetAudience

/-- The value of a tag name, in whatever case it is written. -/
def tagValue (lead : Lead) (sender : Sender) (name : String) : String :=
  let key := Text.lower name
  match builtIn.lookup key with
  | some source => (source.value lead sender).copy
  | none => (lead.knowledge key).copy

/-- Fills a template for a lead and a sender. -/
def fill (lead : Lead) (sender : Sender) (template : String) : String :=
  .ofList (fillChars (fun name => (tagValue lead sender (.ofList name)).toList) template.toList)

/-- The value of a tag name, which should be a text. -/
def tagValueOf (lead : Lead) (sender : Sender) (name : Value) : Outcome String :=
  match name with
  | .str s => .ok (tagValue lead sender s)
  | v => .error (.lacks v.kindName "lower")

/-- Fills a template, which should be a text; an empty value of any kind gives an empty text. -/
def fillText (lead : Lead) (sender : Sender) (template : Value) : Outcome String :=
  match template with
  | .str s => .ok (fill lead sender s)
  | v => if v.isTruthy then .error (.noText v.kindName) else .ok ""

/-- The sender under another name, if one is given. -/
def calledBy (sender : Sender) (name : Value) : Sender :=
  if name.isTruthy then { sender with senderName := name.copy } else sender

end LeadFlow.Message
