import LeadFlow.Json.Printer
import LeadFlow.Lead
import LeadFlow.Value.Display

set_option autoImplicit false

/-!
# Writer: prompts

What the writing model is asked: to reword a draft for one lead, with the facts known about the lead
and the sender.  Facts without a value are left out.
-/

namespace LeadFlow.Writer

/-- The value says something. -/
def isKnown : Value → Bool
  | .null | .str "" => false
  | _ => true

/-- The known facts about a lead. -/
def facts (lead : Lead) : Fields :=
  [("name", .str lead.name), ("company", .str lead.company), ("score", lead.score.toValue),
    ("status", .str lead.status), ("insights", .str lead.insights),
    ("industry", lead.knowledge "industry"), ("title", lead.knowledge "title"),
    ("company_overview", lead.knowledge "company_overview")].filter fun f => isKnown f.2

/-- The text of a part of the brief; empty if it is absent. -/
def briefText (brief : Fields) (key : String) : String := ((Fields.get? brief key).getD (.str "")).display

/-- The sender in the brief; none if there is nothing to say of it. -/
def briefSender (brief : Fields) : Value :=
  let sender := (Fields.get? brief "sender").getD .null
  if sender.isTruthy then sender else .object []

/-- The prompt for a lead and a brief. -/
def prompt (lead : Lead) (brief : Fields) : String :=
  "Rewrite this outreach email so it speaks directly to the lead below. " ++
  "Keep the intent and call to action; do not invent facts.\n\n" ++
  "Lead: " ++ Json.print (.object (facts lead)) ++ "\n" ++
  "Sender: " ++ Json.print (briefSender brief) ++ "\n" ++
  "Workflow step: " ++ briefText brief "step_title" ++ "\n\n" ++
  "Subject:\n" ++ briefText brief "subject" ++ "\n\n" ++
  "Body:\n" ++ briefText brief "body"

/-- The shape of the answer. -/
def answerSchema : Value :=
  let field (description : String) : Value :=
    .object [("type", .str "string"), ("description", .str description)]
  .object [("type", .str "object"),
    ("properties", .object [("subject", field "Email subject line"),
      ("body", field "Email body as simple HTML paragraphs")]),
    ("required", .list [.str "subject", .str "body"])]

end LeadFlow.Writer
