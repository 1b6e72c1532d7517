import LeadFlow.Storage.Deployment

set_option autoImplicit false

/-!
# Storage: first data

Seeding puts the shared templates into a database, one for each category that has none, and for an
owner without leads a few leads and a workflow to try.  What is there already stays as it is, and a
fault takes back every row.
-/

namespace LeadFlow.Storage

/-- A tag as it stands in a template. -/
def tag (name : String) : String := "\x7b\x7b" ++ name ++ "\x7d\x7d"

/-- Paragraphs, one to a line. -/
def paragraphs (ps : List String) : String := "\n".intercalate (ps.map fun p => s!"<p>{p}</p>")

/-- A template that every owner may use. -/
structure SharedTemplate where
  name : String
  category : String
  subject : String
  body : String
  deriving Repr

/-- The greeting that opens every shared template. -/
def greeting : String := "Hi " ++ tag "first_name" ++ ","

/-- The shared templates. -/
def sharedTemplates : List SharedTemplate :=
  [{ name := "Welcome Email", category := "welcome"
     subject := "Welcome to " ++ tag "sender_company" ++ ", " ++ tag "first_name" ++ "!"
     body := paragraphs [greeting,
      "Thanks for connecting with us. " ++ tag "company" ++ " is doing impressive work" ++
        tag "ai_insight" ++ ".",
      "Would you be open to a quick 15-minute call this week?",
      "Best,<br/>" ++ tag "your_name" ++ "<br/>" ++ tag "sender_company"] },
    { name := "Follow-Up", category := "follow_up"
      subject := "Quick follow-up, " ++ tag "first_name"
      body := paragraphs [greeting,
        "Circling back on my last note. We help " ++ tag "industry" ++ " teams scale outreach " ++
          "without losing the personal touch.",
        "Does a 10-minute intro call make sense?",
        "Cheers,<br/>" ++ tag "your_name"] },
    { name := "Case Study Share", category := "case_study"
      subject := tag "first_name" ++ ", how a team like yours grew pipeline 3x"
      body := paragraphs [greeting,
        "A " ++ tag "industry" ++ " team recently tripled qualified pipeline in 90 days with us. " ++
          "Happy to walk you through how they did it.",
        "Best,<br/>" ++ tag "your_name" ++ "<br/>" ++ tag "sender_company"] },
    { name := "Demo Invitation", category := "demo_invite"
      subject := tag "first_name" ++ ", see " ++ tag "sender_company" ++ " live"
      body := paragraphs [greeting,
        "I'd like to show you a 20-minute demo tailored to " ++ tag "company" ++ ".",
        "Can I book a slot on your calendar this week?",
        "Talk soon,<br/>" ++ tag "your_name"] },
    { name := "Nurture Content", category := "nurture"
      subject := "Quick read for you, " ++ tag "first_name"
      body := paragraphs [greeting,
        "No ask today. Here is a short piece on how " ++ tag "industry" ++ " leaders are " ++
          "rethinking go-to-market this year.",
        "Have a great week,<br/>" ++ tag "your_name"] }]

/-- The row of a shared template. -/
def SharedTemplate.row (t : SharedTemplate) (s : Stamp) : TemplateRow :=
  ⟨s, none, t.name, t.category, t.subject, t.body, true⟩

/-- A lead to try things with. -/
structure DemoLead where
  name : String
  company : String
  email : String
  score : Float
  status : String
  knowledgeBase : Fields
  deriving Repr

/-- The leads to try things with. -/
def demoLeads : List DemoLead :=
  [⟨"Ann Lee", "Initech", "ann@initech.example", 88, "New",
      [("industry", .str "SaaS"), ("title", .str "VP Sales")]⟩,
    ⟨"Bob Roe", "Umbrella", "bob@umbrella.example", 42, "Contacted", [("industry", .str "Biotech")]⟩,
    ⟨"Cara Diaz", "Globex", "", 71, "New", [("industry", .str "Logistics")]⟩]

/-- The row of a lead to try things with. -/
def DemoLead.row (owner : String) (l : DemoLead) (s : Stamp) : LeadRow where
  toStamp := s
  ownerId := owner
  name := l.name
  company := l.company
  email := l.email
  score := .float l.score
  status := l.status
  insights := ""
  lastActivity := none
  knowledgeBase := .object l.knowledgeBase
  deletedAt := none
  isDeleted := false

/-- A step as it is stored. -/
def demoStep (id type title : String) (config : Fields) : Value :=
  .object [("id", .str id), ("type", .str type), ("title", .str title), ("config", .object config)]

/-- The steps of the workflow to try. -/
def demoSteps : List Value :=
  [demoStep "t1" "trigger" "New lead added" [("triggerType", .str "lead_created")],
    demoStep "c1" "condition" "Score above 50"
      [("field", .str "score"), ("operator", .str "gt"), ("value", .int 50)],
    demoStep "a1" "action" "Send welcome email"
      [("actionType", .str "send_email"), ("template", .str "welcome"), ("fallbackEnabled", .bool true),
        ("fallbackAction", .str "create_task")],
    demoStep "a2" "action" "Update status" [("newStatus", .str "Contacted")]]

/-- The workflow to try. -/
def demoWorkflow : WorkflowDraft where
  name := .str "New lead nurture"
  steps := .list demoSteps
  description := .str ""
  status := .str WorkflowStatus.active.word
  stats := .null
  id := .null

/-- The fault of several rows where at most one is expected. -/
def severalRows : Fault :=
  .of .severalRows "Multiple rows were found when one or none was required"

/-- The template is shared and of a category. -/
def TemplateRow.isSharedIn (category : String) (r : TemplateRow) : Bool :=
  r.category == category && r.ownerId == none

/-- There is a shared template for the category. -/
def hasShared (category : String) : Storage Bool := do
  match ← select .templates (.only (TemplateRow.isSharedIn category)) with
  | [] => return false
  | [_] => return true
  | _ => throw severalRows

/-- The shared templates whose category has none yet. -/
def missingTemplates : List SharedTemplate → Storage (List SharedTemplate)
  | [] => return []
  | t :: ts => do
    let present ← hasShared t.category
    let rest ← missingTemplates ts
    return if present then rest else t :: rest

/-- The owner has leads, deleted ones too. -/
def hasLeads (owner : String) : Storage Bool := do
  return !(← select .leads ⟨fun r => LeadRow.ownerId r == owner, none, 1⟩).isEmpty

/-- Puts leads and a workflow to try into the database. -/
def seedDemo (owner : String) : Storage String := do
  if ← hasLeads owner then return s!"[seed] Demo data exists for {owner}"
  else
    insertAll .leads (demoLeads.map (DemoLead.row owner))
    let w ← createWorkflow owner demoWorkflow
    return s!"[seed] Created demo workflow {w.id} and {demoLeads.length} leads for {owner}"

/-- Seeds; gives the lines that report it.  Without an owner only the templates are added. -/
def seed (owner : String) : Storage (List String) := do
  let missing ← missingTemplates sharedTemplates
  insertAll .templates (missing.map SharedTemplate.row)
  let created :=
    s!"[seed] {missing.length} default templates created ({sharedTemplates.length} total)"
  let demo ← if owner = "" then pure [] else do pure [← seedDemo owner]
  return created :: demo ++ ["[seed] Database seeded successfully!"]

/-- Seeds a deployment, whose missing tables are added first. -/
def Deployment.seeded {σ : Type} (d : Deployment σ) (rowId : Nat → String) (owner : String) :
    Outcome (List String) × Deployment σ :=
  { d with database := d.database.complete }.transact rowId (seed owner)

end LeadFlow.Storage
