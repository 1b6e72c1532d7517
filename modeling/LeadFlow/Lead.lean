import LeadFlow.Decode.Basic
import LeadFlow.Text.Blank
import LeadFlow.Text.CamelCase

set_option autoImplicit false

/-!
# Leads

A lead is the prospect a workflow acts upon: who it is, a score, a status and a knowledge base of
free-form research.  Fields nobody declared are kept beside the declared ones.
-/

namespace LeadFlow

/-- A lead. -/
structure Lead where
  id : String
  name : String
  company : String
  email : String
  score : Num
  status : String
  insights : String
  lastActivity : String
  knowledgeBase : Fields
  extras : Fields
  deriving Repr, Inhabited

namespace Lead

/-- The first word of the name. -/
def firstName (l : Lead) : String := (Text.words l.name).head?.getD ""

/-- The words of the name after the first. -/
def lastName (l : Lead) : String := " ".intercalate (Text.words l.name).tail

/-- The value under a key or under its camel-case spelling. -/
def spelled (fields : Fields) (key : String) : Value :=
  match fields.get? key with
  | some v => v
  | none => (fields.get? (Text.camelCase key)).getD .null

/-- A field of the knowledge base, by either spelling. -/
def knowledge (l : Lead) (key : String) : Value := spelled l.knowledgeBase key

/-- A field as conditions see it: a declared one, else one of the knowledge base, else one of the
undeclared. -/
def fieldValue (l : Lead) (field : String) : Value :=
  match field with
  | "score" => l.score.toValue
  | "status" => .str l.status
  | "company" => .str l.company
  | "name" => .str l.name
  | "email" => .str l.email
  | "insights" => .str l.insights
  | _ =>
    match l.knowledge field with
    | .null => spelled l.extras field
    | v => v

/-- The names of the declared fields, each with its second spelling. -/
def names : List (String × String) :=
  [("id", "id"), ("name", "name"), ("company", "company"), ("email", "email"), ("score", "score"),
    ("status", "status"), ("insights", "insights"), ("lastActivity", "last_activity"),
    ("knowledgeBase", "knowledge_base")]

/-- Decodes the fields of a lead. -/
def ofFields (fs : Fields) : Decode.Checked Lead :=
  mk <$> Decode.required fs "id" "id" Decode.text
    <*> Decode.defaulted fs "name" "name" "" Decode.text
    <*> Decode.defaulted fs "company" "company" "" Decode.text
    <*> Decode.defaulted fs "email" "email" "" Decode.text
    <*> Decode.defaulted fs "score" "score" (.int 0) Decode.wholeOrNumber
    <*> Decode.defaulted fs "status" "status" "New" Decode.text
    <*> Decode.defaulted fs "insights" "insights" "" Decode.text
    <*> Decode.defaulted fs "lastActivity" "last_activity" "" Decode.text
    <*> Decode.defaulted fs "knowledgeBase" "knowledge_base" [] Decode.object
    <*> pure (Decode.leftOver fs names)

/-- Decodes a lead. -/
def decode (v : Value) : Decode.Checked Lead :=
  (Decode.record (.model "Lead") v).andThen ofFields

/-- The lead as fields with underscored names; undeclared fields come last and win. -/
def toFields (l : Lead) : Fields :=
  l.extras.foldl (fun fs (k, v) => fs.put k v)
    [("id", .str l.id), ("name", .str l.name), ("company", .str l.company), ("email", .str l.email),
      ("score", l.score.toValue), ("status", .str l.status), ("insights", .str l.insights),
      ("last_activity", .str l.lastActivity), ("knowledge_base", .object l.knowledgeBase)]

end Lead

/-- The sender's side of a message. -/
structure Sender where
  senderName : String
  companyName : String
  valueProp : String
  productsServices : String
  targetAudience : String
  deriving Repr, Inhabited, DecidableEq

namespace Sender

/-- A sender nobody described. -/
def blank : Sender := ⟨"", "", "", "", ""⟩

/-- Decodes the fields of a sender. -/
def ofFields (fs : Fields) : Decode.Checked Sender :=
  mk <$> Decode.defaulted fs "senderName" "sender_name" "" Decode.text
    <*> Decode.defaulted fs "companyName" "company_name" "" Decode.text
    <*> Decode.defaulted fs "valueProp" "value_prop" "" Decode.text
    <*> Decode.defaulted fs "productsServices" "products_services" "" Decode.text
    <*> Decode.defaulted fs "targetAudience" "target_audience" "" Decode.text

/-- Decodes a sender; the cause says what a value without fields is refused for. -/
def decodeAs (cause : Decode.Cause) (v : Value) : Decode.Checked Sender :=
  (Decode.record cause v).andThen ofFields

/-- Decodes a sender. -/
def decode (v : Value) : Decode.Checked Sender := decodeAs (.model "SenderProfile") v

/-- The sender as fields with underscored names. -/
def toFields (s : Sender) : Fields :=
  [("sender_name", .str s.senderName), ("company_name", .str s.companyName),
    ("value_prop", .str s.valueProp), ("products_services", .str s.productsServices),
    ("target_audience", .str s.targetAudience)]

end Sender

end LeadFlow
