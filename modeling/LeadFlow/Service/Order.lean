import LeadFlow.Decode.Basic
import LeadFlow.Lead
import LeadFlow.Service.Request
import LeadFlow.Storage.Leads

set_option autoImplicit false

/-!
# Service: orders and pages

What a request asks for besides its endpoint: the order to execute a workflow, which is the body,
and how much of a listing is wanted, which is in the query.
-/

namespace LeadFlow.Service

open Decode Storage

/-- Conditions on the leads to be executed for. -/
structure LeadFilter where
  status : Option String
  minScore : Option Float
  limit : Int
  deriving Repr

/-- An order to execute a workflow. -/
structure Order where
  /-- the leads asked for by id, which make the filter idle -/
  leadIds : Option (List String)
  filter : LeadFilter
  sender : Sender
  deriving Repr

namespace LeadFilter

/-- How many leads are taken unless the filter says otherwise. -/
def usualLimit : Int := 500

/-- Every lead, as far as the usual limit goes. -/
def usual : LeadFilter := ⟨none, none, usualLimit⟩

/-- Decodes the fields of a filter. -/
def ofFields (fs : Fields) : Checked LeadFilter :=
  mk <$> defaulted fs "status" "status" none (optional text)
    <*> defaulted fs "min_score" "min_score" none (optional number)
    <*> defaulted fs "limit" "limit" usualLimit (wholeBetween 1 5000)

/-- Decodes a filter. -/
def decode (v : Value) : Checked LeadFilter := (record .attributes v).andThen ofFields

end LeadFilter

namespace Order

/-- Decodes the fields of an order. -/
def ofFields (fs : Fields) : Checked Order :=
  mk <$> defaulted fs "lead_ids" "lead_ids" none (optional (list text))
    <*> defaulted fs "filter" "filter" .usual LeadFilter.decode
    <*> defaulted fs "sender" "sender" .blank (Sender.decodeAs .attributes)

/-- Decodes an order. -/
def decode (v : Value) : Checked Order := (record .attributes v).andThen ofFields

/-- The leads that an order is for.  Those asked for by id are never cut off by a limit. -/
def leads (o : Order) : LeadQuery :=
  match o.leadIds with
  | some ids => ⟨some ids, none, none, max ids.length 1, none⟩
  | none =>
    ⟨none, (o.filter.status.filter (· != "")).map fun s => [s], o.filter.minScore, o.filter.limit, none⟩

end Order

/-! ## Bodies -/

/-- The value of a body, if there is a body. -/
def bodyValue (r : Request) : Except Json.Unread (Option Value) :=
  if r.body = "" then .ok none
  else if r.isJson then some <$> Json.readDocument r.body
  else .ok (some (.str r.body))

/-- The order in a body. -/
def orderIn (body : Option Value) : Checked Order :=
  Checked.under (.key "body") (match body with
    | some v => Order.decode v
    | none => refuse .missing .null)

/-! ## Queries -/

/-- A count in the query between one and a bound, if there is one. -/
def countIn (t : Target) (name : String) (bound : Int) : Checked (Option Int) :=
  match t.last? name with
  | some s => ((wholeBetween 1 bound (.str s)).under (.key name)).under (.key "query") |>.map some
  | none => .ok none

/-- What of the log is wanted: how many entries, and of which workflow; the empty id stands for all. -/
structure LogPage where
  limit : Option Int
  workflowId : String
  deriving DecidableEq, Repr

/-- The page of the log that the query asks for. -/
def LogPage.ofTarget (t : Target) : Checked LogPage :=
  (fun limit => ⟨limit, (t.last? "workflow_id").getD ""⟩) <$> countIn t "limit" 1000

end LeadFlow.Service
