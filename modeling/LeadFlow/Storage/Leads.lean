import LeadFlow.Execution.Call
import LeadFlow.Storage.Column

set_option autoImplicit false

/-!
# Storage: leads

Leads are selected for their owner: by id in the order asked for, or by status and score, newest
first.  The conditions are applied before the limit, so a lead that does not qualify takes no place
of one that does.  A change writes the columns it names and leaves a lead of another owner alone.
-/

namespace LeadFlow.Storage

open Calendar Execution

/-- The owner sees the row; the empty owner sees the rows of all. -/
def ownedBy (owner rowOwner : String) : Bool := owner == "" || rowOwner == owner

/-- The owner sees the lead. -/
def LeadRow.isVisible (owner : String) (r : LeadRow) : Bool := ownedBy owner r.ownerId && !r.isDeleted

/-! ## Stored leads as leads -/

/-- A pair of an item that should be one: two items, or a text of two characters. -/
def pairOf (place : Nat) (v : Value) : Outcome (String × Value) :=
  let wrongLength (n : Nat) : Fault := .of .value
    s!"dictionary update sequence element #{place} has length {n}; 2 is required"
  match v with
  | .list [.str k, w] => .ok (k, w)
  | .list vs => .error (wrongLength vs.length)
  | .str s =>
    match s.toList with
    | [k, w] => .ok (String.singleton k, .str (String.singleton w))
    | cs => .error (wrongLength cs.length)
  | _ => .error (.of .type
      s!"cannot convert dictionary update sequence element #{place} to a sequence")

/-- Pairs as fields, counted from `i`. -/
def pairsFrom : Nat → List Value → Outcome Fields
  | _, [] => .ok []
  | i, v :: vs => do
    let (k, w) ← pairOf i v
    return (k, w) :: (← pairsFrom (i + 1) vs)

/-- The fields that a stored value comes to; nothing comes to none. -/
def looseFields (v : Value) : Outcome Fields :=
  match v with
  | .object fs => .ok fs
  | .list vs => pairsFrom 0 vs
  | .str s => pairsFrom 0 (s.toList.map fun c => .str (String.singleton c))
  | v => if v.isTruthy then .error (.notIterable v.kindName) else .ok []

/-- The lead of a row. -/
def LeadRow.lead (r : LeadRow) : Outcome Lead := do
  return {
    id := r.id, name := r.name, company := r.company, email := r.email, score := r.score
    status := r.status, insights := r.insights, lastActivity := r.lastActivity.getD ""
    knowledgeBase := ← looseFields r.knowledgeBase, extras := [] }

/-! ## Selecting -/

/-- Which leads are wanted. -/
structure LeadQuery where
  ids : Option (List String)
  statuses : Option (List String)
  minScore : Option Float
  limit : Int
  /-- why a wanted value cannot be asked for -/
  refusal : Option Fault := none
  deriving Repr

namespace LeadQuery

/-- The lead meets the conditions. -/
def admits (q : LeadQuery) (r : LeadRow) : Bool :=
  q.ids.all (·.contains r.id) && q.statuses.all (·.contains r.status) &&
    q.minScore.all fun m => (Num.float m).le r.score

/-- The selection for an owner. -/
def selection (q : LeadQuery) (owner : String) : Selection LeadRow :=
  ⟨fun r => r.isVisible owner && q.admits r, some (newestBy (·.createdAt)), q.limit⟩

/-- The place of the last occurrence of an id, or the length if there is none. -/
def placeIn (ids : List String) (id : String) : Nat :=
  match ids.reverse.idxOf? id with
  | some i => ids.length - 1 - i
  | none => ids.length

/-- Leads in the order of the ids asked for. -/
def arranged (q : LeadQuery) (leads : List Lead) : List Lead :=
  match q.ids with
  | some ids => leads.mergeSort fun a b => placeIn ids a.id ≤ placeIn ids b.id
  | none => leads

/-- A double from a value: texts are read. -/
def realOf : Value → Outcome Float
  | .str s =>
    match Decimal.floatOfText? s with
    | some x => .ok x
    | none => .error (.of .value s!"could not convert string to float: {Text.quoted s}")
  | v =>
    match Num.ofValue? v with
    | some n => n.toFloat
    | none => .error (.of .type s!"float() argument must be a string or a real number, not '{v.kindName}'")

/-- The items of a value that is gone through one by one. -/
def itemsOf : Value → Outcome (List Value)
  | .list vs => .ok vs
  | .str s => .ok (s.toList.map fun c => .str (String.singleton c))
  | .object fs => .ok (fs.map fun f => .str f.1)
  | v => .error (.notIterable v.kindName)

/-- Texts that a column is compared with; null is in no comparison. -/
def comparands (vs : List Value) : Outcome (List String) :=
  (vs.filter fun v => !v.isNull).mapM textColumn

/-- The texts, and why there are none. -/
def wanted (vs : List Value) : List String × Option Fault :=
  match comparands vs with
  | .ok ts => (ts, none)
  | .error f => ([], some f)

/-- Reads a free-form filter. -/
def ofFields (fs : Fields) : Outcome LeadQuery := do
  let field (key : String) := (Fields.get? fs key).getD .null
  let ids ←
    match field "ids" with
    | .null => pure none
    | v => do pure (some (wanted (← itemsOf v)))
  let statuses :=
    match field "status" with
    | .list [] => none
    | .list vs => some (wanted vs)
    | v => if v.isTruthy then some (wanted [v]) else none
  let minScore ←
    match field "min_score" with
    | .null => pure none
    | v => do pure (some (← realOf v))
  let limit ← StepResult.wholeOf ((Fields.get? fs "limit").getD (.int 500))
  return ⟨ids.map (·.1), statuses.map (·.1), minScore, limit, ids.bind (·.2) <|> statuses.bind (·.2)⟩

end LeadQuery

/-- The leads of an owner that are wanted. -/
def selectLeads (owner : String) (q : LeadQuery) : Storage (List Lead) := do
  let rs ← explained "Lead query failed: " do
    match q.refusal with
    | some f => throw f
    | none => select .leads (q.selection owner)
  return q.arranged (← found (rs.mapM LeadRow.lead))

/-- The row of a lead that the owner sees. -/
def findLead (owner id : String) : Storage (Option LeadRow) :=
  selectOne .leads (LeadRow.isVisible owner) id

/-! ## Adding -/

/-- The columns that say whose a new row is; the empty owner says nothing. -/
def ownerColumns (owner : String) : Fields := if owner = "" then [] else [("owner_id", .str owner)]

/-- Stores a new lead.  It is the owner's unless the columns name another. -/
def createLead (owner : String) (columns : Fields) : Storage LeadRow :=
  create .leads (columns.foldl (fun fs (k, v) => Fields.put k v fs) (ownerColumns owner))

/-! ## Changing -/

/-- The row with a value assigned to a column; a name that is no column changes nothing. -/
def LeadRow.assign (r : LeadRow) (column : String) (v : Value) : Outcome LeadRow := do
  match column with
  | "id" => return { r with id := ← textColumn v }
  | "created_at" => return { r with createdAt := ← momentColumn v }
  | "updated_at" => return { r with updatedAt := ← momentColumn v }
  | "owner_id" => return { r with ownerId := ← textColumn v }
  | "name" => return { r with name := ← textColumn v }
  | "company" => return { r with company := ← textColumn v }
  | "email" => return { r with email := ← textColumn v }
  | "score" => return { r with score := ← numberColumn v }
  | "status" => return { r with status := ← textColumn v }
  | "insights" => return { r with insights := ← textColumn v }
  | "last_activity" => return { r with lastActivity := some (← textColumn v) }
  | "knowledge_base" => return { r with knowledgeBase := v }
  | "deleted_at" => return { r with deletedAt := some (← momentColumn v) }
  | "is_deleted" => return { r with isDeleted := ← truthColumn v }
  | _ => return r

/-- The row with values assigned; null leaves a column as it is. -/
def LeadRow.assignAll (r : LeadRow) (data : Fields) : Outcome LeadRow :=
  data.foldlM (fun r (column, v) => if v.isNull then .ok r else r.assign column v) r

/-- Equal in every column, numbers by value. -/
def LeadRow.same (a b : LeadRow) : Bool :=
  a.toStamp == b.toStamp && a.ownerId == b.ownerId && a.name == b.name && a.company == b.company &&
    a.email == b.email && a.score.same b.score && a.status == b.status && a.insights == b.insights &&
    a.lastActivity == b.lastActivity && a.knowledgeBase.same b.knowledgeBase &&
    a.deletedAt == b.deletedAt && a.isDeleted == b.isDeleted

/-- Writes a changed lead.  The time of the change is noted, unless the change sets it itself; a
change that changes nothing writes nothing. -/
def writeLead (before after : LeadRow) : Storage LeadRow := do
  if after.same before then
    hold .leads before.id after
    return after
  else
    let now := (← read).now
    let after := if after.updatedAt = before.updatedAt then { after with updatedAt := now } else after
    let score ← written (storedNumber after.score)
    overwrite .leads before.id { after with score := score } after
    return after

/-- Assigns values to the columns of a lead that the owner sees. -/
def changeLead (owner id : String) (data : Fields) : Storage (Option LeadRow) := do
  match ← findLead owner id with
  | none => return none
  | some before => return some (← writeLead before (← written (before.assignAll data)))

/-- The columns that a changed row keeps as they were given until it is read again. -/
def keptAsGiven : List String :=
  ["id", "owner_id", "name", "company", "email", "score", "status", "insights", "last_activity",
    "is_deleted"]

/-- A row just changed, with the values that were assigned to it. -/
def LeadRow.asAssigned (data : Fields) (r : LeadRow) : Fields :=
  r.toFields.map fun (column, v) =>
    (column, if keptAsGiven.contains column then (given? data column).getD v else v)

/-- The keys of a patch, each with the column it changes. -/
def patchable : List (String × String) :=
  [("status", "status"), ("score", "score"), ("knowledge_base", "knowledge_base"),
    ("knowledgeBase", "knowledge_base"), ("insights", "insights"), ("last_activity", "last_activity"),
    ("lastActivity", "last_activity")]

/-- The columns that a patch changes; of two keys for one column the later wins. -/
def patchColumns (patch : Fields) : Fields :=
  patch.foldl (fun data (key, v) =>
    match patchable.lookup key with
    | some column => Fields.put column v data
    | none => data) []

/-- Applies a patch to a lead. -/
def patchLead (owner id : String) (patch : Fields) : Storage Receipt := do
  let data := patchColumns patch
  if data.isEmpty then return ⟨false, .str "Nothing to update"⟩
  else
    match ← explained "Lead update failed: " (changeLead owner id data) with
    | none => return ⟨false, .str s!"Lead {id} not found"⟩
    | some _ => return ⟨true, .null⟩

end LeadFlow.Storage
