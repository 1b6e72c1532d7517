import LeadFlow.Decode.Moment
import LeadFlow.Workflow.Stats
import LeadFlow.Workflow.Step

set_option autoImplicit false

/-!
# Workflows

A workflow is a named list of steps with a status, statistics and an owner.  Decoding a stored
definition gives a workflow or a single fault that names the workflow and lists every issue.
-/

namespace LeadFlow

/-- A workflow. -/
structure Workflow where
  id : String
  name : String
  description : String
  status : WorkflowStatus
  steps : List Step
  createdAt : Calendar.Moment
  stats : Stats
  ownerId : Option String
  teamId : Option String
  deriving Repr

namespace Workflow

/-- Decodes the fields of a workflow; `created` reads the time of creation. -/
def ofFields (fs : Fields) (created : Decode.Checked Calendar.Moment) : Decode.Checked Workflow :=
  mk <$> Decode.required fs "id" "id" Decode.text
    <*> Decode.required fs "name" "name" Decode.text
    <*> Decode.defaulted fs "description" "description" "" Decode.text
    <*> Decode.defaulted fs "status" "status" .draft Vocabulary.decode
    <*> Decode.anyNamed fs ["steps", "nodes"] [] (Decode.list Step.decode)
    <*> created
    <*> Decode.defaulted fs "stats" "stats" Stats.zero Stats.decode
    <*> Decode.anyNamed fs ["ownerId", "owner_id", "userId"] none (Decode.optional Decode.text)
    <*> Decode.defaulted fs "teamId" "team_id" none (Decode.optional Decode.text)

/-- Decodes a workflow; a definition that does not say when it was created was created now. -/
def decode (now : Calendar.Moment) (v : Value) : Decode.Checked Workflow :=
  (Decode.record (.model "Workflow") v).andThen fun fs =>
    ofFields fs (Decode.defaulted fs "createdAt" "created_at" now Decode.moment)

/-- The fault of a definition with issues. -/
def invalid (id : String) (issues : List Decode.Issue) : Fault :=
  .of .definition
    s!"Workflow {id} is invalid: {issues.length} error(s): {Decode.issuesText issues}"

/-- Reads a stored definition.  Only an object has an id to name in a refusal. -/
def ofDefinition (now : Calendar.Moment) (v : Value) : Outcome Workflow :=
  match v with
  | .object fs =>
    (decode now v).toOutcome (invalid (((Fields.get? fs "id").map Value.display).getD "?"))
  | _ => (decode now v).toOutcome fun _ => .noFields v.kindName

/-- The steps in the shape in which they are stored. -/
def stepsDefinition (w : Workflow) : List Value := w.steps.map fun s => .object (s.toFields .camel)

/-- The workflow as fields with underscored names. -/
def toFields (w : Workflow) : Fields :=
  [("id", .str w.id), ("name", .str w.name), ("description", .str w.description),
    ("status", .str w.status.word), ("steps", .list (w.steps.map fun s => .object (s.toFields .snake))),
    ("created_at", .str w.createdAt.iso), ("stats", .object w.stats.toFields),
    ("owner_id", .ofText? w.ownerId), ("team_id", .ofText? w.teamId)]

end Workflow

end LeadFlow
