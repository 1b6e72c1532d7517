import LeadFlow.Execution.Raised
import LeadFlow.Execution.Rehearsal
import LeadFlow.Value.Part

set_option autoImplicit false

/-!
# Execution: scripts

A rehearsal can be written down as fields: for each call a list of entries, every one with a wait
and either a fault or an answer, or neither for the usual answer.  The calls made can be written
down in the same way.
-/

namespace LeadFlow

namespace Execution

open Fields

/-- An entry of a script; `answer` reads the answer in it. -/
def Prepared.ofFields {α : Type} (answer : Value → Option α) (fs : Fields) : Prepared α :=
  let delay := ((numPart fs "delay" (.int 0)).toFloat).toOption.getD 0
  match Fields.get? fs "raise", Fields.get? fs "result" with
  | some e, _ => ⟨delay, some (.error (.raisedBy (fieldsOf e)))⟩
  | none, some r => ⟨delay, (answer r).map .ok⟩
  | none, none => ⟨delay, none⟩

/-- The entries for a call. -/
def Prepared.listOf {α : Type} (scripts : Fields) (call : String) (answer : Fields → Option α) :
    List (Prepared α) :=
  (listPart scripts call).map fun e => Prepared.ofFields (fun v => answer (fieldsOf v)) (fieldsOf e)

/-- The answer says that the call succeeded, or does not say. -/
def succeeded (fs : Fields) : Bool := ((Fields.get? fs "success").getD (.bool true)).isTruthy

/-- A template from fields; only an object is one. -/
def Template.ofValue (id : String) : Value → Option Template
  | .object fs =>
    some ⟨textPart fs "id" id, (Fields.get? fs "subject_template").getD (.str ""),
      (Fields.get? fs "body_template").getD (.str ""), textPart fs "name"⟩
  | _ => none

/-- Content from fields; a part that is absent is empty. -/
def Content.ofFields (fs : Fields) : Content :=
  ⟨(Fields.get? fs "subject").getD (.str ""), (Fields.get? fs "body").getD (.str "")⟩

/-- A rehearsal from its script, the templates there are, and the stored statistics. -/
def Rehearsal.ofFields (scripts templates : Fields) (stats : Stats) : Rehearsal where
  updates := Prepared.listOf scripts "update_record" fun fs =>
    some ⟨succeeded fs, part fs "error"⟩
  deliveries := Prepared.listOf scripts "send_message" fun fs =>
    some ⟨succeeded fs, part fs "message_id", part fs "error"⟩
  queues := Prepared.listOf scripts "schedule_message" fun fs =>
    some ⟨(Fields.get? fs "scheduled_count").getD (.int 0), (Fields.get? fs "failures").getD (.list [])⟩
  lookups := (listPart scripts "get_template").map fun e =>
    Prepared.ofFields (fun v => some (Template.ofValue "" v)) (fieldsOf e)
  wordings := Prepared.listOf scripts "generate" fun fs => some (Content.ofFields fs)
  audits := Prepared.listOf scripts "audit" fun _ => some ()
  saves := Prepared.listOf scripts "save_run" fun _ => some ()
  folds := Prepared.listOf scripts "update_stats" fun _ => none
  templates := templates.filterMap fun (k, v) => (Template.ofValue k v).map (k, ·)
  stats := stats

/-- The script has entries for a writer, so there is one. -/
def hasWriterIn (scripts : Fields) : Bool := (Fields.get? scripts "generate").isSome

/-- A call as fields. -/
def Call.toFields : Call → Fields
  | updateRecord id patch => [("call", .str "update_record"), ("id", .str id), ("patch", .object patch)]
  | sendMessage address content tracking leadId =>
    [("call", .str "send_message"), ("to", .str address), ("subject", content.subject),
      ("body", content.body),
      ("tracking", .object [("opens", .bool tracking.opens), ("clicks", .bool tracking.clicks)]),
      ("lead_id", .str leadId)]
  | scheduleMessage leads content due =>
    [("call", .str "schedule_message"), ("leads", .list (leads.map fun l => .str l.id)),
      ("subject", content.subject), ("body", content.body), ("scheduled_at", .str due.iso)]
  | getTemplate id => [("call", .str "get_template"), ("id", .str id)]
  | generate lead brief =>
    [("call", .str "generate"), ("lead_id", .str lead.id), ("context", .object brief.toFields)]
  | audit actor action details =>
    [("call", .str "audit"), ("actor", .str actor), ("action", .str action.word),
      ("details", .str details)]
  | saveRun workflowId leadId run =>
    [("call", .str "save_run"), ("workflow_id", .str workflowId), ("lead_id", .str leadId),
      ("run_id", .str run.id), ("status", .str run.status.word)]
  | updateStats workflowId .. => [("call", .str "update_stats"), ("workflow_id", .str workflowId)]

end Execution

end LeadFlow
