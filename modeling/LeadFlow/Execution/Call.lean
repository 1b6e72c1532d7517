import LeadFlow.Lead
import LeadFlow.Program.Course
import LeadFlow.Program.Retried
import LeadFlow.Workflow.Run
import LeadFlow.Workflow.Stats

set_option autoImplicit false

/-!
# Execution: calls to the outside

What the execution of a workflow may ask of the outside: change a lead, deliver or queue a message,
look up a template, have a message reworded, write to the audit log, store a run and fold runs into
the statistics of the workflow.  Nobody checks what the outside answers: texts, counts and lists in
answers are kept as the values that were given.
-/

namespace LeadFlow.Execution

/-- Subject and body of a message. -/
structure Content where
  subject : Value
  body : Value
  deriving Repr, Inhabited

/-- Content of two texts. -/
def Content.ofTexts (subject body : String) : Content := ⟨.str subject, .str body⟩

/-- A stored message with tags. -/
structure Template where
  id : String
  subject : Value
  body : Value
  name : String
  deriving Repr

/-- Whether the recipient's opening and clicking is followed. -/
structure Tracking where
  opens : Bool
  clicks : Bool
  deriving DecidableEq, Repr

/-- What became of a change. -/
structure Receipt where
  success : Bool
  error : Value
  deriving Repr

/-- What became of a delivery. -/
structure Delivery where
  success : Bool
  messageId : Value
  error : Value
  deriving Repr

/-- What became of queued messages. -/
structure Queued where
  count : Value
  failures : Value
  deriving Repr

namespace Queued

/-- Some messages were queued and none failed. -/
def success (q : Queued) : Outcome Bool := do
  let count ← Num.comparable ">" q.count (.int 0)
  return (Num.int 0).lt count && !q.failures.isTruthy

/-- The texts in a list, of which the first is number `i`. -/
def textsFrom (i : Nat) : List Value → Outcome (List String)
  | [] => .ok []
  | .str s :: vs => (textsFrom (i + 1) vs).map (s :: ·)
  | v :: _ =>
    .error (.of .type s!"sequence item {i}: expected str instance, {v.kindName} found")

/-- What failed, one by one: the items of a list, the keys of an object or the characters of a text. -/
def failed (q : Queued) : Outcome (List String) :=
  match q.failures with
  | .list vs => textsFrom 0 vs
  | .object fs => .ok (fs.map (·.1))
  | .str s => .ok (s.toList.map String.singleton)
  | _ => .error (.of .type "can only join an iterable")

/-- Why nothing was queued. -/
def reason (q : Queued) : Outcome String := do
  let listed := "; ".intercalate (← q.failed)
  return if listed = "" then "nothing scheduled" else listed

end Queued

/-- What a writer is told about a draft. -/
structure Brief where
  stepTitle : String
  draft : Content
  sender : Sender
  deriving Repr

/-- The brief as fields. -/
def Brief.toFields (b : Brief) : Fields :=
  [("step_title", .str b.stepTitle), ("subject", b.draft.subject), ("body", b.draft.body),
    ("sender", .object b.sender.toFields)]

/-- A call. -/
inductive Call where
  | updateRecord (leadId : String) (patch : Fields)
  | sendMessage (address : String) (content : Content) (tracking : Tracking) (leadId : String)
  | scheduleMessage (leads : List Lead) (content : Content) (due : Calendar.Moment)
  | getTemplate (id : String)
  | generate (lead : Lead) (brief : Brief)
  | audit (actor : String) (action : AuditAction) (details : String)
  | saveRun (workflowId leadId : String) (run : Run)
  /-- folds these runs into the statistics, at so many hours a lead -/
  | updateStats (workflowId : String) (runs : List Run) (hoursPerRecord : Float)

/-- What a call is answered with. -/
def Call.Reply : Call → Type
  | updateRecord .. => Receipt
  | sendMessage .. => Delivery
  | scheduleMessage .. => Queued
  | getTemplate .. => Option Template
  | generate .. => Content
  | audit .. => Unit
  | saveRun .. => Unit
  | updateStats .. => Stats

/-- The calls of an execution. -/
def calls : Interface := ⟨Call, Call.Reply⟩

/-- Work on one step. -/
abbrev Work (α : Type) := Program calls α

/-- What a step is executed with besides itself and the lead. -/
structure Context where
  actor : String
  settings : Settings
  sender : Sender
  /-- there is someone to reword messages -/
  hasWriter : Bool
  deriving Repr

/-- How a step ended. -/
structure Report where
  verdict : Verdict
  message : String
  deriving DecidableEq, Repr

namespace Report

/-- The step passed. -/
def passed (message : String) : Report := ⟨.pass, message⟩

/-- The step failed. -/
def failed (message : String) : Report := ⟨.fail, message⟩

/-- The step was left out. -/
def skipped (message : String) : Report := ⟨.skip, message⟩

end Report

/-- A reason from an answer, or a stand-in for none. -/
def reasonOr : Value → String
  | .null => "unknown error"
  | error => error.display

/-- A call to storage, repeated after passing faults. -/
def fromStorage (context : Context) (c : Call) : Work c.Reply :=
  Program.retried (I := calls) (.forStorage context.settings) c

end LeadFlow.Execution
