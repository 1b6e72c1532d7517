import LeadFlow.Proofs.Execution.Accounting
import LeadFlow.Proofs.Execution.Knowledge
import LeadFlow.Proofs.Program.Attempts
import LeadFlow.Proofs.Workflow.Folding

set_option autoImplicit false

/-!
# Execution: steps on the record and what they report

A step that sets the status, adds a tag or assigns the lead asks storage for one change, again after each
passing fault as long as a retry is left, and reports what the last answer said.  A step that writes an
alert does so once.  Neither asks for anything else, and what one step asks for does not reach the lead that
the next one is given.

Main statement: `recordSteps_report`.
-/

namespace LeadFlow.Execution

open Program

/-! ## Changes of the record -/

/-- A change of the record of a lead. -/
inductive RecordChange where
  | status (word : String)
  | knowledge (change : KnowledgeChange)
  deriving DecidableEq, Repr

namespace RecordChange

/-- The change that a step is about. -/
def of? (context : Context) (step : Step) : Option RecordChange :=
  match step.body with
  | .action c =>
    if c.actionType = "update_status" then some (.status (textOr c.newStatus context.settings.newStatus))
    else (KnowledgeChange.of? context step).map .knowledge
  | _ => none

/-- What storage is asked to write for a lead. -/
def patch (lead : Lead) : RecordChange → Fields
  | status word => [("status", .str word)]
  | knowledge change => [("knowledge_base", .object (change.applied lead.knowledgeBase))]

/-- The call that asks storage for the change. -/
def call (lead : Lead) (change : RecordChange) : Call := .updateRecord lead.id (change.patch lead)

/-- What a step says of a change that was made. -/
def done : RecordChange → String
  | status word => s!"Lead status updated to \"{word}\""
  | knowledge (.tag name) => s!"Tag \"{name}\" added to lead"
  | knowledge (.assignee user) => s!"Lead assigned to \"{user}\""

/-- What a step says of a change that was not made, before the error. -/
def undone : RecordChange → String
  | status _ => "Status update failed: "
  | knowledge (.tag _) => "Tag add failed: "
  | knowledge (.assignee _) => "Assignment failed: "

/-- The change can be worked out: a tag needs notes that are a text, or none. -/
def IsPossible (knowledgeBase : Fields) : RecordChange → Prop
  | knowledge (.tag _) =>
    ∀ notes, knowledgeBase.get? notesKey = some notes → notes = .null ∨ ∃ text, notes = .str text
  | _ => True

end RecordChange

/-- Storage has made the change. -/
def Succeeded (answer : Outcome Receipt) : Prop := ∃ receipt, answer = .ok receipt ∧ receipt.success = true

/-- The error in an answer of storage. -/
def errorOf : Outcome Receipt → String
  | .ok receipt => reasonOr receipt.error
  | .error f => f.reason

/-- A report tells an answer of storage: it passes just if the change was made, and fails with the error
otherwise. -/
structure Report.Tells (r : Report) (change : RecordChange) (answer : Outcome Receipt) : Prop where
  passes : r.verdict = .pass ↔ Succeeded answer
  done : r.verdict = .pass → r.message = change.done
  fails : ¬ Succeeded answer → r = .failed (change.undone ++ errorOf answer)

/-- What a step says of an answer. -/
def RecordChange.report (change : RecordChange) : Outcome Receipt → Report
  | .ok receipt =>
    if receipt.success then .passed change.done else .failed (change.undone ++ reasonOr receipt.error)
  | .error f => .failed (change.undone ++ f.reason)

theorem RecordChange.report_tells (change : RecordChange) (answer : Outcome Receipt) :
    (change.report answer).Tells change answer := by
  by_cases h : Succeeded answer
  · obtain ⟨receipt, rfl, hsuccess⟩ := h
    have hreport : change.report (.ok receipt) = .passed change.done := by simp [report, hsuccess]
    rw [hreport]
    have hmade : Succeeded (.ok receipt) := ⟨receipt, rfl, hsuccess⟩
    exact ⟨iff_of_true rfl hmade, fun _ => rfl, fun hnot => (hnot hmade).elim⟩
  · have hreport : change.report answer = .failed (change.undone ++ errorOf answer) := by
      cases answer with
      | error f => rfl
      | ok receipt =>
        have hfailed : receipt.success = false := by
          simpa using fun hsuccess => h ⟨receipt, rfl, hsuccess⟩
        simp [report, hfailed, errorOf]
    rw [hreport]
    exact ⟨iff_of_false (by simp [Report.failed]) h, by simp [Report.failed], fun _ => rfl⟩

theorem RecordChange.report_not_skip (change : RecordChange) (answer : Outcome Receipt) :
    (change.report answer).verdict ≠ .skip := by
  cases answer with
  | error f => simp [report, Report.failed]
  | ok receipt => cases hsuccess : receipt.success <;> simp [report, hsuccess, Report.failed, Report.passed]

/-! ## Waits before storage is asked again -/

theorem realPower?_one (x : Float) : Num.realPower? 1 x = .ok (some (.float 1)) := by
  have hone : ((1 : Float) == 1) = true := rfl
  have hfinite : (1 : Float).isInf = false := rfl
  have hpositive : decide ((1 : Float) < 0) = false := rfl
  have hpower : Num.floatPower 1 x = .ok 1 := by
    simp only [Num.floatPower, hone, if_true, hfinite, Bool.false_and]
    rfl
  rw [Num.realPower?, hpositive, hpower]
  rfl

/-- One to a power is one, if the power is a double. -/
theorem power?_one {k : Nat} (hk : k < 2 ^ 1000) :
    (Num.float 1).power? (.int k) = .ok (some (.float 1)) := by
  obtain ⟨x, hx, -⟩ := doubleOf_count hk (Nat.le_refl _)
  have htwo : ((1 : Float) == 2) = false := rfl
  rw [Num.power?, htwo, hx]
  exact realPower?_one x

/-- Waits that do not grow are defined as long as the number of the retry is a double. -/
theorem exists_waitFor_even {s : RetryStrategy} {delay maxDelay : Float} (hfactor : s.factor = .float 1)
    (hdelay : s.delay = .float delay) (hmaxDelay : s.maxDelay = .float maxDelay) {i : Nat} (hfirst : 1 ≤ i)
    (hi : i ≤ 2 ^ 1000) : ∃ seconds, s.waitFor i = .ok seconds := by
  obtain ⟨k, rfl⟩ : ∃ k, i = k + 1 := ⟨i - 1, by omega⟩
  cases hretry : ((Num.int (k + 1 : Nat)).lt (.int 1) || s.delay.le (.int 0)) with
  | true =>
    refine ⟨0, ?_⟩
    rw [RetryStrategy.waitFor, RetryStrategy.delayFor, hretry]
    rfl
  | false =>
    have hbefore : (Num.int (k + 1 : Nat)).add (.int (-1)) = .ok (.int k) :=
      congrArg (fun n => Except.ok (Num.int n)) (by omega : ((k + 1 : Nat) : Int) + -1 = k)
    have hgrowth : s.factor.power? (.int k) = .ok (some (.float 1)) := by
      rw [hfactor]
      exact power?_one (by omega)
    obtain ⟨x, hx⟩ : ∃ x, ((Num.float (delay * 1)).least (.float maxDelay)).roundTo 3 = .float x := by
      unfold Num.least
      split
      · exact ⟨_, rfl⟩
      · exact ⟨_, rfl⟩
    refine ⟨x, ?_⟩
    rw [RetryStrategy.waitFor, delayFor_eq hretry hbefore hgrowth, hdelay, hmaxDelay]
    exact congrArg Num.toFloat hx

theorem exists_waitFor_storage (settings : Settings) {i : Nat} (hfirst : 1 ≤ i) (hi : i ≤ 2 ^ 1000) :
    ∃ seconds, (RetryStrategy.forStorage settings).waitFor i = .ok seconds := by
  unfold RetryStrategy.forStorage
  split
  · exact exists_waitFor_even rfl rfl rfl hfirst hi
  · obtain ⟨longest, hlongest⟩ : ∃ longest,
        (Num.float settings.storageRetryDelay).most (.float 0) = .float longest := by
      unfold Num.most
      split
      · exact ⟨_, rfl⟩
      · exact ⟨_, rfl⟩
    exact exists_waitFor_even rfl rfl hlongest hfirst hi

theorem limit_storage (settings : Settings) :
    (RetryStrategy.forStorage settings).limit = settings.storageRetries.toNat := by
  unfold RetryStrategy.forStorage
  split
  · rename_i hnone
    exact (Int.toNat_of_nonpos hnone).symm
  · rfl

/-! ## What the handlers do -/

variable {step : Step} {lead : Lead} {context : Context} {change : RecordChange}

/-- Notes that are a text, or none, can take a tag. -/
theorem withTag_of_isPossible {knowledge : Fields} {name : String}
    (h : (RecordChange.knowledge (.tag name)).IsPossible knowledge) :
    withTag knowledge name = .ok ((KnowledgeChange.tag name).applied knowledge) := by
  have htag := KnowledgeChange.withTag_eq knowledge name
  rw [notesOf_eq_notesText h, isMarked, Except.map] at htag
  rw [htag, KnowledgeChange.applied_tag_of_ok htag]

theorem RecordChange.of?_eq_some (h : of? context step = some change) :
    ∃ c, step.body = .action c ∧
      ((c.actionType = "update_status" ∧ change = .status (textOr c.newStatus context.settings.newStatus)) ∨
        (c.actionType = "add_tag" ∧ change = .knowledge (.tag (textOr c.tag context.settings.tag))) ∨
        (c.actionType = "assign_user" ∧ change = .knowledge (.assignee (c.assignee.getD "")))) := by
  unfold of? KnowledgeChange.of? at h
  cases hbody : step.body with
  | trigger c => simp [hbody] at h
  | condition c => simp [hbody] at h
  | wait c => simp [hbody] at h
  | action c =>
    refine ⟨c, rfl, ?_⟩
    simp only [hbody] at h
    split at h
    · rename_i htype
      exact .inl ⟨htype, (Option.some.inj h).symm⟩
    · split at h
      · rename_i htype
        exact .inr (.inl ⟨htype, (Option.some.inj h).symm⟩)
      · split at h
        · rename_i htype
          exact .inr (.inr ⟨htype, (Option.some.inj h).symm⟩)
        · cases h

/-- The handler of a type that has one. -/
theorem handlerOf_of_type {c : ActionConfig} {h : Handler} (hh : h ∈ Handler.builtIn)
    (htype : c.actionType = h.type) : Registry.builtIn.handlerOf c = h := by
  simp only [Handler.builtIn, List.mem_cons, List.not_mem_nil, or_false] at hh
  obtain rfl | rfl | rfl | rfl | rfl | rfl := hh <;> (rw [Registry.handlerOf, htype]; rfl)

/-- A step that changes the record asks for the change and reports the answer. -/
theorem work_eq (hchange : RecordChange.of? context step = some change)
    (hpossible : change.IsPossible lead.knowledgeBase) :
    Registry.builtIn.work step lead context =
      (updateLead lead context (change.patch lead)).bind fun receipt =>
        Program.done (change.report (.ok receipt)) := by
  obtain ⟨c, hbody, ⟨htype, rfl⟩ | ⟨htype, rfl⟩ | ⟨htype, rfl⟩⟩ := RecordChange.of?_eq_some hchange
  · have hhandler := handlerOf_of_type (h := .updateStatus) (by simp [Handler.builtIn]) htype
    simp only [Registry.work, hbody, hhandler]
    refine congrArg (Program.bind · _) (funext fun receipt => ?_)
    obtain ⟨success, error⟩ := receipt
    cases success <;> rfl
  · have hhandler := handlerOf_of_type (h := .addTag) (by simp [Handler.builtIn]) htype
    have htag := withTag_of_isPossible hpossible
    simp only [Registry.work, hbody, hhandler, Handler.addTag, addTag, htag, ofOutcome, bind_eq, bind_done]
    refine congrArg (Program.bind · _) (funext fun receipt => ?_)
    obtain ⟨success, error⟩ := receipt
    cases success <;> rfl
  · have hhandler := handlerOf_of_type (h := .assignUser) (by simp [Handler.builtIn]) htype
    simp only [Registry.work, hbody, hhandler]
    refine congrArg (Program.bind · _) (funext fun receipt => ?_)
    obtain ⟨success, error⟩ := receipt
    cases success <;> rfl

/-! ## Runs of one step -/

section Runs

variable {τ σ : Type} [Timeline τ]

/-- A step that changes the record runs as its call to storage does, and reports how that ended. -/
theorem run_task (hchange : RecordChange.of? context step = some change)
    (hpossible : change.IsPossible lead.knowledgeBase) (outside : Outside calls τ σ) (stop : Option τ)
    (j : Journey τ σ) :
    (Registry.builtIn.task step lead context).run outside stop j =
      match (fromStorage context (change.call lead)).run outside stop j with
      | (.finished answer, j') => (.finished (.ok (change.report answer)), j')
      | (.cut, j') => (.cut, j') := by
  unfold Registry.task guarded
  rw [work_eq hchange hpossible, updateLead]
  simp only [bind_eq, run_bind, run_attempt, RecordChange.call]
  obtain ⟨ending, j'⟩ := (fromStorage context (.updateRecord lead.id (change.patch lead))).run outside stop j
  cases ending with
  | cut => rfl
  | finished answer =>
    cases answer with
    | ok receipt => rfl
    | error f => rfl

/-- A call to storage that is not cut off is made up to the first attempt that settles it, and ends as that
one did. -/
theorem run_fromStorage {outside : Outside calls τ σ} {turn : σ → Nat}
    {answers : Nat → (c : Call) → Outcome c.Reply} (h : AnswersInTurn outside turn answers)
    {stop : Option τ} {j j' : Journey τ σ} (hfirst : turn j.world = 1) {c : Call} {k : Nat}
    (hk : IsLeast (Final (fun i => settled (answers i c)) 1 (context.settings.storageRetries.toNat + 1)) k)
    (hwaits : ∀ i, 1 ≤ i → i < k → ∃ seconds,
      (RetryStrategy.forStorage context.settings).waitFor i = .ok seconds) {answer : Outcome c.Reply}
    (hrun : (fromStorage context c).run outside stop j = (.finished answer, j')) :
    answer = answers k c ∧
      j'.calls.map (·.2) = j.calls.map (·.2) ++ (List.replicate k c : List calls.Call) := by
  rw [← limit_storage] at hk
  exact run_retried_of_finished h hfirst hk hwaits hrun

/-- A step that changes the record asks for that change only, wherever it is cut off. -/
theorem run_task_calls (hchange : RecordChange.of? context step = some change)
    (hpossible : change.IsPossible lead.knowledgeBase) (outside : Outside calls τ σ) (stop : Option τ)
    (j : Journey τ σ) :
    ∃ m, ((Registry.builtIn.task step lead context).run outside stop j).2.calls.map (·.2) =
      j.calls.map (·.2) ++ (List.replicate m (change.call lead) : List calls.Call) := by
  have hasks : (fromStorage context (change.call lead)).Asks fun c => change.call lead = c :=
    (fromStorage_keepsTo rfl).asks fun _ hc => hc
  obtain ⟨made, hcalls, hmade⟩ := run_asks outside stop hasks j
  have hcourse : ((Registry.builtIn.task step lead context).run outside stop j).2 =
      ((fromStorage context (change.call lead)).run outside stop j).2 := by
    rw [run_task hchange hpossible]
    split <;> rename_i heq <;> rw [heq]
  refine ⟨made.length, ?_⟩
  rw [hcourse, hcalls, List.map_append, List.append_cancel_left_eq, ← List.length_map (·.2)]
  refine List.eq_replicate_of_mem fun c hc => ?_
  obtain ⟨x, hx, rfl⟩ := List.mem_map.mp hc
  exact (hmade x hx).symm

/-- A step that changes the record is cut off, or tells the answer to its last attempt. -/
theorem run_task_tells (hchange : RecordChange.of? context step = some change)
    (hpossible : change.IsPossible lead.knowledgeBase) (outside : Outside calls τ σ) (stop : Option τ)
    (j : Journey τ σ) :
    let run := (Registry.builtIn.task step lead context).run outside stop j
    run.1 = .cut ∨ ∃ r, run.1 = .finished (.ok r) ∧ r.verdict ≠ .skip ∧
      ∀ (turn : σ → Nat) (answers : Nat → (c : Call) → Outcome c.Reply) (k : Nat),
        AnswersInTurn outside turn answers → turn j.world = 1 →
        IsLeast (Final (fun i => settled (answers i (change.call lead))) 1
          (context.settings.storageRetries.toNat + 1)) k →
        (∀ i, 1 ≤ i → i < k → ∃ seconds,
          (RetryStrategy.forStorage context.settings).waitFor i = .ok seconds) →
        run.2.calls.map (·.2) =
          j.calls.map (·.2) ++ (List.replicate k (change.call lead) : List calls.Call) ∧
        r.Tells change (answers k (change.call lead)) := by
  intro run
  obtain ⟨⟨ending, j'⟩, hstored⟩ : ∃ x,
    (fromStorage context (change.call lead)).run outside stop j = x := ⟨_, rfl⟩
  have hrun := run_task hchange hpossible outside stop j
  rw [hstored] at hrun
  cases ending with
  | cut => exact .inl (congrArg Prod.fst hrun)
  | finished answer =>
    refine .inr ⟨change.report answer, congrArg Prod.fst hrun, change.report_not_skip answer, ?_⟩
    intro turn answers k hanswers hfirst hk hwaits
    obtain ⟨rfl, hcalls⟩ := run_fromStorage hanswers hfirst hk hwaits hstored
    exact ⟨(congrArg (fun x => x.2.calls.map (·.2)) hrun).trans hcalls, change.report_tells _⟩

end Runs

/-! ## Alerts -/

/-- What an alert about a lead says. -/
def alertText (title : String) (lead : Lead) : String :=
  s!"Alert from workflow node \"{title}\" for lead {lead.name} ({lead.company})"

/-- What a step says of an alert. -/
def alertReport (lead : Lead) : Outcome Unit → Report
  | .ok _ => .passed s!"Alert created for \"{lead.name}\""
  | .error f => .failed s!"Alert creation failed: {f.reason}"

/-- A step that writes an alert makes one call and reports the answer. -/
theorem task_alert {c : ActionConfig} (hbody : step.body = .action c)
    (htype : c.actionType = "create_alert") :
    Registry.builtIn.task step lead context =
      Program.call (I := calls) (.audit context.actor .alert (alertText step.title lead)) fun answer =>
        Program.done (alertReport lead answer) := by
  have hhandler := handlerOf_of_type (h := .createAlert) (by simp [Handler.builtIn]) htype
  simp only [Registry.task, Registry.work, hbody, hhandler]
  refine congrArg (Program.call (I := calls) _) (funext fun answer => ?_)
  cases answer with
  | ok _ => rfl
  | error f => rfl

theorem run_alert {τ σ : Type} [Timeline τ] {c : ActionConfig} (hbody : step.body = .action c)
    (htype : c.actionType = "create_alert") (outside : Outside calls τ σ) (stop : Option τ)
    (j : Journey τ σ) :
    let entry := Call.audit context.actor .alert (alertText step.title lead)
    let run := (Registry.builtIn.task step lead context).run outside stop j
    run.2.calls.map (·.2) = j.calls.map (·.2) ++ ([entry] : List calls.Call) ∧
      (run.1 = .cut ∨
        run.1 = .finished (.ok (alertReport lead (outside j.now entry j.world).outcome))) := by
  intro entry run
  have hrun : run = (Program.call (I := calls) entry fun answer =>
      Program.done (alertReport lead answer)).run outside stop j := by rw [← task_alert hbody htype]
  rw [hrun]
  simp only [Program.run]
  split
  · exact ⟨by simp [Course.noting], .inr rfl⟩
  · exact ⟨by simp [Course.noting], .inl rfl⟩

/-! ## Whole runs -/

/-- A change of the record that a step makes for a lead as it was given. -/
def IsChangeBy (context : Context) (lead : Lead) (step : Step) : Call → Prop
  | .updateRecord id patch =>
    id = lead.id ∧ ∃ change, RecordChange.of? context step = some change ∧ patch = change.patch lead
  | _ => True

theorem isChangeBy_of_changes (hchange : RecordChange.of? context step = some change) {c : Call}
    (h : c.changes lead.id (change.patch lead)) : IsChangeBy context lead step c := by
  cases c with
  | updateRecord id patch => exact ⟨h.1, change, hchange, h.2⟩
  | _ => trivial

/-- A step asks for no change but its own, worked out from the lead that it is given. -/
theorem task_asks_own (step : Step) (lead : Lead) (context : Context) :
    (Registry.builtIn.task step lead context).Asks (IsChangeBy context lead step) := by
  refine task_keepsTo step lead context fun c hbody => ?_
  obtain ⟨hbuiltIn, htype⟩ := handlerOf_builtIn c
  generalize Registry.builtIn.handlerOf c = handler at hbuiltIn htype
  have htype (hne : handler.type ≠ "generic") : handler.type = c.actionType :=
    htype.resolve_left fun hgeneric => hne (congrArg Handler.type hgeneric)
  simp only [Handler.builtIn, List.mem_cons, List.not_mem_nil, or_false] at hbuiltIn
  obtain rfl | rfl | rfl | rfl | rfl | rfl := hbuiltIn
  · refine sendEmail_keepsTo.asks fun call hcall => ?_
    cases call with
    | updateRecord id patch => cases hcall
    | _ => trivial
  · have hchange : RecordChange.of? context step =
        some (.status (textOr c.newStatus context.settings.newStatus)) := by
      simp [RecordChange.of?, hbody, ← htype (by decide), Handler.updateStatus]
    exact updateStatus_keepsTo.asks fun call hcall => isChangeBy_of_changes hchange hcall
  · have hchange : RecordChange.of? context step =
        some (.knowledge (.tag (textOr c.tag context.settings.tag))) := by
      simp [RecordChange.of?, KnowledgeChange.of?, hbody, ← htype (by decide), Handler.addTag]
    refine addTag_keepsTo.asks fun call hcall => isChangeBy_of_changes hchange ?_
    obtain ⟨knowledge, hknowledge, hchanges⟩ := hcall
    rw [← KnowledgeChange.applied_tag_of_ok hknowledge] at hchanges
    exact hchanges
  · have hchange : RecordChange.of? context step = some (.knowledge (.assignee (c.assignee.getD ""))) := by
      simp [RecordChange.of?, KnowledgeChange.of?, hbody, ← htype (by decide), Handler.assignUser]
    exact assignUser_keepsTo.asks fun call hcall => isChangeBy_of_changes hchange hcall
  · refine createAlert_keepsTo.asks fun call hcall => ?_
    obtain ⟨details, rfl⟩ := hcall
    trivial
  · trivial

/-! ## The main result -/

/-- Steps on the record report exactly what storage did.  A step that changes the record asks for one and
the same change of its lead, wherever it is cut off, and is not left out.  If it is not cut off, it asks up to
the first attempt that settles the matter or the last that the settings allow, and tells the answer to that
one, as long as the waits between are defined.  A step that writes an alert makes that one call and tells the
answer.  In a run of a whole workflow, every change of a record is worked out from the lead as the run was
given it.  The waits are powers to the number of the attempt, and are defined up to the number `2 ^ 1000`. -/
theorem recordSteps_report :
    (∀ {τ σ : Type} [Timeline τ] (outside : Outside calls τ σ) (limit : τ) (j : Journey τ σ) (step : Step)
        (lead : Lead) (context : Context) (change : RecordChange),
      RecordChange.of? context step = some change → change.IsPossible lead.knowledgeBase →
      let run := (Registry.builtIn.task step lead context).runWithin outside limit j
      (∃ m, run.2.calls.map (·.2) =
        j.calls.map (·.2) ++ (List.replicate m (change.call lead) : List calls.Call)) ∧
      (run.1 = .cut ∨ ∃ r, run.1 = .finished (.ok r) ∧ r.verdict ≠ .skip ∧
        ∀ (turn : σ → Nat) (answers : Nat → (c : Call) → Outcome c.Reply) (k : Nat),
          AnswersInTurn outside turn answers → turn j.world = 1 →
          IsLeast (Final (fun i => settled (answers i (change.call lead))) 1
            (context.settings.storageRetries.toNat + 1)) k →
          (∀ i, 1 ≤ i → i < k → ∃ seconds,
            (RetryStrategy.forStorage context.settings).waitFor i = .ok seconds) →
          run.2.calls.map (·.2) =
            j.calls.map (·.2) ++ (List.replicate k (change.call lead) : List calls.Call) ∧
          r.Tells change (answers k (change.call lead)))) ∧
    (∀ {τ σ : Type} [Timeline τ] (outside : Outside calls τ σ) (limit : τ) (j : Journey τ σ) (step : Step)
        (c : ActionConfig) (lead : Lead) (context : Context),
      step.body = .action c → c.actionType = "create_alert" → Timeline.le limit Timeline.zero = false →
      let entry := Call.audit context.actor .alert (alertText step.title lead)
      let run := (Registry.builtIn.task step lead context).runWithin outside limit j
      run.2.calls.map (·.2) = j.calls.map (·.2) ++ ([entry] : List calls.Call) ∧
      (run.1 = .cut ∨
        run.1 = .finished (.ok (alertReport lead (outside j.now entry j.world).outcome)))) ∧
    (∀ {τ σ : Type} [Timeline τ] (outside : Outside calls τ σ) (context : Context) (runId : Nat → String)
        (w : Workflow) (deadline : τ) (lead : Lead) (j : Journey τ σ),
      Engine.Gains (fun c => ∃ step ∈ w.steps, IsChangeBy context lead step c) j
        ((Engine.builtIn outside context runId).runLead w deadline lead j).2) ∧
    ∀ (settings : Settings) (i : Nat), 1 ≤ i → i ≤ 2 ^ 1000 →
      ∃ seconds, (RetryStrategy.forStorage settings).waitFor i = .ok seconds := by
  refine ⟨fun outside limit j step lead context change hchange hpossible => ?_,
    fun outside limit j step c lead context hbody htype hlimit => ?_,
    fun outside context runId w deadline lead j => ?_,
    fun settings i hfirst hi => exists_waitFor_storage settings hfirst hi⟩
  · unfold runWithin
    split
    · exact ⟨⟨0, (List.append_nil _).symm⟩, .inl rfl⟩
    · exact ⟨run_task_calls hchange hpossible outside _ j, run_task_tells hchange hpossible outside _ j⟩
  · unfold runWithin
    rw [hlimit]
    exact run_alert hbody htype outside _ j
  · exact Engine.runLead_gains rfl fun step hstep =>
      (task_asks_own step lead context).asks fun c hc => ⟨step, hstep, hc⟩

/-- A step that sets the status, with a fallback that it has no use for. -/
def statusStep : Step where
  id := "s1"
  title := "Mark as contacted"
  description := ""
  body := .action
    { actionType := "update_status", template := none, customSubject := none, customBody := none
      aiPersonalization := false, timing := .immediate, fallbackEnabled := true
      fallbackAction := .retry, newStatus := some "Contacted", tag := none, assignee := none, extras := [] }

/-- Storage is too slow once, then makes every change. -/
def slowAnswers (turn : Nat) : (c : Call) → Outcome c.Reply
  | .updateRecord .. => if turn = 1 then .error ⟨.timeout, none⟩ else .ok ⟨true, .null⟩
  | _ => .error ⟨.timeout, none⟩

/-- An outside that counts the calls. -/
def slowAtFirst : Outside calls Float Nat := fun _ c turn => ⟨0, slowAnswers turn c, turn + 1⟩

/-- The start of an execution before the first call. -/
def firstTurn : Journey Float Nat := ⟨1, 0, 0, 0, 0, []⟩

/-- A change that times out once is asked for twice, and passes. -/
theorem recordSteps_report_secondAttempt : ∃ j',
    (Registry.builtIn.task statusStep ann plainEngine.context).runWithin slowAtFirst 10 firstTurn =
      (.finished (.ok (.passed "Lead status updated to \"Contacted\"")), j') ∧
    j'.calls.map (·.2) = ([.updateRecord "ann" [("status", .str "Contacted")],
      .updateRecord "ann" [("status", .str "Contacted")]] : List calls.Call) := by
  have hdone : (match ((Registry.builtIn.task statusStep ann plainEngine.context).runWithin slowAtFirst 10
      firstTurn).1 with
    | .cut => false
    | .finished _ => true) = true := by decide +kernel
  have hk : IsLeast (Final (fun i => settled (slowAnswers i ((RecordChange.status "Contacted").call ann))) 1 3)
      2 := lastAttempt_isLeast (fun i => settled (slowAnswers i ((RecordChange.status "Contacted").call ann))) 2 1
  obtain ⟨hreport, -, -, hwaits⟩ := recordSteps_report
  obtain ⟨-, hcut | ⟨r, hr, -, htells⟩⟩ := hreport slowAtFirst 10 firstTurn statusStep ann
    plainEngine.context (.status "Contacted") rfl trivial
  · rw [hcut] at hdone
    cases hdone
  · obtain ⟨hcalls, hpasses, hmessage, -⟩ :=
      htells id slowAnswers 2 ⟨fun _ _ _ => rfl, fun _ _ _ => rfl⟩ rfl hk
        fun i hi hi' => hwaits _ i hi (by omega)
    have hpass : r.verdict = .pass := hpasses.mpr ⟨_, rfl, rfl⟩
    obtain rfl : r = .passed "Lead status updated to \"Contacted\"" := by
      obtain ⟨verdict, message⟩ := r
      cases hpass
      exact congrArg _ (hmessage rfl)
    obtain ⟨j', hj'⟩ := exists_eq_mk_of_fst_eq hr
    rw [hj'] at hcalls
    exact ⟨j', hj', hcalls⟩

end LeadFlow.Execution
