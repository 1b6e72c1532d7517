import LeadFlow.Execution.Registry
import LeadFlow.Proofs.Program.Transcript

set_option autoImplicit false

/-!
# Execution: what the built-in handlers ask for

A step deals with its lead.  Delivering a message asks for messages, their texts and an alert;
the other handlers change the record of the lead or write an alert of their own.  No step keeps the
books of the batch: storing runs, folding them into the statistics and closing the batch.

Main statement: `task_works`.
-/

namespace LeadFlow.Execution

open Program

namespace Call

/-- A call that a delivery may need for an actor. -/
def isForDelivery (actor : String) : Call → Bool
  | sendMessage .. | scheduleMessage .. | getTemplate .. | generate .. => true
  | audit name .fallbackAlert _ => name == actor
  | _ => false

/-- Asks for other words. -/
def isRewording : Call → Bool
  | generate .. => true
  | _ => false

/-- A patch that sets the status to a text, or puts another knowledge base in place. -/
def isPatchOfStep : Fields → Bool
  | [("status", .str _)] | [("knowledge_base", .object _)] => true
  | _ => false

/-- A call that a step may make for an actor: an entry names the actor, a patch has one of two forms, and
the books of the batch are left alone. -/
def isOfStep (actor : String) : Call → Bool
  | saveRun .. | updateStats .. => false
  | audit name action _ => name == actor && action != .executed
  | updateRecord _ patch => isPatchOfStep patch
  | _ => true

/-- A call that keeps the books of a batch. -/
def isBookkeeping : Call → Bool
  | saveRun .. | updateStats .. => true
  | audit _ .executed _ => true
  | _ => false

/-- A change of the record of a lead. -/
def changes (leadId : String) (patch : Fields) : Call → Prop
  | updateRecord id p => id = leadId ∧ p = patch
  | _ => False

theorem isOfStep_of_isForDelivery {actor : String} {c : Call} (h : c.isForDelivery actor) :
    c.isOfStep actor := by
  cases c with
  | audit name action details => cases action <;> simp_all [isForDelivery, isOfStep]
  | _ => first | rfl | cases h

theorem isOfStep_of_changes {actor id : String} {patch : Fields} {c : Call} (h : c.changes id patch)
    (hpatch : isPatchOfStep patch) : c.isOfStep actor := by
  cases c with
  | updateRecord id' patch' =>
    obtain ⟨-, rfl⟩ := h
    exact hpatch
  | _ => cases h

theorem isBookkeeping_of_isOfStep {actor : String} {c : Call} (h : c.isOfStep actor) :
    c.isBookkeeping = false := by
  cases c with
  | audit name action details => cases action <;> simp_all [isOfStep, isBookkeeping]
  | _ => first | rfl | cases h

end Call

/-- A wait before storage is asked again. -/
def IsStorageWait (context : Context) (seconds : Float) : Prop :=
  ∃ retry, (RetryStrategy.forStorage context.settings).waitFor retry = .ok seconds

/-- Work whose calls satisfy `P`, and which waits only before it asks storage again. -/
abbrev Acting {α : Type} (context : Context) (P : Call → Prop) (w : Work α) : Prop :=
  w.KeepsTo P (IsStorageWait context)

/-- Work that asks for nothing but a delivery. -/
abbrev Delivering {α : Type} (context : Context) (w : Work α) : Prop :=
  Acting context (fun c => Call.isForDelivery context.actor c = true) w

/-- Work that asks for nothing but a delivery, and for no other words. -/
abbrev Plain {α : Type} (context : Context) (w : Work α) : Prop :=
  Acting context (fun c => Call.isForDelivery context.actor c = true ∧ Call.isRewording c = false) w

theorem Plain.delivering {α : Type} {context : Context} {w : Work α} (h : Plain context w) :
    Delivering context w :=
  h.mono (fun _ hc => hc.1) fun _ hwait => hwait

variable {step : ActionStep} {lead : Lead} {context : Context}

/-! ## Deliveries -/

theorem alertFallback_keepsTo (error : String) : Plain context (alertFallback step lead context error) := by
  refine KeepsTo.bind (keepsTo_ask ⟨beq_self_eq_true context.actor, rfl⟩) fun answer => ?_
  cases answer <;> trivial

theorem retryFallback_keepsTo (error : String) (content : Content) :
    Plain context (retryFallback lead context error content) := by
  refine KeepsTo.bind (keepsTo_ofOutcome _) fun wait => ?_
  refine KeepsTo.bind keepsTo_clock fun now => ?_
  refine KeepsTo.bind (keepsTo_ofOutcome _) fun due => ?_
  refine KeepsTo.bind (keepsTo_ask ⟨rfl, rfl⟩) fun answer => ?_
  cases answer with
  | error f => trivial
  | ok q =>
    refine KeepsTo.bind (keepsTo_ofOutcome _) fun success => ?_
    cases success with
    | true => trivial
    | false => exact KeepsTo.bind (keepsTo_ofOutcome _) fun reason => trivial

theorem applyFallback_keepsTo (error : String) (content : Option Content) :
    Plain context (applyFallback step lead context error content) := by
  unfold applyFallback
  split
  · trivial
  · split
    · exact alertFallback_keepsTo error
    · exact retryFallback_keepsTo error _
    · trivial
    · trivial

theorem fromStorage_keepsTo {P : calls.Call → Prop} {c : Call} (h : P c) :
    Acting context P (fromStorage context c) :=
  keepsTo_retriedFrom h (fun retry _ hwait => ⟨retry, hwait⟩) _ _

theorem compose_keepsTo : Plain context (compose step lead context) := by
  have hfilled : ∀ draft, Plain context ((ofOutcome (filled lead context draft)).bind fun content =>
      (done (.ok content) : Work (Except Report Content))) :=
    fun draft => KeepsTo.bind (keepsTo_ofOutcome _) fun content => trivial
  unfold compose
  dsimp only
  split
  · split
    · trivial
    · exact hfilled _
  · refine KeepsTo.bind (KeepsTo.attempt (fromStorage_keepsTo ⟨rfl, rfl⟩)) fun answer => ?_
    cases answer with
    | error f => trivial
    | ok found =>
      cases found with
      | none => trivial
      | some t => exact hfilled _

theorem finalContent_keepsTo (draft : Content) : Delivering context (finalContent step lead context draft) := by
  unfold finalContent
  dsimp only
  split
  · refine KeepsTo.bind ?_ fun wording => ?_
    · unfold personalize
      split
      · trivial
      · refine KeepsTo.bind (keepsTo_ask rfl) fun answer => ?_
        cases answer <;> trivial
    · cases wording <;> trivial
  · trivial

theorem sendNow_keepsTo (m : Outgoing) : Plain context (sendNow step lead context m) := by
  refine KeepsTo.bind (keepsTo_ask ⟨rfl, rfl⟩) fun answer => ?_
  cases answer with
  | error f => exact applyFallback_keepsTo _ _
  | ok d =>
    simp only
    split
    · trivial
    · exact applyFallback_keepsTo _ _

theorem sendLater_keepsTo (m : Outgoing) : Plain context (sendLater step lead context m) := by
  refine KeepsTo.bind (keepsTo_ofOutcome _) fun zone => ?_
  refine KeepsTo.bind keepsTo_clock fun now => ?_
  refine KeepsTo.bind (keepsTo_ofOutcome _) fun due => ?_
  refine KeepsTo.bind (keepsTo_ask ⟨rfl, rfl⟩) fun answer => ?_
  cases answer with
  | error f => exact applyFallback_keepsTo _ _
  | ok q =>
    refine KeepsTo.bind (keepsTo_ofOutcome _) fun success => ?_
    cases success with
    | true => trivial
    | false => exact KeepsTo.bind (keepsTo_ofOutcome _) fun reason => applyFallback_keepsTo _ _

theorem dispatch_keepsTo (m : Outgoing) : Plain context (dispatch step lead context m) := by
  unfold dispatch
  split
  · exact sendNow_keepsTo m
  · exact sendLater_keepsTo m

theorem sendEmail_keepsTo : Delivering context (sendEmail step lead context) := by
  unfold sendEmail
  split
  · trivial
  · refine KeepsTo.bind compose_keepsTo.delivering fun composed => ?_
    cases composed with
    | error report => trivial
    | ok draft => exact KeepsTo.bind (finalContent_keepsTo draft) fun m => (dispatch_keepsTo m).delivering

/-! ## The other handlers -/

theorem updateLead_keepsTo (patch : Fields) :
    Acting context (Call.changes lead.id patch) (updateLead lead context patch) := by
  refine KeepsTo.bind (KeepsTo.attempt (fromStorage_keepsTo ⟨rfl, rfl⟩)) fun answer => ?_
  cases answer <;> trivial

/-- The status that a step sets. -/
def statusOf (step : ActionStep) (context : Context) : String :=
  textOr step.config.newStatus context.settings.newStatus

theorem updateStatus_keepsTo : Acting context
    (Call.changes lead.id [("status", .str (statusOf step context))]) (updateStatus step lead context) := by
  refine KeepsTo.bind (updateLead_keepsTo _) fun r => ?_
  split <;> trivial

/-- The tag that a step adds. -/
def tagOf (step : ActionStep) (context : Context) : String := textOr step.config.tag context.settings.tag

theorem addTag_keepsTo : Acting context
    (fun c => ∃ knowledge, withTag lead.knowledgeBase (tagOf step context) = .ok knowledge ∧
      Call.changes lead.id [("knowledge_base", .object knowledge)] c)
    (addTag step lead context) := by
  refine keepsTo_ofOutcome_bind fun knowledge hknowledge => ?_
  refine KeepsTo.bind ((updateLead_keepsTo _).mono (fun c hc => ⟨_, hknowledge, hc⟩) fun _ h => h) fun r => ?_
  split <;> trivial

/-- The knowledge base with the assignee of a step. -/
def assignedBy (step : ActionStep) (lead : Lead) : Fields :=
  Fields.put "assignedTo" (.str (step.config.assignee.getD "")) lead.knowledgeBase

theorem assignUser_keepsTo : Acting context
    (Call.changes lead.id [("knowledge_base", .object (assignedBy step lead))])
    (assignUser step lead context) := by
  refine KeepsTo.bind (updateLead_keepsTo _) fun r => ?_
  split <;> trivial

theorem createAlert_keepsTo : Acting context
    (fun c : Call => ∃ details, c = .audit context.actor .alert details)
    (createAlert step lead context) := by
  refine KeepsTo.bind (keepsTo_ask ⟨_, rfl⟩) fun answer => ?_
  cases answer <;> trivial

/-! ## Steps of all kinds -/

/-- Every action goes to a built-in handler: the one of its type, or else the generic one. -/
theorem handlerOf_builtIn (c : ActionConfig) :
    Registry.builtIn.handlerOf c ∈ Handler.builtIn ∧
      (Registry.builtIn.handlerOf c = .generic ∨ (Registry.builtIn.handlerOf c).type = c.actionType) := by
  by_cases htype : c.actionType = ""
  · have hgeneric : Registry.builtIn.handlerOf c = .generic := by
      unfold Registry.handlerOf
      rw [if_pos htype]
      rfl
    rw [hgeneric]
    exact ⟨by simp [Handler.builtIn], .inl rfl⟩
  · unfold Registry.handlerOf Registry.resolve
    rw [if_neg htype]
    cases h : Registry.builtIn.handlers.lookup c.actionType with
    | none => exact ⟨by simp [Handler.builtIn, Registry.builtIn], .inl rfl⟩
    | some handler =>
      obtain ⟨before, after, hsplit, -⟩ := List.lookup_eq_some_iff.mp h
      have hmem : (c.actionType, handler) ∈ Registry.builtIn.handlers := by simp [hsplit]
      obtain ⟨handler', hhandler', heq⟩ := List.mem_map.mp hmem
      obtain ⟨hactionType, rfl⟩ := Prod.mk.inj heq
      exact ⟨hhandler', .inr hactionType⟩

theorem handler_keepsTo {h : Handler} (hh : h ∈ Handler.builtIn) (step : ActionStep) (lead : Lead)
    (context : Context) :
    Acting context (fun c => Call.isOfStep context.actor c = true) (h.run step lead context) := by
  simp only [Handler.builtIn, List.mem_cons, List.not_mem_nil, or_false] at hh
  obtain rfl | rfl | rfl | rfl | rfl | rfl := hh
  · exact sendEmail_keepsTo.mono (fun c hc => Call.isOfStep_of_isForDelivery hc) fun _ h => h
  · exact updateStatus_keepsTo.mono (fun c hc => Call.isOfStep_of_changes hc rfl) fun _ h => h
  · exact addTag_keepsTo.mono (fun c ⟨knowledge, _, hc⟩ => Call.isOfStep_of_changes hc rfl) fun _ h => h
  · exact assignUser_keepsTo.mono (fun c hc => Call.isOfStep_of_changes hc rfl) fun _ h => h
  · refine createAlert_keepsTo.mono (fun c ⟨details, hc⟩ => ?_) fun _ h => h
    simp [hc, Call.isOfStep]
  · trivial

/-- A step makes the calls of its handler, if it has one, and its waits. -/
theorem task_keepsTo {P : calls.Call → Prop} {W : Float → Prop} (step : Step) (lead : Lead)
    (context : Context)
    (h : ∀ c, step.body = .action c →
      ((Registry.builtIn.handlerOf c).run ⟨step.id, step.title, c⟩ lead context).KeepsTo P W) :
    (Registry.builtIn.task step lead context).KeepsTo P W := by
  have hwork : (Registry.builtIn.work step lead context).KeepsTo P W := by
    unfold Registry.work
    split
    · trivial
    · exact keepsTo_ofOutcome _
    · trivial
    · rename_i c hbody
      exact h c hbody
  refine KeepsTo.bind (KeepsTo.attempt hwork) fun result => ?_
  cases result <;> trivial

/-- The calls of a step are made for the actor, and a step waits only before it asks storage again. -/
theorem task_acts (step : Step) (lead : Lead) (context : Context) :
    Acting context (fun c => Call.isOfStep context.actor c = true)
      (Registry.builtIn.task step lead context) :=
  task_keepsTo step lead context fun c _ => handler_keepsTo (handlerOf_builtIn c).1 _ _ _

theorem task_asks_isOfStep (step : Step) (lead : Lead) (context : Context) :
    (Registry.builtIn.task step lead context).Asks fun c => Call.isOfStep context.actor c = true :=
  (task_acts step lead context).asks fun _ hc => hc

/-- Work that leaves the books alone. -/
abbrev Works {α : Type} (w : Work α) : Prop := w.Asks fun c => Call.isBookkeeping c = false

/-- No step of a workflow touches the books. -/
theorem task_works (step : Step) (lead : Lead) (context : Context) :
    Works (Registry.builtIn.task step lead context) :=
  (task_acts step lead context).asks fun _ hc => Call.isBookkeeping_of_isOfStep hc

end LeadFlow.Execution
