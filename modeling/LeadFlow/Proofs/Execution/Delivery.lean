import LeadFlow.Execution.Email
import LeadFlow.Proofs.Program.Transcript

set_option autoImplicit false

/-!
# Execution: how an email step goes

The course of one email step for all answers it may get: what the message is made from
(`Composition`), how it is delivered or queued (`Dispatch`), and what follows a failure (`FollowUp`).
Each of them lists the ways a part of the step can go, with the calls it makes and how it ends.

Main statements: `compose_yields` and `dispatch_yields`.
-/

namespace LeadFlow.Execution

open Calendar

/-! ## Calls and their answers -/

namespace Call

/-- Delivers a message at once. -/
def isSend : Call → Bool
  | sendMessage .. => true
  | _ => false

/-- Queues a message. -/
def isSchedule : Call → Bool
  | scheduleMessage .. => true
  | _ => false

/-- Alerts to a delivery that failed. -/
def isFallbackAlert : Call → Bool
  | audit _ .fallbackAlert _ => true
  | _ => false

/-- Looks for the content of a message. -/
def isComposing : Call → Bool
  | getTemplate .. | generate .. => true
  | _ => false

theorem isSend_of_isComposing {c : Call} (h : c.isComposing) : c.isSend = false := by
  cases c <;> first | rfl | cases h

theorem isSchedule_of_isComposing {c : Call} (h : c.isComposing) : c.isSchedule = false := by
  cases c <;> first | rfl | cases h

theorem isFallbackAlert_of_isComposing {c : Call} (h : c.isComposing) : c.isFallbackAlert = false := by
  cases c <;> first | rfl | cases h

/-- The content of a message that is delivered or queued. -/
def content? : Call → Option Content
  | sendMessage _ content _ _ => some content
  | scheduleMessage _ content _ => some content
  | _ => none

theorem content?_of_isComposing {c : Call} (h : c.isComposing) : c.content? = none := by
  cases c <;> first | rfl | cases h

end Call

/-- What was asked for was done. -/
def wentThrough : Exchange calls → Bool
  | ⟨.sendMessage .., .ok d⟩ => Delivery.success d
  | ⟨.scheduleMessage .., .ok q⟩ =>
    match Queued.success q with
    | .ok b => b
    | .error _ => false
  | ⟨_, .ok _⟩ => true
  | ⟨_, .error _⟩ => false

/-- The template that a lookup has found. -/
def found? : Exchange calls → Option Template
  | ⟨.getTemplate _, .ok t⟩ => t
  | _ => none

theorem found?_eq_none {x : Exchange calls} (h : Call.isComposing x.call = false) :
    found? x = none := by
  obtain ⟨c, answer⟩ := x
  cases c <;> first | rfl | cases h

/-- The calls of a step with their answers. -/
abbrev Transcript := List (Exchange calls)

namespace Transcript

/-- How many messages were delivered at once. -/
def sends (es : Transcript) : Nat := es.countP (·.call.isSend)

/-- How many messages were queued. -/
def schedules (es : Transcript) : Nat := es.countP (·.call.isSchedule)

/-- How many alerts were written. -/
def alerts (es : Transcript) : Nat := es.countP (·.call.isFallbackAlert)

/-- The delivery of the message: the first call that delivers or queues. -/
def delivery? (es : Transcript) : Option (Exchange calls) :=
  es.find? fun x => x.call.isSend || x.call.isSchedule

/-- The message went out. -/
def delivered (es : Transcript) : Bool := es.delivery?.any wentThrough

/-- The message did not go out. -/
def undelivered (es : Transcript) : Bool := es.delivery?.any fun x => !wentThrough x

end Transcript

/-! ## What a step is about -/

/-- A failed delivery is followed by a later attempt. -/
def ActionStep.retries (step : ActionStep) : Bool :=
  step.config.fallbackEnabled && step.config.fallbackAction == .retry

/-- A failed delivery is followed by an alert. -/
def ActionStep.alerts (step : ActionStep) : Bool :=
  step.config.fallbackEnabled && step.config.fallbackAction == .createAlert

/-- A failed delivery is passed over. -/
def ActionStep.forgives (step : ActionStep) : Bool :=
  step.config.fallbackEnabled &&
    (step.config.fallbackAction == .skip || step.config.fallbackAction == .createTask)

/-- The three ways to make up for a failed delivery exclude each other. -/
theorem ActionStep.fallbacks_exclusive (step : ActionStep) :
    (step.retries → step.alerts = false ∧ step.forgives = false) ∧
      (step.alerts → step.forgives = false) := by
  unfold ActionStep.retries ActionStep.alerts ActionStep.forgives
  cases step.config.fallbackEnabled <;> cases step.config.fallbackAction <;> decide

/-- What the message is made from: the texts of the step, if there are any, or the template that the
lookup has found. -/
def draft? (step : ActionStep) (lead : Lead) (context : Context) (es : Transcript) : Option Content :=
  let subject := step.config.customSubject.getD ""
  let body := step.config.customBody.getD ""
  if lead.email = "" then none
  else if templateOf step context = customTemplate then
    if subject = "" && body = "" then none else some (.ofTexts subject body)
  else (es.findSome? found?).map fun t => ⟨t.subject, t.body⟩

/-- The message: the draft with its tags filled. -/
def composed? (step : ActionStep) (lead : Lead) (context : Context) (es : Transcript) :
    Option Content :=
  (draft? step lead context es).bind fun draft => (filled lead context draft).toOption

/-- Later calls other than lookups leave the message as it is. -/
theorem composed?_append {step : ActionStep} {lead : Lead} {context : Context} {es rest : Transcript}
    (hrest : ∀ x ∈ rest, found? x = none) :
    composed? step lead context (es ++ rest) = composed? step lead context es := by
  have hfound : (es ++ rest).findSome? found? = es.findSome? found? := by
    rw [List.findSome?_append, List.findSome?_eq_none_iff.mpr hrest, Option.or_none]
  simp only [composed?, draft?, hfound]

/-- A call that sends content to the lead: at once or later, as the step says. -/
def Delivers (step : ActionStep) (lead : Lead) (content : Content) (c : Call) : Prop :=
  if step.config.timing = .immediate then c = .sendMessage lead.email content ⟨true, true⟩ lead.id
  else ∃ due, c = .scheduleMessage [lead] content due

/-! ## What may end a step with a fault -/

/-- The zone of the settings is unknown, or the time to send at is outside the calendar. -/
def SendUndated (step : ActionStep) (context : Context) (f : Fault) : Prop :=
  Message.zoneNamed context.settings.schedulingZone = .error f ∨
    ∃ zone now, Message.zoneNamed context.settings.schedulingZone = .ok zone ∧
      Message.sendTime step.config.timing now zone = .error f

/-- The wait before a later attempt has no length, or its end is outside the calendar. -/
def RetryUndated (context : Context) (f : Fault) : Prop :=
  (RetryStrategy.forFallback context.settings).waitFor 1 = .error f ∨
    ∃ wait now, (RetryStrategy.forFallback context.settings).waitFor 1 = .ok wait ∧
      laterBy now wait = .error f

/-- The answer to a queued message cannot be understood. -/
def Misanswered (q : Queued) (f : Fault) : Prop := q.success = .error f ∨ q.reason = .error f

/-! ## Composing -/

variable {step : ActionStep} {lead : Lead} {context : Context} {content : Content} {es : Transcript}

/-- What comes of composing a message. -/
inductive Composition (step : ActionStep) (lead : Lead) (context : Context) (es : Transcript) :
    Outcome (Except Report Content) → Prop where
  | composed {draft content : Content} : draft? step lead context es = some draft →
      filled lead context draft = .ok content → Composition step lead context es (.ok (.ok content))
  | missing {r : Report} : draft? step lead context es = none → r.verdict = .fail →
      Composition step lead context es (.ok (.error r))
  | unfilled {draft : Content} {f : Fault} : draft? step lead context es = some draft →
      filled lead context draft = .error f → Composition step lead context es (.error f)

/-- Filling the draft is the last thing that composing does, and needs no call. -/
theorem Composition.of_filled {draft : Content} {es' : Transcript} {o : Outcome (Except Report Content)}
    (hdraft : draft? step lead context es = some draft)
    (h : ((Program.ofOutcome (filled lead context draft)).bind fun content =>
      (.done (.ok content) : Work (Except Report Content))).Yields es' o) :
    es' = [] ∧ Composition step lead context es o := by
  rw [Program.yields_ofOutcome_bind_iff] at h
  obtain ⟨f, hfilled, hes, rfl⟩ | ⟨content, hfilled, h⟩ := h
  · exact ⟨hes, .unfilled hdraft hfilled⟩
  · obtain ⟨hes, rfl⟩ := Program.yields_done_iff.mp h
    exact ⟨hes, .composed hdraft hfilled⟩

/-- Of the attempts of a lookup, the one with a result decides which template was found. -/
theorem findSome?_found? {id : String} {o : Outcome (Option Template)}
    (hcalls : ∀ x ∈ es, x.call = Call.getTemplate id)
    (hresult : ∀ t : Option Template, (⟨Call.getTemplate id, .ok t⟩ : Exchange calls) ∈ es ↔ o = .ok t) :
    es.findSome? found? = o.toOption.join := by
  have hfound : ∀ x ∈ es, ∀ t, found? x = some t → o = .ok (some t) := by
    intro x hx t ht
    obtain ⟨c, answer⟩ := x
    obtain rfl := hcalls _ hx
    cases answer with
    | error f => cases ht
    | ok t' =>
      have hresult' := (hresult t').mp hx
      rw [hresult']
      exact congrArg Except.ok ht
  cases hsome : es.findSome? found? with
  | some t =>
    obtain ⟨x, hx, ht⟩ := List.exists_of_findSome?_eq_some hsome
    simp [hfound x hx t ht, Except.toOption]
  | none =>
    rw [List.findSome?_eq_none_iff] at hsome
    cases ho : o with
    | error f => rfl
    | ok found =>
      cases found with
      | none => rfl
      | some t => exact absurd (hsome _ ((hresult (some t)).mpr ho)) (Option.some_ne_none t)

/-- Composing makes no call but lookups, and what comes of it follows from the draft. -/
theorem compose_yields {o : Outcome (Except Report Content)} (haddress : lead.email ≠ "")
    (h : (compose step lead context).Yields es o) :
    (∀ x ∈ es, x.call.isComposing) ∧ Composition step lead context es o := by
  unfold compose at h
  dsimp only at h
  split at h
  · rename_i htemplate
    split at h
    · rename_i hempty
      obtain ⟨rfl, rfl⟩ := Program.yields_done_iff.mp h
      exact ⟨by simp, .missing (by simp [draft?, haddress, htemplate, hempty]) rfl⟩
    · rename_i htexts
      have hdraft : draft? step lead context es =
          some (.ofTexts (step.config.customSubject.getD "") (step.config.customBody.getD "")) := by
        simp_all [draft?]
      obtain ⟨rfl, hcomposition⟩ := Composition.of_filled hdraft h
      exact ⟨by simp, hcomposition⟩
  · rename_i htemplate
    rw [Program.bind_eq, Program.yields_bind_iff] at h
    obtain ⟨es₁, es₂, answer, rfl, hlookup, h⟩ | ⟨e, hlookup, -⟩ := h
    · obtain ⟨o', hlookup, hok⟩ := Program.yields_attempt_iff.mp hlookup
      cases hok
      obtain ⟨hcalls, hresult⟩ := Program.yields_retriedFrom hlookup
      have hfound := findSome?_found? hcalls hresult
      have hcomposing : ∀ x ∈ es₁, x.call.isComposing := by
        intro x hx
        rw [hcalls x hx]
        rfl
      have hdraft : draft? step lead context es₁ =
          (Except.toOption answer).join.map fun t : Template => ⟨t.subject, t.body⟩ := by
        simp only [draft?, haddress, htemplate, hfound, if_false]
        rfl
      cases answer with
      | error f =>
        obtain ⟨rfl, rfl⟩ := Program.yields_done_iff.mp h
        rw [List.append_nil]
        exact ⟨hcomposing, .missing hdraft rfl⟩
      | ok found =>
        obtain - | t : Option Template := found
        · obtain ⟨rfl, rfl⟩ := Program.yields_done_iff.mp h
          rw [List.append_nil]
          exact ⟨hcomposing, .missing hdraft rfl⟩
        · obtain ⟨rfl, hcomposition⟩ := Composition.of_filled hdraft h
          rw [List.append_nil]
          exact ⟨hcomposing, hcomposition⟩
    · obtain ⟨o', -, hok⟩ := Program.yields_attempt_iff.mp hlookup
      cases hok

/-- Rewording asks the writer at most. -/
theorem personalize_yields {draft : Content} {o : Outcome (Option Content)}
    (h : (personalize step lead context draft).Yields es o) :
    (∀ x ∈ es, x.call.isComposing ∧ found? x = none) ∧ ∃ wording, o = .ok wording := by
  unfold personalize at h
  split at h
  · obtain ⟨rfl, rfl⟩ := Program.yields_done_iff.mp h
    exact ⟨by simp, _, rfl⟩
  · obtain ⟨answer, rest, rfl, hanswer⟩ := Program.yields_ask_bind_iff.mp h
    cases answer with
    | error f =>
      obtain ⟨rfl, rfl⟩ := Program.yields_done_iff.mp hanswer
      exact ⟨List.forall_mem_singleton.mpr ⟨rfl, rfl⟩, _, rfl⟩
    | ok generated =>
      obtain ⟨rfl, rfl⟩ := Program.yields_done_iff.mp hanswer
      exact ⟨List.forall_mem_singleton.mpr ⟨rfl, rfl⟩, _, rfl⟩

/-- Whatever becomes of rewording, there is a message to send. -/
theorem finalContent_yields {draft : Content} {o : Outcome Outgoing}
    (h : (finalContent step lead context draft).Yields es o) :
    (∀ x ∈ es, x.call.isComposing ∧ found? x = none) ∧ ∃ m, o = .ok m := by
  unfold finalContent at h
  dsimp only at h
  split at h
  · obtain ⟨es₁, es₂, wording, rfl, hwording, hmessage⟩ | ⟨e, hwording, rfl⟩ :=
      Program.yields_bind_iff.mp h
    · obtain ⟨hcalls, -⟩ := personalize_yields hwording
      cases wording with
      | none =>
        obtain ⟨rfl, rfl⟩ := Program.yields_done_iff.mp hmessage
        exact ⟨by simpa using hcalls, _, rfl⟩
      | some content =>
        obtain ⟨rfl, rfl⟩ := Program.yields_done_iff.mp hmessage
        exact ⟨by simpa using hcalls, _, rfl⟩
    · obtain ⟨-, wording, hok⟩ := personalize_yields hwording
      cases hok
  · obtain ⟨rfl, rfl⟩ := Program.yields_done_iff.mp h
    exact ⟨by simp, _, rfl⟩

/-! ## Following up on a failed delivery -/

/-- What follows a delivery that failed. -/
inductive FollowUp (step : ActionStep) (lead : Lead) (context : Context) (content : Content) :
    Transcript → Outcome Report → Prop where
  | none {r : Report} : step.retries = false → step.alerts = false →
      r.verdict = (if step.forgives then .pass else .fail) → FollowUp step lead context content [] (.ok r)
  | retried {due : Moment} {answer : Outcome Queued} {r : Report} : step.retries →
      r.verdict = (if wentThrough ⟨.scheduleMessage [lead] content due, answer⟩ then .pass else .fail) →
      FollowUp step lead context content [⟨.scheduleMessage [lead] content due, answer⟩] (.ok r)
  | alerted {details : String} {answer : Outcome Unit} {r : Report} : step.alerts →
      r.verdict = (if wentThrough ⟨.audit context.actor .fallbackAlert details, answer⟩ then .pass else .fail) →
      FollowUp step lead context content [⟨.audit context.actor .fallbackAlert details, answer⟩] (.ok r)
  | undated {f : Fault} : step.retries → RetryUndated context f →
      FollowUp step lead context content [] (.error f)
  | misanswered {due : Moment} {q : Queued} {f : Fault} : step.retries → Misanswered q f →
      FollowUp step lead context content [⟨.scheduleMessage [lead] content due, .ok q⟩] (.error f)

theorem alertFallback_yields {error : String} {o : Outcome Report} (hstep : step.alerts)
    (h : (alertFallback step lead context error).Yields es o) :
    FollowUp step lead context content es o := by
  obtain ⟨answer, rest, rfl, hreport⟩ := Program.yields_ask_bind_iff.mp h
  cases answer with
  | ok u =>
    obtain ⟨rfl, rfl⟩ := Program.yields_done_iff.mp hreport
    exact .alerted hstep rfl
  | error f =>
    obtain ⟨rfl, rfl⟩ := Program.yields_done_iff.mp hreport
    exact .alerted hstep rfl

theorem retryFallback_yields {error : String} {o : Outcome Report} (hstep : step.retries)
    (h : (retryFallback lead context error content).Yields es o) :
    FollowUp step lead context content es o := by
  obtain ⟨f, hwait, rfl, rfl⟩ | ⟨wait, hwait, hclock⟩ := Program.yields_ofOutcome_bind_iff.mp h
  · exact .undated hstep (.inl hwait)
  obtain ⟨now, hnow⟩ := Program.yields_clock_bind_iff.mp hclock
  obtain ⟨f, hdue, rfl, rfl⟩ | ⟨due, hdue, hask⟩ := Program.yields_ofOutcome_bind_iff.mp hnow
  · exact .undated hstep (.inr ⟨wait, now, hwait, hdue⟩)
  obtain ⟨answer, rest, rfl, hanswer⟩ := Program.yields_ask_bind_iff.mp hask
  cases answer with
  | error f =>
    obtain ⟨rfl, rfl⟩ := Program.yields_done_iff.mp hanswer
    exact .retried hstep rfl
  | ok q =>
    obtain ⟨f, hq, rfl, rfl⟩ | ⟨success, hq, hreport⟩ :=
      Program.yields_ofOutcome_bind_iff.mp hanswer
    · exact .misanswered hstep (.inl hq)
    cases success with
    | true =>
      obtain ⟨rfl, rfl⟩ := Program.yields_done_iff.mp hreport
      exact .retried hstep (by simp [wentThrough, hq, Report.passed])
    | false =>
      obtain ⟨f, hreason, rfl, rfl⟩ | ⟨reason, -, hfailed⟩ :=
        Program.yields_ofOutcome_bind_iff.mp hreport
      · exact .misanswered hstep (.inr hreason)
      obtain ⟨rfl, rfl⟩ := Program.yields_done_iff.mp hfailed
      exact .retried hstep (by simp [wentThrough, hq, Report.failed])

theorem applyFallback_yields {error : String} {o : Outcome Report}
    (h : (applyFallback step lead context error (some content)).Yields es o) :
    FollowUp step lead context content es o := by
  unfold applyFallback at h
  split at h
  · rename_i hoff
    obtain ⟨rfl, rfl⟩ := Program.yields_done_iff.mp h
    exact .none (by simp_all [ActionStep.retries]) (by simp_all [ActionStep.alerts])
      (by simp_all [ActionStep.forgives, Report.failed])
  · rename_i hon
    split at h
    · rename_i haction
      exact alertFallback_yields (by simp_all [ActionStep.alerts]) h
    · rename_i haction
      exact retryFallback_yields (by simp_all [ActionStep.retries]) h
    · rename_i haction
      obtain ⟨rfl, rfl⟩ := Program.yields_done_iff.mp h
      exact .none (by simp [ActionStep.retries, haction]) (by simp [ActionStep.alerts, haction])
        (by simp_all [ActionStep.forgives, Report.passed])
    · rename_i haction
      obtain ⟨rfl, rfl⟩ := Program.yields_done_iff.mp h
      exact .none (by simp [ActionStep.retries, haction]) (by simp [ActionStep.alerts, haction])
        (by simp_all [ActionStep.forgives, Report.passed])

/-! ## Delivering -/

/-- What becomes of a message. -/
inductive Dispatch (step : ActionStep) (lead : Lead) (context : Context) (content : Content) :
    Transcript → Outcome Report → Prop where
  | delivered {x : Exchange calls} {r : Report} : Delivers step lead content x.call →
      wentThrough x = true → r.verdict = .pass → Dispatch step lead context content [x] (.ok r)
  | failed {x : Exchange calls} {es : Transcript} {o : Outcome Report} :
      Delivers step lead content x.call → wentThrough x = false →
      FollowUp step lead context content es o → Dispatch step lead context content (x :: es) o
  | undated {f : Fault} : step.config.timing ≠ .immediate → SendUndated step context f →
      Dispatch step lead context content [] (.error f)
  | misanswered {due : Moment} {q : Queued} {f : Fault} : step.config.timing ≠ .immediate →
      Misanswered q f →
      Dispatch step lead context content [⟨.scheduleMessage [lead] content due, .ok q⟩] (.error f)

theorem sendNow_yields {m : Outgoing} {o : Outcome Report} (hstep : step.config.timing = .immediate)
    (h : (sendNow step lead context m).Yields es o) : Dispatch step lead context m.content es o := by
  have hdelivers : Delivers step lead m.content
      (.sendMessage lead.email m.content ⟨true, true⟩ lead.id) := by
    simp [Delivers, hstep]
  obtain ⟨answer, rest, rfl, hanswer⟩ := Program.yields_ask_bind_iff.mp h
  cases answer with
  | error f => exact .failed hdelivers rfl (applyFallback_yields hanswer)
  | ok d =>
    cases hd : Delivery.success d with
    | true =>
      simp only [hd, if_true] at hanswer
      obtain ⟨rfl, rfl⟩ := Program.yields_done_iff.mp hanswer
      exact .delivered hdelivers hd rfl
    | false =>
      simp only [hd] at hanswer
      exact .failed hdelivers hd (applyFallback_yields hanswer)

theorem sendLater_yields {m : Outgoing} {o : Outcome Report} (hstep : step.config.timing ≠ .immediate)
    (h : (sendLater step lead context m).Yields es o) : Dispatch step lead context m.content es o := by
  have hdelivers : ∀ due, Delivers step lead m.content (.scheduleMessage [lead] m.content due) := by
    simp [Delivers, hstep]
  obtain ⟨f, hzone, rfl, rfl⟩ | ⟨zone, hzone, hclock⟩ := Program.yields_ofOutcome_bind_iff.mp h
  · exact .undated hstep (.inl hzone)
  obtain ⟨now, hnow⟩ := Program.yields_clock_bind_iff.mp hclock
  obtain ⟨f, hdue, rfl, rfl⟩ | ⟨due, hdue, hask⟩ := Program.yields_ofOutcome_bind_iff.mp hnow
  · exact .undated hstep (.inr ⟨zone, now, hzone, hdue⟩)
  obtain ⟨answer, rest, rfl, hanswer⟩ := Program.yields_ask_bind_iff.mp hask
  cases answer with
  | error f => exact .failed (hdelivers due) rfl (applyFallback_yields hanswer)
  | ok q =>
    obtain ⟨f, hq, rfl, rfl⟩ | ⟨success, hq, hreport⟩ :=
      Program.yields_ofOutcome_bind_iff.mp hanswer
    · exact .misanswered hstep (.inl hq)
    have hthrough : wentThrough ⟨.scheduleMessage [lead] m.content due, .ok q⟩ = success := by
      simp [wentThrough, hq]
    cases success with
    | true =>
      obtain ⟨rfl, rfl⟩ := Program.yields_done_iff.mp hreport
      exact .delivered (hdelivers due) hthrough rfl
    | false =>
      obtain ⟨f, hreason, rfl, rfl⟩ | ⟨reason, -, hfailed⟩ :=
        Program.yields_ofOutcome_bind_iff.mp hreport
      · exact .misanswered hstep (.inr hreason)
      exact .failed (hdelivers due) hthrough (applyFallback_yields hfailed)

theorem dispatch_yields {m : Outgoing} {o : Outcome Report}
    (h : (dispatch step lead context m).Yields es o) : Dispatch step lead context m.content es o := by
  unfold dispatch at h
  split at h
  · rename_i hstep
    exact sendNow_yields hstep h
  · rename_i hstep
    exact sendLater_yields hstep h

end LeadFlow.Execution
