import LeadFlow.Proofs.Execution.Delivery

set_option autoImplicit false

/-!
# Execution: the account of an email step

What an email step has done is read off its transcript: whether the message was delivered, and what
became of it.  The report and the number of calls of each kind follow from that.

Main statement: `sendEmail_accounts`.  A step that ends with a report has delivered or queued its
message once, if there was one, and has followed up on a failure just as its configuration says.  A
step that ends with a fault has one of four causes, and none of them comes with an alert.
-/

namespace LeadFlow.Execution

open Calendar

variable {step : ActionStep} {lead : Lead} {context : Context} {content : Content} {es : Transcript}

/-! ## The account of a step -/

/-- The account of a step that ended with a report. -/
structure Accounted (step : ActionStep) (lead : Lead) (context : Context) (es : Transcript)
    (r : Report) : Prop where
  /-- without a message nothing is delivered, and there is nothing to follow up on -/
  uncomposed : composed? step lead context es = none →
    (∀ x ∈ es, x.call.isComposing) ∧ r.verdict = .fail
  /-- a message that is not immediate is queued once, and once more for a later attempt -/
  schedules : es.schedules =
    (if (composed? step lead context es).isSome ∧ step.config.timing ≠ .immediate then 1 else 0) +
      if es.undelivered ∧ step.retries then 1 else 0
  /-- every attempt is made with the same content -/
  content : ∃ content, ∀ x ∈ es, ∀ c, x.call.content? = some c → c = content
  /-- there is one alert just if the delivery failed and that is the fallback -/
  alerts : es.alerts = if es.undelivered ∧ step.alerts then 1 else 0
  never_skip : r.verdict ≠ .skip
  /-- a step passes if the message went out, or the fallback makes up for it -/
  passes : r.verdict = .pass ↔
    es.delivered ∨ es.undelivered ∧
      (step.forgives ∨
        (step.alerts ∧ ∃ x ∈ es, x.call.isFallbackAlert ∧ wentThrough x) ∨
          step.retries ∧ ∃ x, es.getLast? = some x ∧ x.call.isSchedule ∧ wentThrough x)

/-- The account of a step that ended with a fault. -/
inductive Raised (step : ActionStep) (lead : Lead) (context : Context) (es : Transcript) (f : Fault) :
    Prop where
  /-- the texts of the template cannot be filled -/
  | unfilled {draft : Content} : draft? step lead context es = some draft →
      filled lead context draft = .error f → (∀ x ∈ es, x.call.isComposing) → Raised step lead context es f
  /-- there is no time to send the message at -/
  | undated : (composed? step lead context es).isSome → step.config.timing ≠ .immediate →
      SendUndated step context f → (∀ x ∈ es, x.call.isComposing) → Raised step lead context es f
  /-- there is no time for the later attempt -/
  | undatedRetry : es.undelivered → step.retries → RetryUndated context f →
      es.sends + es.schedules = 1 → es.alerts = 0 → Raised step lead context es f
  /-- the answer to a queued message makes no sense -/
  | misanswered {content : Content} {due : Moment} {q : Queued} :
      ⟨.scheduleMessage [lead] content due, .ok q⟩ ∈ es → Misanswered q f → es.alerts = 0 →
      Raised step lead context es f

/-- The account of a step. -/
structure Accounts (step : ActionStep) (lead : Lead) (context : Context) (es : Transcript)
    (o : Outcome Report) : Prop where
  /-- a lead without an address is not worth a call -/
  unaddressed : lead.email = "" → es = [] ∧ ∃ r, o = .ok r ∧ r.verdict = .fail
  /-- an immediate message is delivered once, and nothing else is delivered at once -/
  sends : es.sends =
    if (composed? step lead context es).isSome ∧ step.config.timing = .immediate then 1 else 0
  reported : ∀ r, o = .ok r → Accounted step lead context es r
  raised : ∀ f, o = .error f → Raised step lead context es f

/-! ## Counting -/

namespace Transcript

variable {pre : Transcript}

theorem countP_append {p : Call → Bool} (hp : ∀ {c : Call}, c.isComposing → p c = false)
    (hpre : ∀ x ∈ pre, x.call.isComposing) :
    (pre ++ es).countP (fun x => p x.call) = es.countP fun x => p x.call := by
  rw [List.countP_append, List.countP_eq_zero.mpr, Nat.zero_add]
  intro x hx
  simp [hp (hpre x hx)]

theorem sends_append (hpre : ∀ x ∈ pre, x.call.isComposing) : sends (pre ++ es) = es.sends :=
  countP_append Call.isSend_of_isComposing hpre

theorem schedules_append (hpre : ∀ x ∈ pre, x.call.isComposing) :
    schedules (pre ++ es) = es.schedules :=
  countP_append Call.isSchedule_of_isComposing hpre

theorem alerts_append (hpre : ∀ x ∈ pre, x.call.isComposing) : alerts (pre ++ es) = es.alerts :=
  countP_append Call.isFallbackAlert_of_isComposing hpre

theorem delivery?_append (hpre : ∀ x ∈ pre, x.call.isComposing) :
    delivery? (pre ++ es) = es.delivery? := by
  rw [delivery?, List.find?_append, List.find?_eq_none.mpr, Option.none_or]
  · rfl
  · intro x hx
    simp [Call.isSend_of_isComposing (hpre x hx), Call.isSchedule_of_isComposing (hpre x hx)]

end Transcript

namespace FollowUp

variable {r : Report} {o : Outcome Report}

theorem sends (h : FollowUp step lead context content es o) : es.sends = 0 := by
  cases h <;> rfl

theorem isComposing_eq (h : FollowUp step lead context content es o) {x : Exchange calls}
    (hx : x ∈ es) : x.call.isComposing = false := by
  cases h <;> simp_all [Call.isComposing]

theorem content_eq (h : FollowUp step lead context content es o) {x : Exchange calls} (hx : x ∈ es)
    {c : Content} (hc : x.call.content? = some c) : c = content := by
  cases h <;> simp_all [Call.content?]

theorem schedules (h : FollowUp step lead context content es (.ok r)) :
    es.schedules = if step.retries then 1 else 0 := by
  cases h with
  | none hretries _ _ => rw [hretries]; rfl
  | retried hretries _ => rw [hretries]; rfl
  | alerted halerts _ =>
    have hretries : step.retries = false := by
      have hexclusive := step.fallbacks_exclusive
      cases hretries : step.retries <;> simp_all
    rw [hretries]
    rfl

theorem alerts (h : FollowUp step lead context content es (.ok r)) :
    es.alerts = if step.alerts then 1 else 0 := by
  cases h with
  | none _ halerts _ => rw [halerts]; rfl
  | retried hretries _ => rw [(step.fallbacks_exclusive.1 hretries).1]; rfl
  | alerted halerts _ => rw [halerts]; rfl

theorem never_skip (h : FollowUp step lead context content es (.ok r)) : r.verdict ≠ .skip := by
  cases h <;> simp_all <;> split <;> simp

/-- The report makes up for the failure if the step passes over it, or if the alert was written or
the later attempt queued. -/
theorem passes (h : FollowUp step lead context content es (.ok r)) :
    r.verdict = .pass ↔ step.forgives ∨
      (step.alerts ∧ ∃ x ∈ es, x.call.isFallbackAlert ∧ wentThrough x) ∨
        step.retries ∧ ∃ x, es.getLast? = some x ∧ x.call.isSchedule ∧ wentThrough x := by
  cases h with
  | none hretries halerts hverdict => cases hf : step.forgives <;> simp_all
  | retried hretries hverdict =>
    obtain ⟨halerts, hforgives⟩ := step.fallbacks_exclusive.1 hretries
    simp [hverdict, hretries, halerts, hforgives, Call.isSchedule]
  | alerted halerts hverdict =>
    have hforgives := step.fallbacks_exclusive.2 halerts
    simp [hverdict, halerts, hforgives, Call.isFallbackAlert]

end FollowUp

namespace Delivers

variable {c : Call}

theorem isSend (h : Delivers step lead content c) :
    c.isSend = decide (step.config.timing = .immediate) := by
  unfold Delivers at h
  split at h
  · rename_i htiming
    simp [h, htiming, Call.isSend]
  · rename_i htiming
    obtain ⟨due, rfl⟩ := h
    simp [htiming, Call.isSend]

theorem isSchedule (h : Delivers step lead content c) :
    c.isSchedule = decide (step.config.timing ≠ .immediate) := by
  unfold Delivers at h
  split at h
  · rename_i htiming
    simp [h, htiming, Call.isSchedule]
  · rename_i htiming
    obtain ⟨due, rfl⟩ := h
    simp [htiming, Call.isSchedule]

theorem isFallbackAlert (h : Delivers step lead content c) : c.isFallbackAlert = false := by
  unfold Delivers at h
  split at h
  · rw [h]
    rfl
  · obtain ⟨due, rfl⟩ := h
    rfl

theorem isComposing_eq (h : Delivers step lead content c) : c.isComposing = false := by
  unfold Delivers at h
  split at h
  · rw [h]
    rfl
  · obtain ⟨due, rfl⟩ := h
    rfl

theorem content?_eq (h : Delivers step lead content c) : c.content? = some content := by
  unfold Delivers at h
  split at h
  · rw [h]
    rfl
  · obtain ⟨due, rfl⟩ := h
    rfl

variable {pre : Transcript} {x : Exchange calls}

/-- The delivery of a message is the first call behind those that composed it. -/
theorem delivery?_eq (h : Delivers step lead content x.call) (hpre : ∀ x ∈ pre, x.call.isComposing) :
    Transcript.delivery? (pre ++ x :: es) = some x := by
  rw [Transcript.delivery?_append hpre, Transcript.delivery?, List.find?_cons_of_pos]
  by_cases htiming : step.config.timing = .immediate <;> simp [h.isSend, h.isSchedule, htiming]

theorem sends_eq (h : Delivers step lead content x.call) (hpre : ∀ x ∈ pre, x.call.isComposing) :
    Transcript.sends (pre ++ x :: es) =
      (if step.config.timing = .immediate then 1 else 0) + es.sends := by
  rw [Transcript.sends_append hpre, Transcript.sends, List.countP_cons, h.isSend, Nat.add_comm]
  simp [Transcript.sends]

theorem schedules_eq (h : Delivers step lead content x.call)
    (hpre : ∀ x ∈ pre, x.call.isComposing) :
    Transcript.schedules (pre ++ x :: es) =
      (if step.config.timing ≠ .immediate then 1 else 0) + es.schedules := by
  rw [Transcript.schedules_append hpre, Transcript.schedules, List.countP_cons, h.isSchedule,
    Nat.add_comm]
  simp [Transcript.schedules]

theorem alerts_eq (h : Delivers step lead content x.call) (hpre : ∀ x ∈ pre, x.call.isComposing) :
    Transcript.alerts (pre ++ x :: es) = es.alerts := by
  rw [Transcript.alerts_append hpre, Transcript.alerts, List.countP_cons, h.isFallbackAlert]
  simp [Transcript.alerts]

theorem content_eq (h : Delivers step lead content x.call) (hpre : ∀ x ∈ pre, x.call.isComposing)
    (hes : ∀ y ∈ es, ∀ c, y.call.content? = some c → c = content) :
    ∀ y ∈ pre ++ x :: es, ∀ c, y.call.content? = some c → c = content := by
  intro y hy c hc
  rw [List.mem_append, List.mem_cons] at hy
  obtain hy | rfl | hy := hy
  · simp [Call.content?_of_isComposing (hpre y hy)] at hc
  · rw [h.content?_eq] at hc
    exact (Option.some.inj hc).symm
  · exact hes y hy c hc

/-- Alerts are found behind the delivery. -/
theorem exists_alert_iff (h : Delivers step lead content x.call)
    (hpre : ∀ x ∈ pre, x.call.isComposing) :
    (∃ y ∈ pre ++ x :: es, y.call.isFallbackAlert ∧ wentThrough y) ↔
      ∃ y ∈ es, y.call.isFallbackAlert ∧ wentThrough y := by
  constructor
  · rintro ⟨y, hy, halert, hthrough⟩
    rw [List.mem_append, List.mem_cons] at hy
    obtain hy | rfl | hy := hy
    · simp [Call.isFallbackAlert_of_isComposing (hpre y hy)] at halert
    · simp [h.isFallbackAlert] at halert
    · exact ⟨y, hy, halert, hthrough⟩
  · rintro ⟨y, hy, h⟩
    exact ⟨y, by simp [hy], h⟩

/-- Where the delivery failed, a last call that went through stands behind it. -/
theorem getLast?_wentThrough_iff (hfailed : wentThrough x = false) :
    (∃ y, (pre ++ x :: es).getLast? = some y ∧ y.call.isSchedule ∧ wentThrough y) ↔
      ∃ y, es.getLast? = some y ∧ y.call.isSchedule ∧ wentThrough y := by
  rw [List.getLast?_append, List.getLast?_cons]
  cases es.getLast? <;> simp [hfailed]

end Delivers

theorem Dispatch.found?_eq_none {o : Outcome Report} (h : Dispatch step lead context content es o)
    {x : Exchange calls} (hx : x ∈ es) : found? x = none := by
  cases h with
  | delivered hdelivers _ _ =>
    obtain rfl := List.mem_singleton.mp hx
    exact Execution.found?_eq_none hdelivers.isComposing_eq
  | failed hdelivers _ hfollow =>
    obtain rfl | hx := List.mem_cons.mp hx
    · exact Execution.found?_eq_none hdelivers.isComposing_eq
    · exact Execution.found?_eq_none (hfollow.isComposing_eq hx)
  | undated => simp at hx
  | misanswered =>
    obtain rfl := List.mem_singleton.mp hx
    rfl

/-- Composing calls deliver nothing. -/
theorem Transcript.eq_zero_of_composing (hes : ∀ x ∈ es, x.call.isComposing) :
    es.sends = 0 ∧ es.schedules = 0 ∧ es.alerts = 0 ∧ es.delivery? = none := by
  have hsends : sends (es ++ []) = 0 := sends_append hes
  have hschedules : schedules (es ++ []) = 0 := schedules_append hes
  have halerts : alerts (es ++ []) = 0 := alerts_append hes
  have hdelivery : delivery? (es ++ []) = none := delivery?_append hes
  rw [List.append_nil] at hsends hschedules halerts hdelivery
  exact ⟨hsends, hschedules, halerts, hdelivery⟩

/-- The account of a step that had no message to send. -/
theorem Accounted.of_uncomposed {r : Report} (hes : ∀ x ∈ es, x.call.isComposing)
    (hcomposed : composed? step lead context es = none) (hfail : r.verdict = .fail) :
    Accounted step lead context es r := by
  obtain ⟨-, hschedules, halerts, hdelivery⟩ := Transcript.eq_zero_of_composing hes
  refine ⟨fun _ => ⟨hes, hfail⟩, ?_, ⟨⟨.null, .null⟩, ?_⟩, ?_, ?_, ?_⟩
  · simp [hschedules, hcomposed, Transcript.undelivered, hdelivery]
  · intro x hx c hc
    simp [Call.content?_of_isComposing (hes x hx)] at hc
  · simp [halerts, Transcript.undelivered, hdelivery]
  · simp [hfail]
  · simp [hfail, Transcript.delivered, Transcript.undelivered, hdelivery]

/-- The account of a message that was dispatched once it had been composed. -/
theorem Accounted.of_dispatch {pre : Transcript} {r : Report} (hpre : ∀ x ∈ pre, x.call.isComposing)
    (hcomposed : (composed? step lead context (pre ++ es)).isSome)
    (h : Dispatch step lead context content es (.ok r)) :
    Accounted step lead context (pre ++ es) r := by
  have huncomposed : composed? step lead context (pre ++ es) ≠ none := by
    rw [← Option.isSome_iff_ne_none]
    exact hcomposed
  cases h with
  | delivered hdelivers hthrough hpass =>
    rename_i x
    have hdelivery : Transcript.delivery? (pre ++ [x]) = some x := hdelivers.delivery?_eq hpre
    have hout : Transcript.undelivered (pre ++ [x]) = false := by
      simp [Transcript.undelivered, hdelivery, hthrough]
    refine ⟨fun h => absurd h huncomposed, ?_, ?_, ?_, ?_, ?_⟩
    · rw [hdelivers.schedules_eq hpre, hout]
      simp [hcomposed, Transcript.schedules]
    · exact ⟨content, hdelivers.content_eq hpre (by simp)⟩
    · rw [hdelivers.alerts_eq hpre, hout]
      simp [Transcript.alerts]
    · simp [hpass]
    · simp [hpass, Transcript.delivered, hdelivery, hthrough]
  | failed hdelivers hfailed hfollow =>
    rename_i x es
    have hdelivery : Transcript.delivery? (pre ++ x :: es) = some x := hdelivers.delivery?_eq hpre
    have hout : Transcript.undelivered (pre ++ x :: es) = true := by
      simp [Transcript.undelivered, hdelivery, hfailed]
    refine ⟨fun h => absurd h huncomposed, ?_, ?_, ?_, ?_, ?_⟩
    · rw [hdelivers.schedules_eq hpre, hout, hfollow.schedules]
      simp [hcomposed]
    · exact ⟨content, hdelivers.content_eq hpre fun y hy c hc => hfollow.content_eq hy hc⟩
    · rw [hdelivers.alerts_eq hpre, hout, hfollow.alerts]
      simp
    · exact hfollow.never_skip
    · have hnot : Transcript.delivered (pre ++ x :: es) = false := by
        simp [Transcript.delivered, hdelivery, hfailed]
      rw [hfollow.passes, hout, hnot, hdelivers.exists_alert_iff hpre,
        Delivers.getLast?_wentThrough_iff hfailed]
      simp

/-- What ended a step with a fault once its message had been composed. -/
theorem Raised.of_dispatch {pre : Transcript} {f : Fault} (hpre : ∀ x ∈ pre, x.call.isComposing)
    (hcomposed : (composed? step lead context (pre ++ es)).isSome)
    (h : Dispatch step lead context content es (.error f)) :
    Raised step lead context (pre ++ es) f := by
  cases h with
  | undated htiming hundated =>
    rw [List.append_nil] at hcomposed ⊢
    exact .undated hcomposed htiming hundated hpre
  | misanswered htiming hanswer =>
    refine .misanswered (List.mem_append_right _ (List.mem_singleton_self _)) hanswer ?_
    rw [Transcript.alerts_append hpre]
    rfl
  | failed hdelivers hfailed hfollow =>
    rename_i x es
    have hout : Transcript.undelivered (pre ++ x :: es) = true := by
      simp [Transcript.undelivered, hdelivers.delivery?_eq hpre, hfailed]
    cases hfollow with
    | undated hretries hundated =>
      refine .undatedRetry hout hretries hundated ?_ ?_
      · rw [hdelivers.sends_eq hpre, hdelivers.schedules_eq hpre]
        by_cases htiming : step.config.timing = .immediate <;>
          simp [htiming, Transcript.sends, Transcript.schedules]
      · rw [hdelivers.alerts_eq hpre]
        rfl
    | misanswered hretries hanswer =>
      refine .misanswered (by simp; exact .inr (.inr rfl)) hanswer ?_
      rw [hdelivers.alerts_eq hpre]
      rfl

/-- An immediate message is delivered once, whatever happens then. -/
theorem Dispatch.sends_eq {pre : Transcript} {o : Outcome Report}
    (hpre : ∀ x ∈ pre, x.call.isComposing) (h : Dispatch step lead context content es o) :
    Transcript.sends (pre ++ es) = if step.config.timing = .immediate then 1 else 0 := by
  cases h with
  | delivered hdelivers _ _ => rw [hdelivers.sends_eq hpre]; rfl
  | failed hdelivers _ hfollow => rw [hdelivers.sends_eq hpre, hfollow.sends, Nat.add_zero]
  | undated htiming _ => rw [Transcript.sends_append hpre, if_neg htiming]; rfl
  | misanswered htiming _ => rw [Transcript.sends_append hpre, if_neg htiming]; rfl

/-- The account of a step once its message has been composed. -/
theorem Accounts.of_dispatch {pre : Transcript} {o : Outcome Report} (haddress : lead.email ≠ "")
    (hpre : ∀ x ∈ pre, x.call.isComposing)
    (hcomposed : (composed? step lead context (pre ++ es)).isSome)
    (h : Dispatch step lead context content es o) : Accounts step lead context (pre ++ es) o := by
  refine ⟨fun h => absurd h haddress, ?_, ?_, ?_⟩
  · rw [h.sends_eq hpre]
    simp [hcomposed]
  · rintro r rfl
    exact .of_dispatch hpre hcomposed h
  · rintro f rfl
    exact .of_dispatch hpre hcomposed h

/-- The account of an email step, for every way in which its calls may be answered. -/
theorem sendEmail_accounts {o : Outcome Report} (h : (sendEmail step lead context).Yields es o) :
    Accounts step lead context es o := by
  unfold sendEmail at h
  split at h
  · rename_i haddress
    obtain ⟨rfl, rfl⟩ := Program.yields_done_iff.mp h
    have hcomposed : composed? step lead context [] = none := by simp [composed?, draft?, haddress]
    refine ⟨fun _ => ⟨rfl, _, rfl, rfl⟩, by simp [hcomposed, Transcript.sends], ?_, by simp⟩
    rintro r hr
    cases hr
    exact .of_uncomposed (by simp) hcomposed rfl
  rename_i haddress
  obtain ⟨es₁, es₂, result, rfl, hcompose, hnext⟩ | ⟨f, hcompose, rfl⟩ := Program.yields_bind_iff.mp h
  · obtain ⟨hpre, hcomposition⟩ := compose_yields haddress hcompose
    cases hcomposition with
    | missing hdraft hfail =>
      obtain ⟨rfl, rfl⟩ := Program.yields_done_iff.mp hnext
      rw [List.append_nil]
      have hcomposed : composed? step lead context es₁ = none := by simp [composed?, hdraft]
      refine ⟨fun h => absurd h haddress, ?_, ?_, by simp⟩
      · simp [hcomposed, (Transcript.eq_zero_of_composing hpre).1]
      · rintro r hr
        cases hr
        exact .of_uncomposed hpre hcomposed hfail
    | composed hdraft hfilled =>
      obtain ⟨es₃, es₄, m, rfl, hfinal, hdispatch⟩ | ⟨f, hfinal, -⟩ := Program.yields_bind_iff.mp hnext
      · obtain ⟨hrewording, -⟩ := finalContent_yields hfinal
        have hsent := dispatch_yields hdispatch
        have hcomposed : (composed? step lead context ((es₁ ++ es₃) ++ es₄)).isSome := by
          rw [composed?_append fun x hx => hsent.found?_eq_none hx,
            composed?_append fun x hx => (hrewording x hx).2]
          simp [composed?, hdraft, hfilled, Except.toOption]
        rw [← List.append_assoc]
        refine .of_dispatch haddress ?_ hcomposed hsent
        intro x hx
        obtain hx | hx := List.mem_append.mp hx
        · exact hpre x hx
        · exact (hrewording x hx).1
      · obtain ⟨-, m, hok⟩ := finalContent_yields hfinal
        cases hok
  · obtain ⟨hpre, hcomposition⟩ := compose_yields haddress hcompose
    cases hcomposition with
    | unfilled hdraft hfilled =>
      have hcomposed : composed? step lead context es = none := by
        simp [composed?, hdraft, hfilled, Except.toOption]
      refine ⟨fun h => absurd h haddress, ?_, by simp, ?_⟩
      · simp [hcomposed, (Transcript.eq_zero_of_composing hpre).1]
      · rintro f' hf
        cases hf
        exact .unfilled hdraft hfilled hpre

/-! ## Two emails -/

/-- An email with a text of its own; if it fails, it is tried once more. -/
def introEmail (timing : Timing) : ActionStep where
  id := "m1"
  title := "Send intro email"
  config :=
    { actionType := "send_email", template := some customTemplate, customSubject := some "Hi"
      customBody := some "Hello {{first_name}}", aiPersonalization := false, timing
      fallbackEnabled := true, fallbackAction := .retry, newStatus := none, tag := none
      assignee := none, extras := [] }

/-- A lead with an address. -/
def jane : Lead :=
  { (Inhabited.default : Lead) with id := "lead-1", name := "Jane Doe", email := "jane@globex.com" }

/-- A context without a writer. -/
def plainContext (settings : Settings) : Context := ⟨"user-1", settings, .blank, false⟩

theorem exists_of_isSome_toOption {α : Type} {x : Outcome α} (h : x.toOption.isSome = true) :
    ∃ a, x = .ok a := by
  cases x with
  | ok a => exact ⟨a, rfl⟩
  | error f => cases h

/-- The text of the email can be filled, whatever the settings are. -/
theorem exists_filled_introEmail (settings : Settings) :
    ∃ content, filled jane (plainContext settings) (.ofTexts "Hi" "Hello {{first_name}}") =
      .ok content := by
  have hdefault : (filled jane (plainContext .default)
      (.ofTexts "Hi" "Hello {{first_name}}")).toOption.isSome = true := by decide +kernel
  exact exists_of_isSome_toOption hdefault

theorem compose_introEmail {settings : Settings} {timing : Timing} {content : Content}
    (h : filled jane (plainContext settings) (.ofTexts "Hi" "Hello {{first_name}}") = .ok content) :
    (compose (introEmail timing) jane (plainContext settings)).Yields [] (.ok (.ok content)) := by
  have hcompose : compose (introEmail timing) jane (plainContext settings) =
      (Program.ofOutcome (filled jane (plainContext settings)
        (.ofTexts "Hi" "Hello {{first_name}}"))).bind fun content => .done (.ok content) := rfl
  rw [hcompose, h]
  exact .done _

/-- From here on, the email goes its way with its content. -/
theorem sendEmail_introEmail {settings : Settings} {timing : Timing} {content : Content}
    (h : filled jane (plainContext settings) (.ofTexts "Hi" "Hello {{first_name}}") = .ok content)
    {es : Transcript} {o : Outcome Report}
    (hdispatch : (dispatch (introEmail timing) jane (plainContext settings)
      ⟨content, customTemplate, ""⟩).Yields es o) :
    (sendEmail (introEmail timing) jane (plainContext settings)).Yields es o := by
  have haddress : jane.email ≠ "" := by decide
  unfold sendEmail
  rw [if_neg haddress]
  refine Program.yields_bind_iff.mpr (.inl ⟨[], es, _, rfl, compose_introEmail h, ?_⟩)
  exact hdispatch

/-- Settings under which a later attempt is made at once. -/
def promptSettings : Settings := { Settings.default with fallbackRetryDelay := 0 }

/-- There is a time for the later attempt. -/
theorem exists_due_promptSettings : ∃ wait due,
    (RetryStrategy.forFallback promptSettings).waitFor 1 = .ok wait ∧ laterBy ⟨0, none, false⟩ wait = .ok due := by
  have hnow : (((RetryStrategy.forFallback promptSettings).waitFor 1).bind
      (laterBy ⟨0, none, false⟩)).toOption.isSome = true := by decide +kernel
  obtain ⟨due, hdue⟩ := exists_of_isSome_toOption hnow
  cases hwait : (RetryStrategy.forFallback promptSettings).waitFor 1 with
  | error f =>
    rw [hwait] at hdue
    cases hdue
  | ok wait =>
    rw [hwait] at hdue
    exact ⟨wait, due, rfl, hdue⟩

/-- An email that cannot be delivered is queued with the same content, and the step passes. -/
theorem sendEmail_accounts_retried : ∃ (es : Transcript) (r : Report),
    (sendEmail (introEmail .immediate) jane (plainContext promptSettings)).Yields es (.ok r) ∧
      Accounts (introEmail .immediate) jane (plainContext promptSettings) es (.ok r) ∧
      es.sends = 1 ∧ es.schedules = 1 ∧ r.verdict = .pass := by
  obtain ⟨content, hfilled⟩ := exists_filled_introEmail promptSettings
  obtain ⟨wait, due, hwait, hdue⟩ := exists_due_promptSettings
  have h : (sendEmail (introEmail .immediate) jane (plainContext promptSettings)).Yields
      [⟨.sendMessage jane.email content ⟨true, true⟩ jane.id, .ok ⟨false, .null, .str "SMTP 550"⟩⟩,
        ⟨.scheduleMessage [jane] content due, .ok ⟨.int 1, .list []⟩⟩]
      (.ok (.passed s!"Email failed (SMTP 550) - retry scheduled for {due.iso}")) := by
    refine sendEmail_introEmail hfilled (.call ?_)
    refine Program.yields_ofOutcome_bind_iff.mpr (.inr ⟨wait, hwait, .now ⟨0, none, false⟩ ?_⟩)
    refine Program.yields_ofOutcome_bind_iff.mpr (.inr ⟨due, hdue, .call ?_⟩)
    exact .done _
  exact ⟨_, _, h, sendEmail_accounts h, rfl, rfl, rfl⟩

/-- Settings that name a zone nobody knows. -/
def marsSettings : Settings := { Settings.default with schedulingZone := "Mars/Olympus" }

/-- A message that is composed is not always queued: where the zone is unknown, no time can be found
for it, and the step ends before anything is asked to queue it. -/
theorem unknown_zone_unqueued :
    (∃ f : Fault, (sendEmail (introEmail .morning) jane (plainContext marsSettings)).Yields []
        (.error f)) ∧
      (composed? (introEmail .morning) jane (plainContext marsSettings) []).isSome ∧
      (introEmail .morning).config.timing ≠ .immediate ∧ Transcript.schedules [] = 0 := by
  obtain ⟨content, hfilled⟩ := exists_filled_introEmail marsSettings
  have hunknown : (Message.zoneNamed marsSettings.schedulingZone).toOption.isNone = true := by
    decide +kernel
  cases hzone : Message.zoneNamed marsSettings.schedulingZone with
  | ok zone =>
    rw [hzone] at hunknown
    cases hunknown
  | error f =>
    refine ⟨⟨f, sendEmail_introEmail hfilled ?_⟩, ?_, by decide, rfl⟩
    · exact Program.yields_ofOutcome_bind_iff.mpr (.inl ⟨f, hzone, rfl, rfl⟩)
    · have hdraft : draft? (introEmail .morning) jane (plainContext marsSettings) [] =
          some (.ofTexts "Hi" "Hello {{first_name}}") := rfl
      rw [composed?, hdraft, Option.bind_some, hfilled]
      rfl

end LeadFlow.Execution
