import LeadFlow.Execution.Rehearsal
import LeadFlow.Proofs.Execution.DeliveryAccount
import LeadFlow.Proofs.Execution.Handlers
import LeadFlow.Proofs.Program.Alike
import LeadFlow.Proofs.Program.Steady

set_option autoImplicit false

/-!
# Execution: reworded messages

A step may have its message reworded before it is delivered.  When nobody can do that, or nothing
comes of it, the step goes as one that never asked for it (`sendEmail_unworded`).  Otherwise the new
words take the place of the old ones part by part, and it is this message that is delivered, queued,
and queued again after a failure (`sendEmail_yields`).  Main statement: both, `sendEmail_reworded`.
-/

namespace LeadFlow.Execution

/-- The step, with other words asked for or not. -/
def ActionStep.rewording (step : ActionStep) (wanted : Bool) : ActionStep :=
  { step with config := { step.config with aiPersonalization := wanted } }

/-- The message after a writer was asked: each part that came back with a text in it replaces the one
there was. -/
def reworded (draft : Content) : Outcome Content → Content
  | .error _ => draft
  | .ok new =>
    ⟨if new.subject.isTruthy then new.subject else draft.subject,
      if new.body.isTruthy then new.body else draft.body⟩

/-- Nothing came of asking a writer: it failed, or both parts came back empty. -/
def isWordless : Outcome Content → Bool
  | .error _ => true
  | .ok new => !new.subject.isTruthy && !new.body.isTruthy

/-- Whatever is asked of the outside apart from other words is answered by a view of it.  A writer
that is ready leaves the view alone, answers at once, and has no words. -/
structure PassedOver {τ σ : Type} [Timeline τ] (outside : Outside calls τ σ) (view : σ → σ)
    (ready : σ → Prop) : Prop where
  others : Program.GoesBy (I := calls) outside view (fun _ => True) fun c => Call.isRewording c = false
  keeps : ∀ now c world, Call.isRewording c = false → ready world → ready (outside now c world).world
  unnoticed : ∀ now lead brief world, ready world →
    view (outside now (.generate lead brief) world).world = view world
  prompt : ∀ now lead brief world, ready world →
    Timeline.le (outside now (.generate lead brief) world).delay Timeline.zero = true
  wordless : ∀ now lead brief world, ready world →
    isWordless (outside now (.generate lead brief) world).outcome = true

variable {step : ActionStep} {lead : Lead} {context : Context}

/-! ## The message that goes out -/

/-- The message that goes out after a writer was asked. -/
def outgoing (step : ActionStep) (context : Context) (draft : Content) (answer : Outcome Content) : Outgoing :=
  ⟨reworded draft answer, templateOf step context, if isWordless answer then "" else " (AI-enhanced)"⟩

theorem reworded_of_isWordless {answer : Outcome Content} (h : isWordless answer = true) (draft : Content) :
    reworded draft answer = draft := by
  cases answer with
  | error f => rfl
  | ok new =>
    simp only [isWordless, Bool.and_eq_true, Bool.not_eq_true'] at h
    simp only [reworded, h.1, h.2, Bool.false_eq_true, if_false]

/-- What a writer returns makes no difference just if it is empty in both parts. -/
theorem reworded?_eq (draft new : Content) :
    reworded? draft new = if isWordless (.ok new) then none else some (reworded draft (.ok new)) := by
  unfold reworded? isWordless reworded
  split <;> rfl

/-- Where no other words are asked for, or nobody has any, the draft goes out. -/
theorem finalContent_of_noWriter (h : context.hasWriter = false) (draft : Content) :
    finalContent step lead context draft = .done ⟨draft, templateOf step context, ""⟩ := by
  unfold finalContent personalize
  rw [h]
  cases step.config.aiPersonalization <;> rfl

/-- A writer is asked once, and its answer decides on what goes out. -/
theorem finalContent_rewording (h : context.hasWriter = true) (draft : Content) :
    finalContent (step.rewording true) lead context draft =
      .call (I := calls) (.generate lead ⟨step.title, draft, context.sender⟩) fun answer =>
        .done (outgoing step context draft answer) := by
  unfold finalContent personalize
  rw [h]
  change Program.call _ _ = _
  congr 1
  funext answer
  change Outcome Content at answer
  cases answer with
  | error f => rfl
  | ok new =>
    change (Program.done (reworded? draft new)).bind _ = _
    rw [reworded?_eq, outgoing]
    cases hempty : isWordless (.ok new) with
    | true => rw [reworded_of_isWordless hempty]; rfl
    | false => rfl

/-- Rewording and dispatching a draft: the writer is asked, and what it answers is dispatched. -/
theorem dispatch_rewording (h : context.hasWriter = true) (draft : Content) :
    (finalContent (step.rewording true) lead context draft).bind (dispatch step lead context) =
      .call (I := calls) (.generate lead ⟨step.title, draft, context.sender⟩) fun answer =>
        dispatch step lead context (outgoing step context draft answer) := by
  rw [finalContent_rewording h]
  rfl

/-- An email step with its parts: the message is composed, reworded and dispatched. -/
theorem sendEmail_eq (haddress : lead.email ≠ "") (wanted : Bool) :
    sendEmail (step.rewording wanted) lead context =
      (compose step lead context).bind fun composed =>
        match composed with
        | .error report => .done report
        | .ok draft => (finalContent (step.rewording wanted) lead context draft).bind (dispatch step lead context) := by
  unfold sendEmail
  rw [if_neg haddress]
  rfl

/-! ## A writer without words -/

theorem outgoing_of_isWordless {answer : Outcome Content} (h : isWordless answer = true) (draft : Content) :
    outgoing step context draft answer = ⟨draft, templateOf step context, ""⟩ := by
  rw [outgoing, reworded_of_isWordless h, if_pos h]

section PassedOver

variable {τ σ : Type} [Timeline τ] {outside : Outside calls τ σ} {view : σ → σ} {ready : σ → Prop}
  {c : Course calls τ σ}

/-- Asking a writer that has no words, and then doing the work, is doing the work to all but the
writer. -/
theorem PassedOver.run_alike {α : Type} (h : PassedOver outside view ready) (hready : ready c.world)
    (stop : Option τ) (lead : Lead) (brief : Brief) {next : Outcome Content → Work α} {p : Work α}
    (hnext : ∀ answer, isWordless answer = true → next answer = p)
    (hp : p.Asks fun call => Call.isRewording call = false) :
    ((Program.call (I := calls) (.generate lead brief) next).run outside stop c).1 = (p.run outside stop c).1 ∧
      ((Program.call (I := calls) (.generate lead brief) next).run outside stop c).2.Alike view
        (fun call => !Call.isRewording call) (p.run outside stop c).2 := by
  simp only [Program.run]
  rw [Program.after_of_le_zero (h.prompt c.now lead brief c.world hready)]
  dsimp only
  rw [hnext _ (h.wordless c.now lead brief c.world hready)]
  exact Program.run_alike h.others stop hp
    (((Course.Alike.refl c).noting_hidden rfl (h.unnoticed c.now lead brief c.world hready)).at_time c.time)

/-- The step ends in the same way whether it asks for other words or not when nobody has any, and by
the view of the others nobody can tell. -/
theorem sendEmail_unworded (stop : Option τ)
    (hwriter : context.hasWriter = true → PassedOver outside view ready ∧ ready c.world) :
    ((sendEmail (step.rewording true) lead context).run outside stop c).1 =
        ((sendEmail (step.rewording false) lead context).run outside stop c).1 ∧
      ((sendEmail (step.rewording true) lead context).run outside stop c).2.Alike view
        (fun call => !Call.isRewording call)
        ((sendEmail (step.rewording false) lead context).run outside stop c).2 := by
  by_cases haddress : lead.email = ""
  · unfold sendEmail
    rw [if_pos haddress, if_pos haddress]
    exact ⟨rfl, .refl c⟩
  rw [sendEmail_eq haddress, sendEmail_eq haddress]
  cases hhas : context.hasWriter with
  | false =>
    simp only [finalContent_of_noWriter hhas]
    exact ⟨rfl, .refl _⟩
  | true =>
    obtain ⟨hpassed, hready⟩ := hwriter hhas
    have hcomposing : (compose step lead context).Asks fun call => Call.isRewording call = false :=
      compose_keepsTo.asks fun _ hcall => hcall.2
    have hready' := Program.run_keeps hpassed.keeps stop hcomposing c hready
    rw [Program.run_bind, Program.run_bind]
    obtain ⟨⟨ending, c₁⟩, hrun⟩ : ∃ x, (compose step lead context).run outside stop c = x := ⟨_, rfl⟩
    rw [hrun] at hready' ⊢
    match ending with
    | .cut | .finished (.error e) | .finished (.ok (.error report)) => exact ⟨rfl, .refl c₁⟩
    | .finished (.ok (.ok draft)) =>
      simp only [Ending.resume]
      rw [dispatch_rewording hhas]
      exact hpassed.run_alike hready' stop lead _ (fun answer hanswer => by rw [outgoing_of_isWordless hanswer]; rfl)
        ((dispatch_keepsTo _).asks fun _ hcall => hcall.2)

end PassedOver

/-! ## A writer with words -/

/-- Every message of a dispatch has the one content. -/
theorem Dispatch.content_eq {content : Content} {es : Transcript} {o : Outcome Report}
    (h : Dispatch step lead context content es o) {x : Exchange calls} (hx : x ∈ es) {c : Content}
    (hc : x.call.content? = some c) : c = content := by
  cases h with
  | delivered hdelivers _ _ =>
    obtain rfl := List.mem_singleton.mp hx
    rw [hdelivers.content?_eq] at hc
    exact (Option.some.inj hc).symm
  | failed hdelivers _ hfollow =>
    obtain rfl | hx := List.mem_cons.mp hx
    · rw [hdelivers.content?_eq] at hc
      exact (Option.some.inj hc).symm
    · exact hfollow.content_eq hx hc
  | undated => simp at hx
  | misanswered =>
    obtain rfl := List.mem_singleton.mp hx
    exact (Option.some.inj hc).symm

/-- A step whose message could be composed asks the writer once, and dispatches the message with the
words that came back. -/
theorem sendEmail_yields (hwriter : context.hasWriter = true) {es : Transcript} {o : Outcome Report}
    {draft : Content} (h : (sendEmail (step.rewording true) lead context).Yields es o)
    (hdraft : composed? step lead context es = some draft) :
    ∃ before answer after,
      es = before ++ ⟨.generate lead ⟨step.title, draft, context.sender⟩, answer⟩ :: after ∧
      (∀ x ∈ before ++ after, Call.isRewording x.call = false) ∧
      Dispatch step lead context (reworded draft answer) after o ∧
      ∀ x ∈ after, ∀ content, x.call.content? = some content → content = reworded draft answer := by
  have haddress : lead.email ≠ "" := by
    rintro hempty
    simp [composed?, draft?, hempty] at hdraft
  rw [sendEmail_eq haddress] at h
  obtain ⟨before, es₂, composed, rfl, hcompose, h⟩ | ⟨e, hcompose, rfl⟩ := Program.yields_bind_iff.mp h
  · obtain ⟨-, hcomposition⟩ := compose_yields haddress hcompose
    cases hcomposition with
    | missing hmissing _ =>
      obtain ⟨rfl, rfl⟩ := Program.yields_done_iff.mp h
      simp [composed?, hmissing] at hdraft
    | @composed unfilled draft' hfound hfilled =>
      dsimp only at h
      rw [dispatch_rewording hwriter] at h
      obtain ⟨answer, after, rfl, hafter⟩ := Program.yields_call_iff.mp h
      have hdispatch := dispatch_yields hafter
      have hrest : ∀ x ∈ (⟨.generate lead ⟨step.title, draft', context.sender⟩, answer⟩ : Exchange calls) :: after,
          found? x = none :=
        List.forall_mem_cons.mpr ⟨rfl, fun x hx => hdispatch.found?_eq_none hx⟩
      rw [composed?_append hrest, composed?, hfound, Option.bind_some, hfilled] at hdraft
      obtain rfl : draft' = draft := Option.some.inj hdraft
      refine ⟨before, answer, after, rfl, fun x hx => ?_, hdispatch, fun x hx content => hdispatch.content_eq hx⟩
      obtain hx | hx := List.mem_append.mp hx
      · exact (hcompose.asks (compose_keepsTo.asks fun _ hcall => hcall.2)) x hx
      · exact (hafter.asks ((dispatch_keepsTo _).asks fun _ hcall => hcall.2)) x hx
  · obtain ⟨-, hcomposition⟩ := compose_yields haddress hcompose
    cases hcomposition with
    | unfilled hfound hfilled => simp [composed?, hfound, hfilled, Except.toOption] at hdraft

/-- A step that asks for other words goes as one that does not when nobody has any, whatever the
outside does otherwise.  When its message could be composed and there is a writer, the words that came
back are in every message that it delivers or queues. -/
theorem sendEmail_reworded {τ σ : Type} [Timeline τ] (step : ActionStep) (lead : Lead) (context : Context)
    (outside : Outside calls τ σ) (stop : Option τ) (view : σ → σ) (ready : σ → Prop) (c : Course calls τ σ) :
    ((context.hasWriter = true → PassedOver outside view ready ∧ ready c.world) →
      ((sendEmail (step.rewording true) lead context).run outside stop c).1 =
          ((sendEmail (step.rewording false) lead context).run outside stop c).1 ∧
        ((sendEmail (step.rewording true) lead context).run outside stop c).2.Alike view
          (fun call => !Call.isRewording call)
          ((sendEmail (step.rewording false) lead context).run outside stop c).2) ∧
    ∀ (es : Transcript) (o : Outcome Report) (draft : Content), context.hasWriter = true →
      (sendEmail (step.rewording true) lead context).Yields es o → composed? step lead context es = some draft →
      ∃ before answer after,
        es = before ++ ⟨.generate lead ⟨step.title, draft, context.sender⟩, answer⟩ :: after ∧
        (∀ x ∈ before ++ after, Call.isRewording x.call = false) ∧
        Dispatch step lead context (reworded draft answer) after o ∧
        ∀ x ∈ after, ∀ content, x.call.content? = some content → content = reworded draft answer :=
  ⟨sendEmail_unworded stop, fun _ _ _ hwriter h hdraft => sendEmail_yields hwriter h hdraft⟩

/-! ## An intro email with a writer -/

/-- A rehearsal without what a writer would answer. -/
def Rehearsal.unworded (r : Rehearsal) : Rehearsal := { r with wordings := [] }

/-- In a rehearsal nobody but the writer looks at the words prepared for it. -/
theorem Rehearsal.goesBy_unworded {τ : Type} [Timeline τ] :
    Program.GoesBy (I := calls) (Rehearsal.outside (τ := τ)) unworded (fun _ => True)
      fun c => Call.isRewording c = false where
  answer now c r hc _ := by
    cases c with
    | generate => cases hc
    | updateStats id runs hours =>
      simp only [Rehearsal.outside, Rehearsal.answer, Rehearsal.folded, unworded]
      split <;> rfl
    | _ => rfl
  keeps _ _ _ _ _ := trivial

/-- Settings and sender of an intro email, with a writer at hand. -/
def writerContext : Context := { plainContext promptSettings with hasWriter := true }

/-- The writer fails and the provider turns the message down. -/
def unluckyRehearsal : Rehearsal where
  updates := []
  deliveries := [⟨0, some (.ok ⟨false, .null, .str "SMTP 550"⟩)⟩]
  queues := []
  lookups := []
  wordings := [⟨0, some (.error (.of .runtime "model overloaded"))⟩]
  audits := []
  saves := []
  folds := []
  templates := []
  stats := .zero

theorem passedOver_unlucky : PassedOver (τ := Float) Rehearsal.outside Rehearsal.unworded
    (fun r => r.wordings = unluckyRehearsal.wordings) where
  others := Rehearsal.goesBy_unworded
  keeps now c r hc hr := by
    cases c with
    | generate => cases hc
    | updateStats id runs hours =>
      simp only [Rehearsal.outside, Rehearsal.answer]
      split <;> exact hr
    | _ => exact hr
  unnoticed now lead brief r hr := rfl
  prompt now lead brief r hr := by
    change Timeline.le (Timeline.ofSeconds (Rehearsal.next r.wordings).1.delay : Float) Timeline.zero = true
    rw [hr]
    decide +kernel
  wordless now lead brief r hr := by
    change isWordless ((Rehearsal.next r.wordings).1.outcome.getD _) = true
    rw [hr]
    rfl

/-- The unlucky email is queued again just as if no writer had been asked; and a new subject is in
every message of an email that is turned down and queued again, over the body there was. -/
theorem sendEmail_reworded_intro :
    (((sendEmail ((introEmail .immediate).rewording true) jane writerContext).run (Rehearsal.outside (τ := Float))
          none ⟨unluckyRehearsal, 0, 0, 0, 0, []⟩).1 =
        ((sendEmail ((introEmail .immediate).rewording false) jane writerContext).run Rehearsal.outside
          none ⟨unluckyRehearsal, (0 : Float), 0, 0, 0, []⟩).1) ∧
      ∃ (es : Transcript) (r : Report) (draft : Content),
        (sendEmail ((introEmail .immediate).rewording true) jane writerContext).Yields es (.ok r) ∧
          es.sends = 1 ∧ es.schedules = 1 ∧ composed? (introEmail .immediate) jane writerContext es = some draft ∧
          ∀ x ∈ es, ∀ content, x.call.content? = some content → content = ⟨.str "News for you", draft.body⟩ := by
  obtain ⟨hunlucky, hworded⟩ := sendEmail_reworded (τ := Float) (introEmail .immediate) jane writerContext
    Rehearsal.outside none Rehearsal.unworded (fun r => r.wordings = unluckyRehearsal.wordings)
    ⟨unluckyRehearsal, 0, 0, 0, 0, []⟩
  refine ⟨(hunlucky fun _ => ⟨passedOver_unlucky, rfl⟩).1, ?_⟩
  obtain ⟨draft, hfilled⟩ := exists_filled_introEmail promptSettings
  obtain ⟨wait, due, hwait, hdue⟩ := exists_due_promptSettings
  obtain ⟨es, hes⟩ : ∃ es : Transcript, es =
      [⟨.generate jane ⟨"Send intro email", draft, .blank⟩, .ok ⟨.str "News for you", .str ""⟩⟩,
        ⟨.sendMessage jane.email ⟨.str "News for you", draft.body⟩ ⟨true, true⟩ jane.id,
          .ok ⟨false, .null, .str "SMTP 550"⟩⟩,
        ⟨.scheduleMessage [jane] ⟨.str "News for you", draft.body⟩ due, .ok ⟨.int 1, .list []⟩⟩] := ⟨_, rfl⟩
  have hyields : (sendEmail ((introEmail .immediate).rewording true) jane writerContext).Yields es
      (.ok (.passed s!"Email failed (SMTP 550) - retry scheduled for {due.iso}")) := by
    rw [hes, sendEmail_eq (by decide)]
    refine Program.yields_bind_iff.mpr (.inl ⟨[], _, _, rfl, compose_introEmail hfilled, ?_⟩)
    dsimp only
    rw [dispatch_rewording rfl]
    refine .call (.call ?_)
    refine Program.yields_ofOutcome_bind_iff.mpr (.inr ⟨wait, hwait, .now ⟨0, none, false⟩ ?_⟩)
    refine Program.yields_ofOutcome_bind_iff.mpr (.inr ⟨due, hdue, .call ?_⟩)
    exact .done _
  have hcomposed : composed? (introEmail .immediate) jane writerContext es = some draft := by
    have hdraft : draft? (introEmail .immediate) jane writerContext es =
        some (.ofTexts "Hi" "Hello {{first_name}}") := rfl
    rw [composed?, hdraft, Option.bind_some]
    exact congrArg Except.toOption hfilled
  refine ⟨es, _, draft, hyields, by rw [hes]; rfl, by rw [hes]; rfl, hcomposed, ?_⟩
  obtain ⟨before, answer, after, hsplit, hplain, -, hcontent⟩ := hworded es _ draft rfl hyields hcomposed
  rw [hes] at hsplit
  cases before with
  | cons x rest =>
    -- the first call asks the writer, so nothing stands before it
    obtain ⟨rfl, -⟩ := List.cons.inj hsplit
    cases hplain _ List.mem_cons_self
  | nil =>
    obtain ⟨hanswer, rfl⟩ := List.cons.inj hsplit
    cases hanswer
    intro x hx content hc
    rw [hes] at hx
    obtain rfl | hx := List.mem_cons.mp hx
    · cases hc
    · exact hcontent x hx content hc

end LeadFlow.Execution
