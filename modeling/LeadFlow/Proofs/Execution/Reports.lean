import LeadFlow.Execution.Record
import LeadFlow.Proofs.Execution.Handlers
import LeadFlow.Proofs.Program.Endings

set_option autoImplicit false

/-!
# Execution: what steps report by themselves

A step that runs into its limit is reported with words that begin with "Step".  No step of a built-in
kind reports anything like it by itself: all of its own words, those for faults of this library included,
open otherwise, and what the outside says stands behind them.  So the words alone tell whether a step
ran into its limit.

Main statement: `task_reports`.
-/

namespace LeadFlow

/-- Among its first four characters the text has another than the report of a step that ran into its
limit. -/
def OpensOtherwise (s : String) : Prop := ∃ p ∈ s.toList.zip "Step".toList, p.1 ≠ p.2

namespace OpensOtherwise

theorem literal {cs : List Char} (h : (cs.zip ['S', 't', 'e', 'p']).any (fun p => p.1 != p.2) = true) :
    OpensOtherwise (.ofList cs) := by
  obtain ⟨p, hp, hne⟩ := List.any_eq_true.mp h
  refine ⟨p, ?_, by simpa using hne⟩
  rwa [String.toList_ofList]

variable {s t u : String}

/-- What follows makes no difference. -/
theorem append (h : OpensOtherwise s) : OpensOtherwise (s ++ t) := by
  obtain ⟨p, hp, hne⟩ := h
  refine ⟨p, ?_, hne⟩
  obtain ⟨i, hi⟩ := List.mem_iff_getElem?.mp hp
  rw [List.getElem?_zip_eq_some] at hi
  refine List.mem_iff_getElem?.mpr ⟨i, List.getElem?_zip_eq_some.mpr ⟨?_, hi.2⟩⟩
  rw [String.toList_append, List.getElem?_append_left (List.getElem?_eq_some_iff.mp hi.1).1]
  exact hi.1

/-- Neither does a value with words behind it. -/
theorem slot (h : OpensOtherwise s) : OpensOtherwise (s ++ t ++ u) := h.append.append

theorem quoted (s : String) : OpensOtherwise (Text.quoted s) := by
  unfold Text.quoted Text.quoteFor
  split <;> exact ⟨_, by rw [String.toList_ofList]; exact List.mem_cons_self, by decide⟩

theorem not_step_prefix (h : OpensOtherwise s) : ¬ "Step".toList <+: s.toList := by
  rintro ⟨rest, hrest⟩
  obtain ⟨p, hp, hne⟩ := h
  rw [← hrest] at hp
  simp only [String.reduceToList, List.cons_append, List.nil_append, List.zip_cons_cons, List.zip_nil_right,
    List.mem_cons, List.not_mem_nil, or_false] at hp
  obtain rfl | rfl | rfl | rfl := hp <;> exact hne rfl

/-- A fault with such a text is reported with it. -/
theorem summary {f : Fault} (h : OpensOtherwise f.text) : OpensOtherwise f.summary := by
  have hsome : f.text ≠ "" := by
    intro hempty
    obtain ⟨p, hp, -⟩ := hempty ▸ h
    cases hp
  rwa [Fault.summary, if_neg hsome]

end OpensOtherwise

/-- A result is as it should be, and a fault is reported in words that open otherwise. -/
inductive ToldApart {α : Type} (P : α → Prop) : Outcome α → Prop where
  | result {a : α} (h : P a) : ToldApart P (.ok a)
  | fault {f : Fault} (h : OpensOtherwise f.summary) : ToldApart P (.error f)

/-- A fault is reported in words that open otherwise. -/
abbrev FaultsApart {α : Type} (x : Outcome α) : Prop := ToldApart (fun _ => True) x

namespace ToldApart

variable {α β : Type} {P : α → Prop} {Q : β → Prop}

/-- A fault raised with a text is told apart by it, also where it is shown in quotes. -/
theorem raised {kind : FaultKind} {text : String} (h : OpensOtherwise text) :
    ToldApart P (.error (.of kind text)) := by
  refine .fault (.summary ?_)
  unfold Fault.text
  split
  · exact .quoted _
  · exact .quoted _
  · exact h

theorem of_ok {a : α} (h : ToldApart P (.ok a)) : P a := by
  cases h with
  | result h => exact h

/-- A fault is told apart whatever the result should have been. -/
theorem of_error {f : Fault} (h : ToldApart P (.error f)) : ToldApart Q (.error f) := by
  cases h with
  | fault h => exact .fault h

theorem bind {x : Outcome α} {f : α → Outcome β} (hx : ToldApart P x) (hf : ∀ a, P a → ToldApart Q (f a)) :
    ToldApart Q (x >>= f) := by
  cases hx with
  | result ha => exact hf _ ha
  | fault he => exact .fault he

theorem ite {c : Prop} [Decidable c] {x y : Outcome α} (hx : ToldApart P x) (hy : ToldApart P y) :
    ToldApart P (if c then x else y) := by
  by_cases h : c
  · rwa [if_pos h]
  · rwa [if_neg h]

theorem map {x : Outcome α} (f : α → β) (hx : FaultsApart x) : FaultsApart (x.map f) := by
  cases hx with
  | result _ => exact .result trivial
  | fault he => exact .fault he

end ToldApart

theorem faultsApart_ok {α : Type} (a : α) : FaultsApart (.ok a) := .result trivial

/-! ## Numbers -/

theorem faultsApart_doubleOf (n : Int) : FaultsApart (doubleOf n) := by
  unfold doubleOf
  cases Decimal.ofInt? n with
  | some x => exact faultsApart_ok _
  | none => exact .raised (.literal rfl)

theorem faultsApart_notFinite {α : Type} (x : Except Decimal.NotFinite α) :
    FaultsApart (x.mapError Fault.notFinite) := by
  cases x with
  | ok n => exact faultsApart_ok _
  | error e => cases e <;> exact .raised (.literal rfl)

theorem faultsApart_microsOf (seconds : Float) : FaultsApart (microsOf seconds) := by
  refine (faultsApart_notFinite _).bind fun whole _ => ?_
  refine (faultsApart_notFinite _).bind fun fraction _ => ?_
  refine ToldApart.ite (.raised (.literal rfl)) (ToldApart.ite (.raised (.slot (.literal rfl))) ?_)
  exact faultsApart_ok _

namespace Num

theorem faultsApart_toFloat (a : Num) : FaultsApart a.toFloat := by
  cases a with
  | int n => exact faultsApart_doubleOf n
  | float x => exact faultsApart_ok _

theorem faultsApart_combine (whole : Int → Int → Int) (real : Float → Float → Float) (a b : Num) :
    FaultsApart (combine whole real a b) := by
  unfold combine
  split
  · exact faultsApart_ok _
  · exact (faultsApart_toFloat _).bind fun x _ => (faultsApart_toFloat _).bind fun y _ => faultsApart_ok _

theorem faultsApart_realPower? (x y : Float) : FaultsApart (realPower? x y) := by
  have hpower : FaultsApart (floatPower x y) := by
    refine ToldApart.ite (.raised (.literal rfl)) ?_
    exact faultsApart_ok _
  refine ToldApart.ite ?_ (hpower.bind fun z _ => ?_) <;> exact faultsApart_ok _

theorem faultsApart_power? (a e : Num) : FaultsApart (a.power? e) := by
  unfold power?
  split
  · exact faultsApart_ok _
  · refine ToldApart.ite ?_ ((faultsApart_doubleOf _).bind fun y _ => faultsApart_realPower? _ y)
    exact faultsApart_ok _
  · exact (faultsApart_toFloat _).bind fun x _ =>
      (faultsApart_toFloat _).bind fun y _ => faultsApart_realPower? x y

theorem faultsApart_comparable (sign : String) (v : Value) (other : Num) :
    FaultsApart (comparable sign v other) := by
  unfold comparable
  cases ofValue? v with
  | some n => exact faultsApart_ok _
  | none => exact .raised (.slot (.slot (.slot (.literal rfl))))

end Num

theorem RetryStrategy.faultsApart_waitFor (s : RetryStrategy) (retry : Nat) :
    FaultsApart (s.waitFor retry) := by
  refine ToldApart.bind (P := fun _ => True) (.ite ?_ ?_) fun wait _ => Num.faultsApart_toFloat wait
  · exact faultsApart_ok _
  · refine (Num.faultsApart_combine _ _ _ _).bind fun exponent _ => ?_
    refine (Num.faultsApart_power? _ _).bind fun growth _ => ?_
    cases growth with
    | none => exact .raised (.slot (.slot (.slot (.literal rfl))))
    | some growth => exact (Num.faultsApart_combine _ _ _ _).bind fun wait _ => faultsApart_ok _

/-! ## Conditions and messages -/

namespace Condition

theorem faultsApart_asNumber (v : Value) : FaultsApart (asNumber v) := by
  unfold asNumber
  split <;> try exact faultsApart_ok _
  split
  · exact faultsApart_ok _
  · exact .raised (.literal rfl)

theorem faultsApart_holds (op : Operator) (actual expected : Value) :
    FaultsApart (holds op actual expected) := by
  have hnumbers : ∀ compare : Float → Float → Bool,
      FaultsApart (do return compare (← asNumber actual) (← asNumber expected)) := fun compare =>
    (faultsApart_asNumber _).bind fun x _ => (faultsApart_asNumber _).bind fun y _ => faultsApart_ok _
  cases op with
  | gt => exact hnumbers fun x y => decide (x > y)
  | lt => exact hnumbers fun x y => decide (x < y)
  | eq => exact faultsApart_ok _

end Condition

namespace Message

theorem faultsApart_fillText (lead : Lead) (sender : Sender) (template : Value) :
    FaultsApart (fillText lead sender template) := by
  unfold fillText
  split
  · exact faultsApart_ok _
  · refine ToldApart.ite (.raised (.slot (.literal rfl))) ?_
    exact faultsApart_ok _

theorem faultsApart_covered (m : Calendar.Moment) : FaultsApart (covered m) := by
  refine ToldApart.ite ?_ (.raised (.literal rfl))
  exact faultsApart_ok _

theorem faultsApart_localNow (now : Calendar.Moment) (zone : Calendar.Zone) :
    FaultsApart (localNow now zone) := by
  unfold localNow Calendar.Moment.seenIn
  split
  · exact faultsApart_ok _
  · cases now.toZone zone with
    | ok m => exact faultsApart_ok _
    | error refusal =>
      cases refusal with
      | beyond => exact .raised (.literal rfl)
      | firstDay => exact .raised (.slot (.literal rfl))

theorem faultsApart_nextOccurrence (now : Calendar.Moment) (time : Int) :
    FaultsApart (nextOccurrence now time) :=
  ToldApart.ite (faultsApart_covered _) (faultsApart_ok _)

theorem faultsApart_skipWeekend (m : Calendar.Moment) : FaultsApart (skipWeekend m) :=
  ToldApart.ite (faultsApart_covered _) (ToldApart.ite (faultsApart_covered _) (faultsApart_ok _))

theorem faultsApart_sendTime (timing : Timing) (now : Calendar.Moment) (zone : Calendar.Zone) :
    FaultsApart (sendTime timing now zone) := by
  refine (faultsApart_localNow now zone).bind fun now _ => ?_
  cases window? timing with
  | none => exact faultsApart_ok _
  | some time =>
    refine (faultsApart_nextOccurrence now time).bind fun next _ => ?_
    exact ToldApart.ite (faultsApart_skipWeekend next) (faultsApart_ok _)

theorem faultsApart_zoneNamed (name : String) : FaultsApart (zoneNamed name) := by
  unfold zoneNamed
  extract_lets upper
  refine ToldApart.ite ?_ (ToldApart.ite ?_ (ToldApart.ite ?_ (ToldApart.ite ?_ ?_)))
  · exact faultsApart_ok _
  · exact .raised (.append (.literal rfl))
  · exact .raised (.append (.literal rfl))
  · exact .raised (.append (.literal rfl))
  · cases Calendar.Region.named? name with
    | some r => exact faultsApart_ok _
    | none => exact .raised (.append (.literal rfl))

end Message

namespace Execution

open Program

/-! ## Answers -/

namespace Queued

theorem faultsApart_success (q : Queued) : FaultsApart q.success :=
  (Num.faultsApart_comparable _ _ _).bind fun _ _ => faultsApart_ok _

theorem faultsApart_textsFrom (i : Nat) (vs : List Value) : FaultsApart (textsFrom i vs) := by
  induction vs generalizing i with
  | nil => exact faultsApart_ok _
  | cons v vs ih =>
    cases v with
    | str s => exact (ih (i + 1)).map (s :: ·)
    | _ => exact .raised (.slot (.slot (.literal rfl)))

theorem faultsApart_reason (q : Queued) : FaultsApart q.reason := by
  refine ToldApart.bind (P := fun _ => True) ?_ fun listed _ => faultsApart_ok _
  unfold failed
  cases q.failures with
  | list vs => exact faultsApart_textsFrom 0 vs
  | object fs => exact faultsApart_ok _
  | str s => exact faultsApart_ok _
  | _ => exact .raised (.literal rfl)

end Queued

theorem faultsApart_withTag (knowledge : Fields) (tag : String) : FaultsApart (withTag knowledge tag) := by
  refine ToldApart.bind (P := fun _ => True) ?_ fun marked _ => ToldApart.ite ?_ ?_
  · unfold isMarked
    cases notesOf knowledge with
    | str notes => exact faultsApart_ok _
    | list items => exact faultsApart_ok _
    | object fs => exact faultsApart_ok _
    | _ => exact .raised (.slot (.literal rfl))
  all_goals exact faultsApart_ok _

theorem faultsApart_laterBy (m : Calendar.Moment) (seconds : Float) : FaultsApart (laterBy m seconds) :=
  (faultsApart_microsOf seconds).bind fun _ _ => Message.faultsApart_covered _

theorem faultsApart_filled (lead : Lead) (context : Context) (draft : Content) :
    FaultsApart (filled lead context draft) := by
  refine (Message.faultsApart_fillText _ _ _).bind fun subject _ => ?_
  exact (Message.faultsApart_fillText _ _ _).bind fun body _ => faultsApart_ok _

/-! ## Reports of handlers -/

/-- The message opens otherwise than that of a step that ran into its limit. -/
def Report.IsApart (r : Report) : Prop := OpensOtherwise r.message

/-- Work whose reports are told apart, and whose faults are. -/
abbrev ReportsApart (w : Work Report) : Prop := w.Ends (ToldApart Report.IsApart)

theorem reportsApart_done {verdict : Verdict} {message : String} (h : OpensOtherwise message) :
    ReportsApart (.done ⟨verdict, message⟩) := .result h

/-- Work in two parts is told apart if its parts are. -/
theorem ends_bind_apart {α β : Type} {P : α → Prop} {Q : β → Prop} {p : Work α} {f : α → Work β}
    (hp : p.Ends (ToldApart P)) (hf : ∀ a, P a → (f a).Ends (ToldApart Q)) :
    (p.bind f).Ends (ToldApart Q) :=
  hp.bind (fun a ha => hf a ha.of_ok) fun _ he => he.of_error

/-- Work that goes on with an outcome found on the way. -/
theorem ends_ofOutcome_bind_apart {α β : Type} {Q : β → Prop} {x : Outcome α} {f : α → Work β}
    (hx : FaultsApart x) (hf : ∀ a, (f a).Ends (ToldApart Q)) :
    ((ofOutcome x).bind f).Ends (ToldApart Q) :=
  ends_bind_apart (ends_ofOutcome hx) fun a _ => hf a

variable {step : ActionStep} {lead : Lead} {context : Context}

theorem alertFallback_apart (error : String) : ReportsApart (alertFallback step lead context error) := by
  refine ends_ask_bind fun answer => ?_
  cases answer with
  | ok _ => exact reportsApart_done (.slot (.literal rfl))
  | error f => exact reportsApart_done (.append (.slot (.literal rfl)))

theorem retryFallback_apart (error : String) (content : Content) :
    ReportsApart (retryFallback lead context error content) := by
  refine ends_ofOutcome_bind_apart (RetryStrategy.faultsApart_waitFor _ _) fun wait => ?_
  refine ends_clock_bind fun now => ?_
  refine ends_ofOutcome_bind_apart (faultsApart_laterBy now wait) fun due => ?_
  refine ends_ask_bind fun answer => ?_
  cases answer with
  | error f => exact reportsApart_done (.append (.slot (.literal rfl)))
  | ok q =>
    refine ends_ofOutcome_bind_apart (Queued.faultsApart_success q) fun success => ?_
    cases success with
    | true => exact reportsApart_done (.append (.slot (.literal rfl)))
    | false =>
      exact ends_ofOutcome_bind_apart (Queued.faultsApart_reason q) fun reason =>
        reportsApart_done (.append (.slot (.literal rfl)))

theorem applyFallback_apart (error : String) (content : Option Content) :
    ReportsApart (applyFallback step lead context error content) := by
  unfold applyFallback
  split
  · exact reportsApart_done (.append (.literal rfl))
  · split
    · exact alertFallback_apart error
    · exact retryFallback_apart error _
    · exact reportsApart_done (.slot (.literal rfl))
    · exact reportsApart_done (.slot (.literal rfl))

/-- A message that could not be composed is reported in words that open otherwise. -/
def ComposedApart (composed : Except Report Content) : Prop := ∀ r, composed = .error r → r.IsApart

theorem compose_apart : (compose step lead context).Ends (ToldApart ComposedApart) := by
  have hreport : ∀ {message : String}, OpensOtherwise message →
      (done (.error (.failed message)) : Work (Except Report Content)).Ends (ToldApart ComposedApart) := by
    intro message hmessage
    refine ToldApart.result fun r hr => ?_
    cases hr
    exact hmessage
  have hfilled : ∀ draft, ((ofOutcome (filled lead context draft)).bind fun content =>
      (done (.ok content) : Work (Except Report Content))).Ends (ToldApart ComposedApart) := by
    intro draft
    refine ends_ofOutcome_bind_apart (faultsApart_filled lead context draft) fun content => ?_
    refine ToldApart.result fun r hr => ?_
    cases hr
  unfold compose
  dsimp only
  split
  · split
    · exact hreport (.literal rfl)
    · exact hfilled _
  · refine (ends_any _).attempt_bind fun answer _ => ?_
    cases answer with
    | error f => exact hreport (.append (.literal rfl))
    | ok found =>
      cases found with
      | none => exact hreport (.slot (.literal rfl))
      | some t => exact hfilled _

theorem finalContent_faultless (draft : Content) :
    (finalContent step lead context draft).Ends FaultsApart := by
  have hwording : (personalize step lead context draft).Ends FaultsApart := by
    unfold personalize
    split
    · exact faultsApart_ok _
    · refine ends_ask_bind fun answer => ?_
      cases answer <;> exact faultsApart_ok _
  unfold finalContent
  dsimp only
  split
  · refine ends_bind_apart hwording fun wording _ => ?_
    cases wording <;> exact faultsApart_ok _
  · exact faultsApart_ok _

theorem sendNow_apart (m : Outgoing) : ReportsApart (sendNow step lead context m) := by
  refine ends_ask_bind fun answer => ?_
  cases answer with
  | error f => exact applyFallback_apart _ _
  | ok d =>
    dsimp only
    split
    · exact reportsApart_done (.append (.slot (.slot (.literal rfl))))
    · exact applyFallback_apart _ _

theorem sendLater_apart (m : Outgoing) : ReportsApart (sendLater step lead context m) := by
  refine ends_ofOutcome_bind_apart (Message.faultsApart_zoneNamed _) fun zone => ?_
  refine ends_clock_bind fun now => ?_
  refine ends_ofOutcome_bind_apart (Message.faultsApart_sendTime _ now zone) fun due => ?_
  refine ends_ask_bind fun answer => ?_
  cases answer with
  | error f => exact applyFallback_apart _ _
  | ok q =>
    refine ends_ofOutcome_bind_apart (Queued.faultsApart_success q) fun success => ?_
    cases success with
    | true => exact reportsApart_done (.append (.slot (.slot (.slot (.literal rfl)))))
    | false =>
      exact ends_ofOutcome_bind_apart (Queued.faultsApart_reason q) fun reason => applyFallback_apart _ _

theorem sendEmail_apart : ReportsApart (sendEmail step lead context) := by
  unfold sendEmail
  split
  · exact reportsApart_done (.literal rfl)
  · refine ends_bind_apart compose_apart fun composed hcomposed => ?_
    cases composed with
    | error r => exact .result (hcomposed r rfl)
    | ok draft =>
      refine ends_bind_apart (finalContent_faultless draft) fun m _ => ?_
      unfold dispatch
      split
      · exact sendNow_apart m
      · exact sendLater_apart m

/-- A change of the record has no faults; what became of it is in its receipt. -/
theorem updateLead_bind_apart (patch : Fields) {f : Receipt → Work Report} (hf : ∀ r, ReportsApart (f r)) :
    ReportsApart ((updateLead lead context patch).bind f) := by
  refine Ends.bind (Q := fun o => ∃ r, o = .ok r) ?_ (fun r _ => hf r) fun e he => ?_
  · refine (ends_any _).attempt_bind fun answer _ => ?_
    cases answer with
    | ok r => exact ⟨r, rfl⟩
    | error f => exact ⟨_, rfl⟩
  · obtain ⟨r, hr⟩ := he
    cases hr

/-- What an action on the record reports of a change that was made and of one that was not. -/
theorem receipt_apart {r : Receipt} {made failed : String} (hmade : OpensOtherwise made)
    (hfailed : OpensOtherwise failed) :
    ReportsApart (if r.success then .done (.passed made) else .done (.failed failed)) := by
  split
  · exact reportsApart_done hmade
  · exact reportsApart_done hfailed

theorem handler_apart {h : Handler} (hh : h ∈ Handler.builtIn) (step : ActionStep) (lead : Lead)
    (context : Context) : ReportsApart (h.run step lead context) := by
  simp only [Handler.builtIn, List.mem_cons, List.not_mem_nil, or_false] at hh
  obtain rfl | rfl | rfl | rfl | rfl | rfl := hh
  · exact sendEmail_apart
  · exact updateLead_bind_apart _ fun r => receipt_apart (.slot (.literal rfl)) (.append (.literal rfl))
  · refine ends_ofOutcome_bind_apart (faultsApart_withTag _ _) fun knowledge => ?_
    exact updateLead_bind_apart _ fun r => receipt_apart (.slot (.literal rfl)) (.append (.literal rfl))
  · exact updateLead_bind_apart _ fun r => receipt_apart (.slot (.literal rfl)) (.append (.literal rfl))
  · refine ends_ask_bind fun answer => ?_
    cases answer with
    | ok _ => exact reportsApart_done (.slot (.literal rfl))
    | error f => exact reportsApart_done (.append (.literal rfl))
  · exact reportsApart_done (.slot (.slot (.literal rfl)))

/-! ## Reports of steps -/

theorem runTrigger_apart (c : TriggerConfig) (lead : Lead) : ReportsApart (.done (runTrigger c lead)) := by
  unfold runTrigger
  split
  · exact reportsApart_done (.slot (.literal rfl))
  · dsimp only
    split
    · exact reportsApart_done (.append (.slot (.literal rfl)))
    · exact reportsApart_done (.append (.slot (.literal rfl)))
  · exact reportsApart_done (.slot (.literal rfl))
  · exact reportsApart_done (.literal rfl)
  · exact reportsApart_done (.literal rfl)
  · exact reportsApart_done (.slot (.literal rfl))

theorem runCondition_apart (c : ConditionConfig) (lead : Lead) :
    ToldApart Report.IsApart (runCondition c lead) := by
  refine (Condition.faultsApart_holds _ _ _).bind fun met _ => ?_
  cases met with
  | true => exact reportsApart_done (.append (.literal rfl))
  | false => exact reportsApart_done (.slot (.literal rfl))

/-- The work of a step of a built-in kind. -/
theorem work_apart (step : Step) (lead : Lead) (context : Context) :
    ReportsApart (Registry.builtIn.work step lead context) := by
  unfold Registry.work
  split
  · exact runTrigger_apart _ _
  · exact ends_ofOutcome (runCondition_apart _ _)
  · exact reportsApart_done (.slot (.literal rfl))
  · exact handler_apart (handlerOf_builtIn _).1 _ _ _

/-- Every step of a built-in kind that comes to an end by itself has a report, and it is told apart. -/
theorem task_reports (step : Step) (lead : Lead) (context : Context) :
    (Registry.builtIn.task step lead context).Ends fun o => ∃ r, o = .ok r ∧ r.IsApart := by
  refine (work_apart step lead context).attempt_bind fun o ho => ?_
  cases ho with
  | result hr => exact ⟨_, rfl, hr⟩
  | fault hf => exact ⟨_, rfl, hf⟩

end Execution

end LeadFlow
