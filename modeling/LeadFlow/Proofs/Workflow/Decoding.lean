import LeadFlow.Proofs.Decode.Checked
import LeadFlow.Workflow.Basic

set_option autoImplicit false

/-!
# Workflow: how decoding a definition ends

A definition decodes to a workflow, or is refused with the list of its issues.  There is one hole in
this: the fallback of an action is looked up among the known ones, and a list or an object cannot be
looked up at all.  The first such fallback ends decoding with a fault of its own, whatever else is
wrong with the definition; nothing else ever does.

Main statement: `Workflow.ofDefinition_ends`.
-/

namespace LeadFlow

open Decode Decode.Checked

/-! ## Fallbacks that cannot be looked up -/

/-- The fault of looking up a value among the fallbacks. -/
def FallbackAction.lookupFault? : Value → Option Fault
  | .list _ => some (.of .type "unhashable type: 'list'")
  | .object _ => some (.of .type "unhashable type: 'dict'")
  | _ => none

/-- The fault of the fallback in the settings of an action. -/
def ActionConfig.lookupFault? (config : Value) : Option Fault :=
  config.fields?.bind fun fs =>
    (fs.first? ["fallbackAction", "fallback_action"]).bind fun f => FallbackAction.lookupFault? f.2

/-- The fault of the fallback of a step; only actions have one. -/
def Step.lookupFault? (step : Value) : Option Fault :=
  step.fields?.bind fun fs =>
    match fs.get? "type" with
    | some (.str "action") => (fs.get? "config").bind ActionConfig.lookupFault?
    | _ => none

/-- The fault of the first fallback of a definition that cannot be looked up. -/
def Workflow.lookupFault? (definition : Fields) : Option Fault :=
  (definition.first? ["steps", "nodes"]).bind fun f =>
    match f.2 with
    | .list steps => steps.findSome? Step.lookupFault?
    | _ => none

theorem FallbackAction.kind_of_lookupFault? {v : Value} {f : Fault} (h : lookupFault? v = some f) :
    f.kind = .type := by
  cases v <;> cases h <;> rfl

theorem ActionConfig.kind_of_lookupFault? {v : Value} {f : Fault} (h : lookupFault? v = some f) :
    f.kind = .type := by
  obtain ⟨fs, -, h⟩ := Option.bind_eq_some_iff.mp h
  obtain ⟨field, -, h⟩ := Option.bind_eq_some_iff.mp h
  exact FallbackAction.kind_of_lookupFault? h

theorem Step.kind_of_lookupFault? {v : Value} {f : Fault} (h : lookupFault? v = some f) :
    f.kind = .type := by
  obtain ⟨fs, -, h⟩ := Option.bind_eq_some_iff.mp h
  split at h
  · obtain ⟨config, -, h⟩ := Option.bind_eq_some_iff.mp h
    exact ActionConfig.kind_of_lookupFault? h
  · cases h

/-- What cannot be looked up is of the wrong type. -/
theorem Workflow.kind_of_lookupFault? {definition : Fields} {f : Fault}
    (h : lookupFault? definition = some f) : f.kind = .type := by
  obtain ⟨field, -, h⟩ := Option.bind_eq_some_iff.mp h
  split at h
  · obtain ⟨step, -, h⟩ := List.exists_of_findSome?_eq_some h
    exact Step.kind_of_lookupFault? h
  · cases h

/-! ## Faults of decoding -/

theorem Vocabulary.decode_steady {α : Type} [Vocabulary α] :
    Decoder.Steady (Vocabulary.decode (α := α)) :=
  choice_steady _

theorem Timing.decode_steady : Decoder.Steady Timing.decode := by
  intro v
  unfold Timing.decode
  split
  · exact Vocabulary.decode_steady v
  · rfl

theorem FallbackAction.fault?_decode (v : Value) :
    (FallbackAction.decode v).fault? = FallbackAction.lookupFault? v := by
  cases v <;> rfl

theorem TriggerConfig.decode_steady : Decoder.Steady TriggerConfig.decode := by
  intro v
  unfold TriggerConfig.decode
  simp only [fault?_record_andThen, fault?_seq, fault?_functorMap, fault?_defaulted_of_steady,
    text_steady, number_steady.map, Option.or_none, Option.bind_fun_none]

theorem ConditionConfig.decode_steady : Decoder.Steady ConditionConfig.decode := by
  intro v
  unfold ConditionConfig.decode
  simp only [fault?_record_andThen, fault?_seq, fault?_functorMap, fault?_defaulted_of_steady,
    text_steady, Vocabulary.decode_steady, any_steady, Option.or_none, Option.bind_fun_none]

theorem WaitConfig.decode_steady : Decoder.Steady WaitConfig.decode := by
  intro v
  unfold WaitConfig.decode
  simp only [fault?_record_andThen, fault?_functorMap, fault?_defaulted_of_steady, number_steady.map,
    Option.bind_fun_none]

theorem ActionConfig.fault?_decode (title : String) (v : Value) :
    (ActionConfig.decode title v).fault? = ActionConfig.lookupFault? v := by
  have htext : Decoder.Steady (Decode.optional Decode.text) := text_steady.optional
  unfold ActionConfig.decode ActionConfig.lookupFault?
  simp only [fault?_record_andThen, fault?_seq, fault?_functorMap, fault?_map, fault?_pure,
    fault?_defaulted_of_steady, htext, truth_steady, Timing.decode_steady, fault?_defaulted,
    FallbackAction.fault?_decode, Option.or_none, Option.none_or]

namespace Step

/-- A step faults as its settings do; without settings it is decoded as if they were empty. -/
theorem fault?_ofFields (fs : Fields) {config : String → Decoder StepBody} (f : Value → Option Fault)
    (hconfig : ∀ title v, (config title v).fault? = f v) (hempty : f (.object []) = none) :
    (ofFields fs config).fault? = (fs.get? "config").bind f := by
  unfold ofFields
  simp only [fault?_seq, fault?_functorMap, fault?_required _ _ _ text_steady,
    fault?_defaulted_of_steady, text_steady, Option.none_or]
  split
  · rename_i v hv
    rw [fault?_under, hconfig, hv, Option.bind_some]
  · rename_i hnone
    rw [hconfig, hempty, hnone]
    rfl

theorem fault?_ofFields_of_steady (fs : Fields) {config : String → Decoder StepBody}
    (hconfig : ∀ title, (config title).Steady) : (ofFields fs config).fault? = none := by
  rw [fault?_ofFields fs (fun _ => none) hconfig rfl, Option.bind_fun_none]

theorem fault?_decode (v : Value) : (decode v).fault? = lookupFault? v := by
  unfold decode lookupFault?
  rw [fault?_record_andThen]
  congr 1
  funext fs
  split
  · rename_i htype
    rw [htype]
    rfl
  · rename_i htype
    rw [htype, fault?_under, fault?_ofFields_of_steady fs fun _ => TriggerConfig.decode_steady.map _]
    rfl
  · rename_i htype
    rw [htype, fault?_under, fault?_ofFields_of_steady fs fun _ => ConditionConfig.decode_steady.map _]
    rfl
  · rename_i htype
    rw [htype, fault?_under, fault?_ofFields_of_steady fs fun _ => WaitConfig.decode_steady.map _]
    rfl
  · rename_i htype
    rw [htype, fault?_under]
    refine fault?_ofFields fs ActionConfig.lookupFault? (fun title c => ?_) rfl
    rw [fault?_map, ActionConfig.fault?_decode]
  · rename_i tag _ _ _ hother htype
    rw [htype]
    split
    · rename_i haction
      exact absurd (Option.some.inj haction) hother
    · rfl

end Step

theorem Stats.decode_steady : Decoder.Steady Stats.decode := by
  intro v
  unfold Stats.decode
  rw [fault?_record_andThen]
  unfold Stats.ofFields
  simp only [fault?_seq, fault?_functorMap, fault?_defaulted_of_steady, whole_steady, number_steady,
    Option.or_none, Option.bind_fun_none]

namespace Workflow

/-- A workflow is decoded field by field. -/
theorem ofFields_eq_ok_iff {fs : Fields} {created : Checked Calendar.Moment} {w : Workflow} :
    ofFields fs created = .ok w ↔
      required fs "id" "id" text = .ok w.id ∧ required fs "name" "name" text = .ok w.name ∧
      defaulted fs "description" "description" "" text = .ok w.description ∧
      defaulted fs "status" "status" .draft Vocabulary.decode = .ok w.status ∧
      anyNamed fs ["steps", "nodes"] [] (Decode.list Step.decode) = .ok w.steps ∧
      created = .ok w.createdAt ∧ defaulted fs "stats" "stats" Stats.zero Stats.decode = .ok w.stats ∧
      anyNamed fs ["ownerId", "owner_id", "userId"] none (optional text) = .ok w.ownerId ∧
      defaulted fs "teamId" "team_id" none (optional text) = .ok w.teamId := by
  constructor
  · intro h₈
    obtain ⟨g₈, teamId, h₇, hteam, rfl⟩ := seq_eq_ok h₈
    obtain ⟨g₇, ownerId, h₆, howner, rfl⟩ := seq_eq_ok h₇
    obtain ⟨g₆, stats, h₅, hstats, rfl⟩ := seq_eq_ok h₆
    obtain ⟨g₅, createdAt, h₄, hcreated, rfl⟩ := seq_eq_ok h₅
    obtain ⟨g₄, steps, h₃, hsteps, rfl⟩ := seq_eq_ok h₄
    obtain ⟨g₃, status, h₂, hstatus, rfl⟩ := seq_eq_ok h₃
    obtain ⟨g₂, description, h₁, hdescription, rfl⟩ := seq_eq_ok h₂
    obtain ⟨g₁, name, h₀, hname, rfl⟩ := seq_eq_ok h₁
    obtain ⟨id, hid, rfl⟩ := map_eq_ok h₀
    exact ⟨hid, hname, hdescription, hstatus, hsteps, hcreated, hstats, howner, hteam⟩
  · rintro ⟨hid, hname, hdescription, hstatus, hsteps, hcreated, hstats, howner, hteam⟩
    rw [ofFields, hid, hname, hdescription, hstatus, hsteps, hcreated, hstats, howner, hteam]
    rfl

/-- Only the steps of a workflow can fault. -/
theorem fault?_ofFields (fs : Fields) {created : Checked Calendar.Moment}
    (hcreated : created.fault? = none) : (ofFields fs created).fault? = lookupFault? fs := by
  have hsteps : ∀ v, (Decode.list Step.decode v).fault? =
      match v with
      | .list steps => steps.findSome? Step.lookupFault?
      | _ => none := by
    intro v
    cases v with
    | list steps => exact (fault?_itemsFrom _ _ _).trans (by simp only [Step.fault?_decode])
    | _ => rfl
  have htext : Decoder.Steady (Decode.optional Decode.text) := text_steady.optional
  have howner : (anyNamed fs ["ownerId", "owner_id", "userId"] none (optional text)).fault? = none := by
    simp only [fault?_anyNamed, htext _, Option.bind_fun_none]
  unfold ofFields lookupFault?
  simp only [fault?_seq, fault?_functorMap, fault?_required _ _ _ text_steady,
    fault?_defaulted_of_steady, text_steady, Vocabulary.decode_steady, Stats.decode_steady, htext,
    hcreated, howner, fault?_anyNamed, hsteps, Option.or_none, Option.none_or]

/-- The id that a refusal names. -/
def shownId (definition : Fields) : String := ((definition.get? "id").map Value.display).getD "?"

/-- A definition ends decoding with the fault of its first fallback that cannot be looked up.  If there
is none it decodes to a workflow, or is refused with the list of its issues. -/
theorem ofDefinition_ends (now : Calendar.Moment) (definition : Fields) :
    match lookupFault? definition with
    | some f => ofDefinition now (.object definition) = .error f
    | none => (∃ w, ofDefinition now (.object definition) = .ok w) ∨
        ∃ is, ofDefinition now (.object definition) = .error (invalid (shownId definition) is) := by
  have hfault : (decode now (.object definition)).fault? = lookupFault? definition :=
    fault?_ofFields definition (fault?_defaulted_of_steady _ _ _ _ moment_steady)
  rw [← hfault]
  exact toOutcome_of_fault? _ _

end Workflow

end LeadFlow
