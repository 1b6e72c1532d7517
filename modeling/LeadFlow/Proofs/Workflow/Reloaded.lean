import LeadFlow.Proofs.Value.WellFormed
import LeadFlow.Proofs.Workflow.Decoding

set_option autoImplicit false

/-!
# Workflow: steps written and read again

Decoding settles what a definition leaves open: an action without a type gets the one its title hints at,
an unknown fallback and an empty timing become the usual ones, numbers become doubles.  What is settled is
written out, so that reading it again gives the same steps.  The numbers of a step that nobody configured
are whole, and come back as the doubles of the same value.

Main statement: `Workflow.ofDefinition_stepsDefinition`.
-/

namespace LeadFlow

open Decode Decode.Checked

/-! ## Numbers -/

namespace Num

/-- The number as a double, which is how a step is stored with it. -/
def asDouble : Num → Num
  | int n => .float ((Decimal.ofInt? n).getD 0)
  | float x => .float x

/-- One number, or two of the same value. -/
def Agrees (a b : Num) : Prop := a = b ∨ a.same b = true

/-- A number that was decoded, unless it is the default, is a double already. -/
theorem agrees_asDouble {fs : Fields} {name second : String} {default n : Num}
    (hdefault : default.same default.asDouble = true)
    (h : Decode.defaulted fs name second default (fun v => (Decode.number v).map .float) = .ok n) :
    n.Agrees n.asDouble := by
  unfold Decode.defaulted at h
  split at h
  · obtain ⟨x, -, rfl⟩ := map_eq_ok (under_eq_ok.mp h)
    exact .inl rfl
  · cases h
    exact .inr hdefault

end Num

/-! ## Steps that are settled -/

/-- An action with a type, whose undeclared settings have names of their own. -/
structure ActionConfig.Settled (c : ActionConfig) : Prop where
  typed : c.actionType ≠ ""
  distinct : (c.extras.map Prod.fst).Nodup
  undeclared : ∀ key ∈ c.extras.map Prod.fst, key ∉ ActionConfig.names.map Prod.fst

namespace StepBody

/-- Nothing of the body is left open, and its number is the double that is stored. -/
def Settled : StepBody → Prop
  | trigger c => c.threshold.Agrees c.threshold.asDouble
  | condition _ => True
  | wait c => c.days.Agrees c.days.asDouble
  | action c => c.Settled

/-- The body as it is read again. -/
def reloaded : StepBody → StepBody
  | trigger c => .trigger { c with threshold := c.threshold.asDouble }
  | condition c => .condition c
  | wait c => .wait ⟨c.days.asDouble⟩
  | action c => .action c

/-- Equal in every setting, numbers by value. -/
def Same : StepBody → StepBody → Prop
  | trigger c, trigger c' => c.triggerType = c'.triggerType ∧ c.threshold.Agrees c'.threshold
  | condition c, condition c' => c = c'
  | wait c, wait c' => c.days.Agrees c'.days
  | action c, action c' => c = c'
  | _, _ => False

theorem Settled.same_reloaded {b : StepBody} (h : b.Settled) : b.Same b.reloaded := by
  cases b with
  | trigger c => exact ⟨rfl, h⟩
  | condition c => exact rfl
  | wait c => exact h
  | action c => exact rfl

end StepBody

namespace Step

/-- The step as it is read again. -/
def reloaded (s : Step) : Step := { s with body := s.body.reloaded }

/-- Equal in every field, numbers by value. -/
structure Same (s t : Step) : Prop where
  id : s.id = t.id
  title : s.title = t.title
  description : s.description = t.description
  body : s.body.Same t.body

end Step

/-! ## What decoding settles -/

namespace Decode

/-- No field is left over under the first name of a listed one. -/
theorem not_mem_leftOver {fs : Fields} {taken : List (String × String)} {name second : String}
    (h : (name, second) ∈ taken) : name ∉ (leftOver fs taken).map Prod.fst := by
  intro hmem
  obtain ⟨f, hf, rfl⟩ := List.mem_map.mp hmem
  obtain ⟨hfs, hleft⟩ := List.mem_filter.mp hf
  have hfound : ∃ v, fs.get? f.1 = some v := by
    refine Option.ne_none_iff_exists'.mp fun hnone => ?_
    exact Fields.get?_eq_none_iff.mp hnone (List.mem_map_of_mem hfs)
  obtain ⟨v, hv⟩ := hfound
  have hfirst : fs.first? [f.1, second] = some (f.1, v) := by
    rw [Fields.first?, hv]
  have htaken : f.1 ∈ taken.filterMap fun n => (fs.first? [n.1, n.2]).map (·.1) :=
    List.mem_filterMap.mpr ⟨_, h, by simp only [hfirst, Option.map_some]⟩
  exact absurd hleft (by simpa using htaken)

/-- Fields that stand behind all listed ones, under other names, are left over. -/
theorem leftOver_append {fs extras : Fields} {taken : List (String × String)}
    (hlisted : fs.map Prod.fst = taken.map Prod.fst)
    (hextras : ∀ key ∈ extras.map Prod.fst, key ∉ taken.map Prod.fst) :
    leftOver (fs ++ extras) taken = extras := by
  have htaken : (taken.filterMap fun n => ((fs ++ extras : Fields).first? [n.1, n.2]).map (·.1)) =
      taken.map Prod.fst := by
    rw [← List.filterMap_eq_map]
    refine List.filterMap_congr fun n hn => ?_
    have hmem : n.1 ∈ (fs ++ extras).map Prod.fst := by
      rw [List.map_append, hlisted]
      exact List.mem_append_left _ (List.mem_map_of_mem hn)
    cases hget : Fields.get? (fs ++ extras) n.1 with
    | none => exact absurd hmem (Fields.get?_eq_none_iff.mp hget)
    | some v =>
      simp only [Fields.first?, hget]
      rfl
  change Fields.without (fs ++ extras)
    (taken.filterMap fun n => ((fs ++ extras : Fields).first? [n.1, n.2]).map (·.1)) = extras
  rw [htaken, Fields.without, List.filter_append, List.filter_eq_nil_iff.mpr, List.nil_append,
    List.filter_eq_self.mpr]
  · intro f hf
    simpa using hextras f.1 (List.mem_map_of_mem hf)
  · intro f hf
    have hmem : f.1 ∈ taken.map Prod.fst := hlisted ▸ List.mem_map_of_mem hf
    simpa using hmem

/-- A field that is there is decoded, and has no default. -/
theorem defaulted_of_get? {α : Type} {fs : Fields} {name second : String} {default a : α}
    {d : Decoder α} {v : Value} (hget : fs.get? name = some v) (hv : d v = .ok a) :
    defaulted fs name second default d = .ok a := by
  rw [defaulted, Fields.first?, hget]
  exact under_eq_ok.mpr hv

section Put

variable {α : Type} {fs : Fields} {key name second : String} {value : Value} {d : Decoder α}

/-- A field under another name does not matter to the data. -/
theorem required_put {a : α} (hkey : key ∉ [name, second]) (h : required fs name second d = .ok a) :
    required (fs.put key value) name second d = .ok a := by
  unfold required at h ⊢
  rw [Fields.first?_put_of_not_mem hkey]
  cases hfound : fs.first? [name, second] with
  | none =>
    rw [hfound] at h
    cases h
  | some f =>
    rw [hfound] at h
    exact h

theorem defaulted_put {default : α} (hkey : key ∉ [name, second]) :
    defaulted (fs.put key value) name second default d = defaulted fs name second default d := by
  unfold defaulted
  rw [Fields.first?_put_of_not_mem hkey]

theorem anyNamed_put {names : List String} {default : α} (hkey : key ∉ names) :
    anyNamed (fs.put key value) names default d = anyNamed fs names default d := by
  unfold anyNamed
  rw [Fields.first?_put_of_not_mem hkey]

end Put

theorem optional_ofText? (s : Option String) : optional text (.ofText? s) = .ok s := by
  cases s <;> rfl

end Decode

theorem ActionType.word_ne_empty (a : ActionType) : a.word ≠ "" := by
  cases a <;> decide

namespace ActionConfig

theorem chosenType_ne_empty (title : String) (named : Option String) : chosenType title named ≠ "" := by
  unfold chosenType
  split
  · exact ActionType.word_ne_empty _
  · exact ActionType.word_ne_empty _
  · rename_i hempty
    exact hempty

theorem chosenType_of_ne_empty (title : String) {t : String} (h : t ≠ "") :
    chosenType title (some t) = t := by
  unfold chosenType
  split
  · rename_i hnamed
    exact absurd (Option.some.inj hnamed) h
  · rename_i hnamed
    cases hnamed
  · rename_i hnamed
    exact (Option.some.inj hnamed).symm

/-- Whatever an action is decoded from, its type is chosen and its extras are left over. -/
theorem eq_of_decode {title : String} {fs : Fields} {c : ActionConfig}
    (h : decode title (.object fs) = .ok c) :
    (∃ named, c.actionType = chosenType title named) ∧ c.extras = leftOver fs names := by
  unfold decode at h
  obtain ⟨fs', hfs', h₁₁⟩ := andThen_eq_ok h
  cases hfs'
  obtain ⟨g₁₁, extras, h₁₀, hextras, rfl⟩ := seq_eq_ok h₁₁
  obtain ⟨g₁₀, assignee, h₉, -, rfl⟩ := seq_eq_ok h₁₀
  obtain ⟨g₉, tag, h₈, -, rfl⟩ := seq_eq_ok h₉
  obtain ⟨g₈, newStatus, h₇, -, rfl⟩ := seq_eq_ok h₈
  obtain ⟨g₇, fallbackAction, h₆, -, rfl⟩ := seq_eq_ok h₇
  obtain ⟨g₆, fallbackEnabled, h₅, -, rfl⟩ := seq_eq_ok h₆
  obtain ⟨g₅, timing, h₄, -, rfl⟩ := seq_eq_ok h₅
  obtain ⟨g₄, aiPersonalization, h₃, -, rfl⟩ := seq_eq_ok h₄
  obtain ⟨g₃, customBody, h₂, -, rfl⟩ := seq_eq_ok h₃
  obtain ⟨g₂, customSubject, h₁, -, rfl⟩ := seq_eq_ok h₂
  obtain ⟨g₁, template, h₀, -, rfl⟩ := seq_eq_ok h₁
  obtain ⟨t, ht, rfl⟩ := map_eq_ok h₀
  obtain ⟨named, -, rfl⟩ := map_eq_ok ht
  cases hextras
  exact ⟨⟨named, rfl⟩, rfl⟩

/-- A decoded action is settled. -/
theorem settled_of_decode {title : String} {v : Value} {c : ActionConfig} (hv : v.isWellFormed = true)
    (h : decode title v = .ok c) : c.Settled := by
  cases v with
  | object fs =>
    obtain ⟨⟨named, htype⟩, hextras⟩ := eq_of_decode h
    obtain ⟨hdistinct, -⟩ := (Value.isWellFormed_object fs).mp hv
    refine ⟨htype ▸ chosenType_ne_empty title named, ?_, fun key hkey hname => ?_⟩
    · rw [hextras]
      exact hdistinct.sublist (List.filter_sublist.map _)
    · obtain ⟨⟨name, second⟩, hmem, rfl⟩ := List.mem_map.mp hname
      rw [hextras] at hkey
      exact not_mem_leftOver hmem hkey
  | _ => cases h

end ActionConfig

/-! ## Writing and reading -/

namespace ActionConfig

/-- The declared settings as they are stored. -/
def declared (c : ActionConfig) : Fields := { c with extras := [] }.toFields .camel

theorem map_declared (c : ActionConfig) : c.declared.map Prod.fst = names.map Prod.fst := rfl

/-- Extra settings are stored behind the declared ones. -/
theorem Settled.toFields_eq {c : ActionConfig} (h : c.Settled) :
    c.toFields .camel = c.declared ++ c.extras :=
  Fields.foldl_put_of_new h.distinct fun key hkey => c.map_declared ▸ h.undeclared key hkey

theorem timing_stored (t : Timing) : Timing.decode (.str t.word) = .ok t := by
  cases t <;> rfl

theorem fallback_stored (a : FallbackAction) : FallbackAction.decode (.str a.word) = .ok a := by
  cases a <;> rfl

/-- A stored action is read as it was. -/
theorem Settled.decode_stored {c : ActionConfig} (h : c.Settled) (title : String) :
    decode title (.object (c.toFields .camel)) = .ok c := by
  have hget {name : String} {v : Value} (hv : c.declared.get? name = some v) :
      Fields.get? (c.declared ++ c.extras) name = some v := Fields.get?_append_of_some hv
  obtain ⟨fs, hfs⟩ : ∃ fs, c.declared ++ c.extras = fs := ⟨_, rfl⟩
  have hextras : leftOver fs names = c.extras := hfs ▸ leftOver_append c.map_declared h.undeclared
  rw [hfs] at hget
  have htext {name : String} (second : String) {s : Option String}
      (hv : c.declared.get? name = some (.ofText? s)) :
      defaulted fs name second none (optional text) = .ok s :=
    defaulted_of_get? (hget hv) (optional_ofText? s)
  have htype : defaulted fs "actionType" "action_type" none (optional text) =
      .ok (some c.actionType) := defaulted_of_get? (hget rfl) rfl
  have hpersonal : defaulted fs "aiPersonalization" "ai_personalization" false truth =
      .ok c.aiPersonalization := defaulted_of_get? (hget rfl) rfl
  have htiming : defaulted fs "timing" "timing" .immediate Timing.decode = .ok c.timing :=
    defaulted_of_get? (hget rfl) (timing_stored c.timing)
  have henabled : defaulted fs "fallbackEnabled" "fallback_enabled" false truth =
      .ok c.fallbackEnabled := defaulted_of_get? (hget rfl) rfl
  have hfallback : defaulted fs "fallbackAction" "fallback_action" .createTask FallbackAction.decode =
      .ok c.fallbackAction := defaulted_of_get? (hget rfl) (fallback_stored c.fallbackAction)
  rw [h.toFields_eq, hfs]
  unfold decode
  rw [record, andThen, htype, htext "template" rfl, htext "custom_subject" rfl, htext "custom_body" rfl,
    hpersonal, htiming, henabled, hfallback, htext "new_status" rfl, htext "tag" rfl,
    htext "assignee" rfl, hextras]
  change Checked.ok { c with actionType := chosenType title (some c.actionType) } = _
  rw [chosenType_of_ne_empty title h.typed]

end ActionConfig

theorem Operator.decode_stored (o : Operator) : Vocabulary.decode (.str o.word) = .ok o := by
  cases o <;> rfl

namespace StepBody

/-- The decoder of bodies of a kind. -/
def decoder : StepKind → String → Decoder StepBody
  | .trigger => fun _ c => (TriggerConfig.decode c).map .trigger
  | .condition => fun _ c => (ConditionConfig.decode c).map .condition
  | .wait => fun _ c => (WaitConfig.decode c).map .wait
  | .action => fun title c => (ActionConfig.decode title c).map .action

/-- Bodies of a kind are decoded to settled bodies. -/
theorem settled_of_decoder {kind : StepKind} {title : String} {v : Value} {b : StepBody}
    (hv : v.isWellFormed = true) (h : decoder kind title v = .ok b) : b.Settled := by
  cases kind with
  | trigger =>
    obtain ⟨c, hc, rfl⟩ := map_eq_ok h
    obtain ⟨fs, -, hc⟩ := andThen_eq_ok hc
    obtain ⟨g, threshold, hg, hthreshold, rfl⟩ := seq_eq_ok hc
    obtain ⟨triggerType, -, rfl⟩ := map_eq_ok hg
    exact Num.agrees_asDouble (by decide +kernel) hthreshold
  | condition =>
    obtain ⟨c, -, rfl⟩ := map_eq_ok h
    trivial
  | wait =>
    obtain ⟨c, hc, rfl⟩ := map_eq_ok h
    obtain ⟨fs, -, hc⟩ := andThen_eq_ok hc
    obtain ⟨days, hdays, rfl⟩ := map_eq_ok hc
    exact Num.agrees_asDouble (by decide +kernel) hdays
  | action =>
    obtain ⟨c, hc, rfl⟩ := map_eq_ok h
    exact ActionConfig.settled_of_decode hv hc

/-- A stored body is read again. -/
theorem Settled.decoder_stored {b : StepBody} (h : b.Settled) (title : String) :
    decoder b.kind title (.object (b.toFields .camel)) = .ok b.reloaded := by
  cases b with
  | trigger c => cases c with | mk triggerType threshold => cases threshold <;> rfl
  | condition c => cases c with | mk field operator value => cases operator <;> rfl
  | wait c => cases c with | mk days => cases days <;> rfl
  | action c => exact congrArg (Checked.map StepBody.action) (ActionConfig.Settled.decode_stored h title)

end StepBody

namespace Step

/-- A step is decoded as the kind it names. -/
theorem decode_of_type {fs : Fields} (kind : StepKind) (h : fs.get? "type" = some (.str kind.word)) :
    decode (.object fs) = (ofFields fs (StepBody.decoder kind)).under (.key kind.word) := by
  unfold decode
  rw [record, andThen, h]
  cases kind <;> rfl

theorem type_of_decode {v : Value} {s : Step} (h : decode v = .ok s) :
    ∃ (fs : Fields) (kind : StepKind), v = .object fs ∧ fs.get? "type" = some (.str kind.word) := by
  obtain ⟨fs, hfs, h⟩ := andThen_eq_ok h
  cases v with
  | object fs' =>
    cases hfs
    split at h
    · cases h
    · rename_i htype
      exact ⟨fs, .trigger, rfl, htype⟩
    · rename_i htype
      exact ⟨fs, .condition, rfl, htype⟩
    · rename_i htype
      exact ⟨fs, .wait, rfl, htype⟩
    · rename_i htype
      exact ⟨fs, .action, rfl, htype⟩
    · cases h
  | _ => cases hfs

/-- A decoded step leaves nothing open. -/
theorem settled_of_decode {v : Value} {s : Step} (hv : v.isWellFormed = true) (h : decode v = .ok s) :
    s.body.Settled := by
  obtain ⟨fs, kind, rfl, htype⟩ := type_of_decode h
  obtain ⟨-, hvalues⟩ := (Value.isWellFormed_object fs).mp hv
  rw [decode_of_type kind htype, under_eq_ok] at h
  obtain ⟨g, body, hg, hbody, rfl⟩ := seq_eq_ok h
  obtain ⟨g₂, description, hg₂, -, rfl⟩ := seq_eq_ok hg
  obtain ⟨g₁, title, hg₁, -, rfl⟩ := seq_eq_ok hg₂
  obtain ⟨id, -, rfl⟩ := map_eq_ok hg₁
  split at hbody
  · rename_i config hconfig
    exact StepBody.settled_of_decoder (Value.isWellFormed_of_get? hvalues hconfig) (under_eq_ok.mp hbody)
  · exact StepBody.settled_of_decoder rfl hbody

/-- A stored step is read again. -/
theorem decode_stored {s : Step} (h : s.body.Settled) :
    decode (.object (s.toFields .camel)) = .ok s.reloaded := by
  have hbody : ((StepBody.decoder s.kind s.title (.object (s.body.toFields .camel))).under (.key "config")) =
      .ok s.body.reloaded := under_eq_ok.mpr (h.decoder_stored s.title)
  rw [decode_of_type s.kind rfl, under_eq_ok]
  change mk <$> _ <*> _ <*> _ <*> (StepBody.decoder s.kind s.title
    (.object (s.body.toFields .camel))).under (.key "config") = _
  rw [hbody]
  rfl

theorem same_reloaded {s : Step} (h : s.body.Settled) : s.Same s.reloaded :=
  ⟨rfl, rfl, rfl, h.same_reloaded⟩

end Step

/-- Items that decode to steps decode to settled ones. -/
theorem Step.settled_of_forall₂ {items : List Value} {steps : List Step}
    (hitems : ∀ v ∈ items, v.isWellFormed = true)
    (h : List.Forall₂ (fun v s => Step.decode v = .ok s) items steps) : ∀ s ∈ steps, s.body.Settled := by
  induction h with
  | nil => exact List.forall_mem_nil _
  | cons hv _ ih =>
    obtain ⟨hfirst, hrest⟩ := List.forall_mem_cons.mp hitems
    exact List.forall_mem_cons.mpr ⟨settled_of_decode hfirst hv, ih hrest⟩

namespace Workflow

/-- The steps of a decoded workflow leave nothing open. -/
theorem settled_of_ofFields {fs : Fields} {created : Checked Calendar.Moment} {w : Workflow}
    (hfs : Value.fieldsAreWellFormed fs = true) (h : ofFields fs created = .ok w) :
    ∀ s ∈ w.steps, s.body.Settled := by
  obtain ⟨-, -, -, -, hsteps, -⟩ := ofFields_eq_ok_iff.mp h
  unfold anyNamed at hsteps
  split at hsteps
  · rename_i key v hfound
    have hv := Value.isWellFormed_of_get? hfs (Fields.first?_eq_some hfound).2
    rw [under_eq_ok] at hsteps
    cases v with
    | list items =>
      exact Step.settled_of_forall₂ (fun v => Value.isWellFormed_of_mem hv) (forall₂_of_itemsFrom hsteps)
    | _ => cases hsteps
  · rw [← Checked.ok.inj hsteps]
    exact List.forall_mem_nil _

/-- Steps that are put into a definition are all that changes in its workflow. -/
theorem ofFields_put_steps {fs : Fields} {created : Checked Calendar.Moment} {v : Workflow}
    {items : List Value} {steps : List Step} (h : ofFields fs created = .ok v)
    (hsteps : itemsFrom Step.decode 0 items = .ok steps) :
    ofFields (fs.put "steps" (.list items)) created = .ok { v with steps := steps } := by
  obtain ⟨hid, hname, hdescription, hstatus, -, hcreated, hstats, howner, hteam⟩ := ofFields_eq_ok_iff.mp h
  have hput : anyNamed (fs.put "steps" (.list items)) ["steps", "nodes"] [] (Decode.list Step.decode) =
      .ok steps := by
    rw [anyNamed, Fields.first?, Fields.get?_put_self]
    exact under_eq_ok.mpr hsteps
  exact ofFields_eq_ok_iff.mpr ⟨required_put (by decide) hid, required_put (by decide) hname,
    (defaulted_put (by decide)).trans hdescription, (defaulted_put (by decide)).trans hstatus, hput,
    hcreated, (defaulted_put (by decide)).trans hstats, (anyNamed_put (by decide)).trans howner,
    (defaulted_put (by decide)).trans hteam⟩

/-- A definition that leaves much open: no settings, no type of action, no timing that says anything, a
fallback nobody knows, a number in the wrong shape, and settings nobody declared. -/
def openDefinition : Fields :=
  [("id", .str "flow-1"), ("name", .str "Nurture"),
    ("steps", .list [
      .object [("id", .str "s1"), ("type", .str "trigger")],
      .object [("id", .str "s2"), ("type", .str "condition"),
        ("config", .object [("operator", .str "eq"), ("value", .list [.int 7, .null])])],
      .object [("id", .str "s3"), ("type", .str "wait"), ("config", .object [("days", .bool true)])],
      .object [("id", .str "s4"), ("title", .str "Send the guide"), ("type", .str "action"),
        ("config", .object [("custom_subject", .str "Hello"), ("timing", .str ""),
          ("fallbackAction", .str "call"), ("action_type", .null), ("priority", .int 3)])]])]

end Workflow

end LeadFlow
