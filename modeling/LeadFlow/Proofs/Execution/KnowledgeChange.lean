import LeadFlow.Execution.Record
import LeadFlow.Proofs.Value.Edited

set_option autoImplicit false

/-!
# Execution: changes of the knowledge base

A step that adds a tag or assigns the lead makes a whole knowledge base from the lead as it was at
the start of the run.  `lastKnowledge` is what is left if each one takes the place of the one
before.  Then the last change is kept, and the others survive if they were there before, or if the
last one repeats them.

Main statements: `kept_iff_survives`, and `survives_single`: a change that is the only one is not lost.
-/

namespace LeadFlow.Execution

/-! ## Changes of the knowledge base -/

/-- The key of the assignee in the knowledge base. -/
def assigneeKey : String := "assignedTo"

/-- A change of the knowledge base. -/
inductive KnowledgeChange where
  | tag (name : String)
  | assignee (user : String)
  deriving DecidableEq, Repr

namespace KnowledgeChange

/-- The change that a step is about. -/
def of? (context : Context) (step : Step) : Option KnowledgeChange :=
  match step.body with
  | .action c =>
    if c.actionType = "add_tag" then some (.tag (textOr c.tag context.settings.tag))
    else if c.actionType = "assign_user" then some (.assignee (c.assignee.getD ""))
    else none
  | _ => none

/-- What a change makes of a knowledge base.  A tag that cannot be added leaves it as it is. -/
def applied (knowledge : Fields) : KnowledgeChange → Fields
  | tag name => (withTag knowledge name).toOption.getD knowledge
  | assignee user => Fields.put assigneeKey (.str user) knowledge

theorem withTag_eq (knowledge : Fields) (name : String) : withTag knowledge name =
    (isMarked (tagMark name) (notesOf knowledge)).map fun isThere =>
      if isThere then knowledge
      else Fields.put notesKey (.str (marked (notesOf knowledge) (tagMark name))) knowledge := by
  unfold withTag
  dsimp only
  cases isMarked (tagMark name) (notesOf knowledge) with
  | error f => rfl
  | ok isThere => cases isThere <;> rfl

theorem applied_tag_of_ok {knowledge after : Fields} {name : String}
    (h : withTag knowledge name = .ok after) : (tag name).applied knowledge = after := by
  simp only [applied, h, Except.toOption, Option.getD_some]

/-- A tag changes the notes or nothing. -/
theorem applied_tag (knowledge : Fields) (name : String) :
    (tag name).applied knowledge = knowledge ∨
      ∃ notes, (tag name).applied knowledge = Fields.put notesKey (.str notes) knowledge := by
  have htag := withTag_eq knowledge name
  cases hmarked : isMarked (tagMark name) (notesOf knowledge) with
  | error f =>
    rw [hmarked] at htag
    exact .inl (by simp only [applied, htag, Except.map, Except.toOption, Option.getD_none])
  | ok isThere =>
    rw [hmarked] at htag
    cases isThere with
    | true => exact .inl (applied_tag_of_ok htag)
    | false => exact .inr ⟨_, applied_tag_of_ok htag⟩

theorem applied_edited (knowledge : Fields) (change : KnowledgeChange) :
    knowledge.Edited (change.applied knowledge) := by
  cases change with
  | tag name =>
    obtain h | ⟨notes, h⟩ := applied_tag knowledge name
    · rw [h]
      exact .same
    · rw [h]
      exact .put notesKey notes
  | assignee user => exact .put assigneeKey user

theorem get?_applied_tag {key : String} (hkey : key ≠ notesKey) (knowledge : Fields) (name : String) :
    ((tag name).applied knowledge).get? key = knowledge.get? key := by
  obtain h | ⟨notes, h⟩ := applied_tag knowledge name
  · rw [h]
  · rw [h, Fields.get?_put_of_ne hkey]

theorem get?_applied_assignee {key : String} (hkey : key ≠ assigneeKey) (knowledge : Fields)
    (user : String) : ((assignee user).applied knowledge).get? key = knowledge.get? key :=
  Fields.get?_put_of_ne hkey _ knowledge

end KnowledgeChange

/-- The notes are a text, or there are none. -/
def HasPlainNotes (knowledge : Fields) : Prop :=
  ∀ notes, knowledge.get? notesKey = some notes → notes = .null ∨ ∃ text, notes = .str text

/-- The text of the notes; it is empty where there are none. -/
def notesText (knowledge : Fields) : String :=
  match knowledge.get? notesKey with
  | some (.str text) => text
  | _ => ""

theorem notesOf_eq_notesText {knowledge : Fields} (h : HasPlainNotes knowledge) :
    notesOf knowledge = .str (notesText knowledge) := by
  unfold notesOf notesText
  cases hnotes : knowledge.get? notesKey with
  | none => rfl
  | some notes =>
    obtain rfl | ⟨text, rfl⟩ := h notes hnotes
    · rfl
    · by_cases hempty : text = ""
      · subst hempty
        rfl
      · have htruthy : (Value.str text).isTruthy = true := by simp [Value.isTruthy, hempty]
        simp [htruthy]

/-- The change that a result says was made. -/
def passedChange? (context : Context) (step : Step) (result : StepResult) : Option KnowledgeChange :=
  if result.verdict = .pass then KnowledgeChange.of? context step else none

/-- The changes that results say were made, in order. -/
def passedChanges (context : Context) (steps : List Step) (results : List StepResult) :
    List KnowledgeChange :=
  (steps.zip results).filterMap fun (step, result) => passedChange? context step result

/-- What the last change makes of the knowledge base at the start. -/
def lastKnowledge (knowledge : Fields) (changes : List KnowledgeChange) : Fields :=
  match changes.getLast? with
  | some change => change.applied knowledge
  | none => knowledge

theorem passedChanges_cons (context : Context) (step : Step) (steps : List Step) (result : StepResult)
    (results : List StepResult) : passedChanges context (step :: steps) (result :: results) =
      (passedChange? context step result).toList ++ passedChanges context steps results := by
  cases h : passedChange? context step result <;> simp [passedChanges, h]

/-- Only results of steps that were executed say that something was made. -/
theorem passedChanges_take (context : Context) (steps : List Step) {results : List StepResult} (n : Nat)
    (hleft : results.drop n = (steps.drop n).map leftOut) :
    passedChanges context (steps.take n) (results.take n) = passedChanges context steps results := by
  have hnone : passedChanges context (steps.drop n) (results.drop n) = [] := by
    rw [hleft]
    unfold passedChanges
    rw [List.filterMap_eq_nil_iff]
    intro x hx
    rw [List.zip_map_right, List.mem_map] at hx
    obtain ⟨y, -, rfl⟩ := hx
    rfl
  have hzip : steps.zip results =
      (steps.take n).zip (results.take n) ++ (steps.drop n).zip (results.drop n) := by
    simp only [List.zip, ← List.take_zipWith, ← List.drop_zipWith, List.take_append_drop]
  unfold passedChanges at *
  rw [hzip, List.filterMap_append, hnone, List.append_nil]

theorem lastKnowledge_append (knowledge : Fields) (changes : List KnowledgeChange)
    (change? : Option KnowledgeChange) : lastKnowledge knowledge (changes ++ change?.toList) =
      match change? with
      | some change => change.applied knowledge
      | none => lastKnowledge knowledge changes := by
  cases change? <;> simp [lastKnowledge]

theorem lastKnowledge_edited (knowledge : Fields) (changes : List KnowledgeChange) :
    knowledge.Edited (lastKnowledge knowledge changes) := by
  unfold lastKnowledge
  split
  · exact KnowledgeChange.applied_edited _ _
  · exact .same

/-- The notes carry the mark of a tag. -/
def IsTagged (knowledge : Fields) (name : String) : Prop :=
  ∃ notes, knowledge.get? notesKey = some (.str notes) ∧ Text.contains notes (tagMark name) = true

/-- The last of the users that the lead was assigned to. -/
def lastAssignee? (changes : List KnowledgeChange) : Option String :=
  changes.reverse.findSome? fun
    | .assignee user => some user
    | .tag _ => none

/-- No change was lost, and nothing else was changed. -/
structure Kept (knowledge stored : Fields) (changes : List KnowledgeChange) : Prop where
  tags : ∀ name, .tag name ∈ changes → IsTagged stored name
  assignee : ∀ user, lastAssignee? changes = some user → stored.get? assigneeKey = some (.str user)
  others : ∀ key, key ≠ notesKey → key ≠ assigneeKey → stored.get? key = knowledge.get? key

/-- The last change does not undo the others: behind a tag, every other tag is in the notes that it
leaves, and the lead had its assignee before; behind an assignment, every tag was there before. -/
def Survives (knowledge : Fields) (changes : List KnowledgeChange) : Prop :=
  match changes.getLast? with
  | none => True
  | some (.tag name) =>
    (∀ other, .tag other ∈ changes → IsTagged ((KnowledgeChange.tag name).applied knowledge) other) ∧
      ∀ user, lastAssignee? changes = some user → knowledge.get? assigneeKey = some (.str user)
  | some (.assignee _) => ∀ name, .tag name ∈ changes → IsTagged knowledge name

theorem lastAssignee?_append_assignee (changes : List KnowledgeChange) (user : String) :
    lastAssignee? (changes ++ [.assignee user]) = some user := by
  simp [lastAssignee?]

theorem isTagged_congr {a b : Fields} (h : a.get? notesKey = b.get? notesKey) (name : String) :
    IsTagged a name ↔ IsTagged b name := by
  unfold IsTagged
  rw [h]

/-- Where only the last change is left, no change is lost just if the last one does not undo the
others. -/
theorem kept_iff_survives {knowledge stored : Fields} {changes : List KnowledgeChange}
    (h : ∀ key, stored.get? key = (lastKnowledge knowledge changes).get? key) :
    Kept knowledge stored changes ↔ Survives knowledge changes := by
  unfold Survives
  have hne : assigneeKey ≠ notesKey := by decide
  cases hlast : changes.getLast? with
  | none =>
    rw [List.getLast?_eq_none_iff] at hlast
    subst hlast
    refine iff_of_true ⟨by simp, by simp [lastAssignee?], fun key _ _ => h key⟩ trivial
  | some change =>
    simp only [lastKnowledge, hlast] at h
    cases change with
    | tag name =>
      have hnotes := isTagged_congr (h notesKey)
      have hassignee : stored.get? assigneeKey = knowledge.get? assigneeKey := by
        rw [h, KnowledgeChange.get?_applied_tag hne]
      constructor
      · intro hkept
        refine ⟨fun other hother => (hnotes other).mp (hkept.tags other hother), fun user huser => ?_⟩
        rw [← hassignee]
        exact hkept.assignee user huser
      · rintro ⟨htags, huser⟩
        refine ⟨fun other hother => (hnotes other).mpr (htags other hother), fun user h' => ?_,
          fun key hkey _ => ?_⟩
        · rw [hassignee]
          exact huser user h'
        · rw [h, KnowledgeChange.get?_applied_tag hkey]
    | assignee user =>
      have hnotes : stored.get? notesKey = knowledge.get? notesKey := by
        rw [h, KnowledgeChange.get?_applied_assignee hne.symm]
      constructor
      · intro hkept name hname
        exact (isTagged_congr hnotes name).mp (hkept.tags name hname)
      · intro htags
        refine ⟨fun name hname => (isTagged_congr hnotes name).mpr (htags name hname),
          fun user' huser' => ?_, fun key _ hkey => ?_⟩
        · obtain ⟨before, rfl⟩ := List.getLast?_eq_some_iff.mp hlast
          rw [lastAssignee?_append_assignee] at huser'
          cases huser'
          rw [h]
          exact Fields.get?_put_self _ _ _
        · rw [h, KnowledgeChange.get?_applied_assignee hkey]

/-- Notes in which a mark is found are those that are stored. -/
theorem get?_notes_of_contains {knowledge : Fields} {text name : String}
    (hnotes : notesOf knowledge = .str text) (hmark : Text.contains text (tagMark name) = true) :
    knowledge.get? notesKey = some (.str text) := by
  have hne : text ≠ "" := by
    rintro rfl
    simp [Text.contains, tagMark, toString, Text.hasPart, Text.cutAt?, Text.after?] at hmark
  unfold notesOf at hnotes
  dsimp only at hnotes
  split at hnotes
  · cases hget : knowledge.get? notesKey with
    | none =>
      rw [hget] at hnotes
      cases hnotes
    | some v =>
      rw [hget] at hnotes
      exact congrArg some hnotes
  · exact absurd (Value.str.inj hnotes).symm hne

/-- A tag that is added to notes that are text, or to no notes, is there afterwards. -/
theorem isTagged_applied {knowledge : Fields} {text : String} (hnotes : notesOf knowledge = .str text)
    (name : String) : IsTagged ((KnowledgeChange.tag name).applied knowledge) name := by
  have htag := KnowledgeChange.withTag_eq knowledge name
  rw [hnotes, isMarked, Except.map] at htag
  rw [KnowledgeChange.applied_tag_of_ok htag]
  split
  · rename_i hmark
    exact ⟨text, get?_notes_of_contains hnotes hmark, hmark⟩
  · refine ⟨_, Fields.get?_put_self _ _ _, ?_⟩
    unfold marked
    split
    · exact Text.contains_append_right _ _
    · exact Text.contains_append_right "" _

/-- A run that makes a single change does not lose it. -/
theorem survives_single {knowledge : Fields} {text : String} (hnotes : notesOf knowledge = .str text)
    (change : KnowledgeChange) : Survives knowledge [change] := by
  cases change with
  | tag name =>
    refine ⟨fun other hother => ?_, fun user huser => ?_⟩
    · obtain rfl : other = name := by simpa using hother
      exact isTagged_applied hnotes other
    · cases huser
  | assignee user => simp [Survives]

end LeadFlow.Execution
