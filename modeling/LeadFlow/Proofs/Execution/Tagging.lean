import LeadFlow.Proofs.Execution.RecordSteps
import LeadFlow.Proofs.Storage.Selected
import LeadFlow.Proofs.Storage.Shown
import LeadFlow.Proofs.Text.Occurrence
import LeadFlow.Storage.Backed
import Mathlib

set_option autoImplicit false

/-!
# Execution: tags added one run at a time

A run that adds a tag starts from the stored knowledge base and stores what the tag makes of it.  So over
runs one after the other nothing is lost: the notes only get longer, marks that are there stay there, and a
tag whose mark is there already changes nothing.  That the mark may have come with another tag, or with
the notes themselves, makes no difference.

Main statement: `tagsInTurn_kept`.
-/

namespace LeadFlow.Storage

/-! ## The stored lead -/

/-- The lead of an id is stored in one row that its owner sees, with a value for a knowledge base. -/
def Database.Carries (owner id : String) (knowledge : Value) (db : Database) : Prop :=
  ∃ rows row, db.rows .leads = .ok rows ∧ rows.filter (fun r => r.id == id) = [row] ∧
    row.Carries owner id knowledge

theorem Session.Carries.committed {owner id : String} {held stored : Value} {s : Session} {db : Database}
    (hs : s.Carries owner id held stored) (h : s.commit = .ok db) : db.Carries owner id stored := by
  obtain ⟨halive, rows, row, hrows, hrow, hstored, -⟩ := hs
  have hdb : s.commit = .ok s.database := by
    unfold Session.commit
    rw [halive]
  obtain rfl : s.database = db := Except.ok.inj (hdb.symm.trans h)
  exact ⟨rows, row, hrows, hrow, hstored⟩

theorem mem_arranged {q : LeadQuery} {leads : List Lead} {lead : Lead} :
    lead ∈ q.arranged leads ↔ lead ∈ leads := by
  unfold LeadQuery.arranged
  cases q.ids with
  | none => rfl
  | some ids => exact (List.mergeSort_perm leads _).mem_iff

/-- A lead that is read in a new session has the stored knowledge base, and the session goes on with it. -/
theorem carries_of_selectLeads {owner id : String} {knowledge : Value} {db : Database} {q : LeadQuery}
    {around : Surroundings} {issued : Nat} {leads : List Lead} {lead : Lead} {s : Session}
    (hdb : db.Carries owner id knowledge)
    (h : (selectLeads owner q).runIn around (.begin db issued) = (.ok leads, s)) (hmem : lead ∈ leads)
    (hid : lead.id = id) :
    s.Carries owner id knowledge knowledge ∧ looseFields knowledge = .ok lead.knowledgeBase := by
  obtain ⟨rows, row, hrows, hrow, hstored⟩ := hdb
  obtain ⟨rows', found, hrows', hfound, rfl, rfl⟩ :=
    selectLeads_eq_ok rfl (held_begin db issued .leads) h
  obtain rfl : rows = rows' := Except.ok.inj (hrows.symm.trans hrows')
  have honly : ∀ r ∈ (q.selection owner).apply rows, r.id = id → r = row := by
    intro r hr hrid
    have hfilter : r ∈ rows.filter fun r => r.id == id :=
      List.mem_filter.mpr ⟨(Selection.mem_apply hr).1, by simpa using hrid⟩
    rw [hrow] at hfilter
    exact List.mem_singleton.mp hfilter
  obtain ⟨r, hr, hlead⟩ := exists_of_mem_mapM hfound (mem_arranged.mp hmem)
  obtain rfl : r = row := honly r hr ((lead_id hlead).symm.trans hid)
  have hheld : ((heldFor .leads ((q.selection owner).apply rows) r).getD r) = r := by
    cases hfind : heldFor .leads ((q.selection owner).apply rows) r with
    | none => rfl
    | some r' =>
      have hsame : r'.id = r.id := beq_iff_eq.mp (List.find?_some hfind :)
      exact honly r' (List.mem_of_find?_eq_some hfind) (hsame.trans hstored.id)
  refine ⟨⟨rfl, rows, r, hrows, hrow, hstored, ?_⟩, ?_⟩
  · rw [PerTable.get_set_self, hheld]
    exact hstored
  · rw [← hstored.knowledge]
    exact lead_knowledge hlead

end LeadFlow.Storage

namespace LeadFlow.Execution

open Program Storage

/-! ## Notes that are tagged -/

section Notes

variable {knowledge : Fields}

theorem applied_tag_eq (h : HasPlainNotes knowledge) (name : String) :
    (KnowledgeChange.tag name).applied knowledge =
      if Text.contains (notesText knowledge) (tagMark name) then knowledge
      else Fields.put notesKey (.str (marked (.str (notesText knowledge)) (tagMark name))) knowledge := by
  have htag := KnowledgeChange.withTag_eq knowledge name
  rw [notesOf_eq_notesText h, isMarked, Except.map] at htag
  exact KnowledgeChange.applied_tag_of_ok htag

theorem isTagged_iff {name : String} (h : HasPlainNotes knowledge) :
    IsTagged knowledge name ↔ Text.contains (notesText knowledge) (tagMark name) = true := by
  constructor
  · rintro ⟨text, htext, hmark⟩
    have hnotes : notesText knowledge = text := by
      unfold notesText
      rw [htext]
    rwa [hnotes]
  · intro hmark
    exact ⟨_, get?_notes_of_contains (notesOf_eq_notesText h) hmark, hmark⟩

/-- A tag whose mark is there already changes nothing. -/
theorem applied_of_isTagged {name : String} (h : HasPlainNotes knowledge) (htagged : IsTagged knowledge name) :
    (KnowledgeChange.tag name).applied knowledge = knowledge := by
  rw [applied_tag_eq h, if_pos ((isTagged_iff h).mp htagged)]

theorem hasPlainNotes_applied (h : HasPlainNotes knowledge) (name : String) :
    HasPlainNotes ((KnowledgeChange.tag name).applied knowledge) := by
  rw [applied_tag_eq h]
  split
  · exact h
  · intro notes hnotes
    rw [Fields.get?_put_self] at hnotes
    exact .inr ⟨_, (Option.some.inj hnotes).symm⟩

/-- A mark is put behind the notes. -/
theorem notesText_applied (h : HasPlainNotes knowledge) (name : String) :
    (notesText knowledge).toList <+: (notesText ((KnowledgeChange.tag name).applied knowledge)).toList := by
  rw [applied_tag_eq h]
  split
  · exact List.prefix_rfl
  · have hnotes : notesText (Fields.put notesKey
        (.str (marked (.str (notesText knowledge)) (tagMark name))) knowledge) =
          marked (.str (notesText knowledge)) (tagMark name) := by
      rw [notesText, Fields.get?_put_self]
    rw [hnotes, marked]
    split
    · simp [toString, Value.display]
    · rename_i hempty
      have htext : notesText knowledge = "" := by simpa [Value.isTruthy] using hempty
      rw [htext]
      exact List.nil_prefix

end Notes

/-- What tags have made of a knowledge base: the notes begin as before, all marks are there, and nothing
else has changed. -/
structure Tagged (knowledge : Fields) (names : List String) (after : Fields) : Prop where
  plain : HasPlainNotes after
  begins : (notesText knowledge).toList <+: (notesText after).toList
  tags : ∀ name ∈ names, IsTagged after name
  others : ∀ key, key ≠ notesKey → after.get? key = knowledge.get? key

namespace Tagged

variable {knowledge after : Fields} {names : List String}

theorem nil (h : HasPlainNotes knowledge) : Tagged knowledge [] knowledge :=
  ⟨h, List.prefix_rfl, by simp, fun _ _ => rfl⟩

/-- One more tag. -/
theorem append (h : Tagged knowledge names after) (name : String) :
    Tagged knowledge (names ++ [name]) ((KnowledgeChange.tag name).applied after) := by
  have hlonger := notesText_applied h.plain name
  have hplain := hasPlainNotes_applied h.plain name
  refine ⟨hplain, h.begins.trans hlonger, fun other hother => ?_, fun key hkey => ?_⟩
  · rw [List.mem_append, List.mem_singleton] at hother
    obtain hother | rfl := hother
    · rw [isTagged_iff hplain]
      exact Text.contains_of_prefix hlonger ((isTagged_iff h.plain).mp (h.tags other hother))
    · exact isTagged_applied (notesOf_eq_notesText h.plain) other
  · rw [KnowledgeChange.get?_applied_tag hkey, h.others key hkey]

/-- Any of the tags once more changes nothing. -/
theorem applied_eq (h : Tagged knowledge names after) {name : String} (hname : name ∈ names) :
    (KnowledgeChange.tag name).applied after = after :=
  applied_of_isTagged h.plain (h.tags name hname)

end Tagged

/-! ## One run -/

/-- An outside that keeps records in a session: a change is made there at once, with the answer of
storage, or it is refused. -/
def KeepsRecords {τ σ : Type} [Timeline τ] (owner : String) (outside : Outside calls τ (Session × σ)) :
    Prop :=
  ∀ now id patch world, ∃ a, outside now (.updateRecord id patch) world = a ∧
    ((∃ around, a.delay = Timeline.zero ∧
        (patchLead owner id patch).runIn around world.1 = (a.outcome, a.world.1)) ∨
      (∀ r, a.outcome = .ok r → r.success ≠ true) ∧ a.world.1 = world.1)

theorem keepsRecords_backed {τ σ : Type} [Timeline τ] (owner : String) (rowId : Nat → String)
    (others : Outside calls τ σ) : KeepsRecords owner (backed owner rowId others) :=
  fun now _ _ _ => ⟨_, rfl, .inl ⟨⟨now, rowId⟩, rfl, rfl⟩⟩

/-- So does a store of leads where others may refuse a change. -/
theorem keepsRecords_recordStore {τ σ : Type} [Timeline τ] (owner : String) (rowId : Nat → String)
    (others : Outside calls τ σ) : KeepsRecords owner (recordStore owner rowId others) := by
  intro now id patch world
  obtain ⟨session, world⟩ := world
  refine ⟨_, rfl, ?_⟩
  unfold recordStore
  dsimp only
  split
  · exact .inl ⟨⟨now, rowId⟩, rfl, rfl⟩
  · rename_i hrefused
    refine .inr ⟨fun r hr hsuccess => ?_, rfl⟩
    obtain ⟨success, error⟩ := r
    cases hsuccess
    exact hrefused error hr

/-- The session goes on with the knowledge base that is stored, whatever the others do. -/
abbrev CarriesIn {σ : Type} (owner id : String) (knowledge : Value) (world : Session × σ) : Prop :=
  world.1.Carries owner id knowledge knowledge

/-- What a step says of an answer is good just if the answer is. -/
theorem lands_report {τ σ : Type} {before after : σ → Prop} (change : RecordChange)
    {answer : Outcome Receipt} {j : Journey τ σ}
    (h : Lands before after (fun r : Receipt => r.success = true) (.finished answer, j)) :
    Lands before after (fun r : Report => r.verdict = .pass)
      (.finished (.ok (change.report answer)), j) := by
  rw [lands_ok_iff, (change.report_tells answer).passes]
  cases answer with
  | error f => exact .inr ⟨by simp [Succeeded], lands_error_iff.mp h⟩
  | ok r => simpa [Succeeded] using lands_ok_iff.mp h

section Adding

variable {τ σ : Type} [Timeline τ] {owner id name : String} {v : Value} {knowledge after : Fields}
  {outside : Outside calls τ (Session × σ)}

/-- What looks like the tagged knowledge base has the tag already, and is the same. -/
theorem eq_of_same_applied (hload : looseFields v = .ok knowledge) (hplain : HasPlainNotes knowledge)
    (h : (Value.object ((KnowledgeChange.tag name).applied knowledge)).same v = true) :
    v = .object ((KnowledgeChange.tag name).applied knowledge) := by
  cases v with
  | object fs =>
    obtain rfl : fs = knowledge := Except.ok.inj hload
    have hnotes := (KnowledgeChange.applied_edited fs (.tag name)).get?_eq_of_same .same h notesKey
    have htagged := (isTagged_congr hnotes name).mp (isTagged_applied (notesOf_eq_notesText hplain) name)
    rw [applied_of_isTagged hplain htagged]
  | _ => simp [Value.same] at h

/-- Storing a tagged knowledge base succeeds just if it is stored. -/
theorem answersWith_tagged (houtside : KeepsRecords owner outside) (hload : looseFields v = .ok knowledge)
    (hplain : HasPlainNotes knowledge) (hafter : (KnowledgeChange.tag name).applied knowledge = after)
    (now : Calendar.Moment) (world : Session × σ) (hs : CarriesIn owner id v world) :
    AnswersWith (CarriesIn owner id v) (CarriesIn owner id (.object after))
      (fun r : Receipt => r.success = true)
      (outside now (.updateRecord id [("knowledge_base", .object after)]) world) := by
  obtain ⟨a, ha, ⟨around, hdelay, hrun⟩ | ⟨hrefused, hworld⟩⟩ :=
    houtside now id [("knowledge_base", .object after)] world
  · have hassign : ∀ before : LeadRow, before.Carries owner id v →
        ∃ changed : LeadRow, before.assignAll [("knowledge_base", .object after)] = .ok changed ∧
          changed.Carries owner id (.object after) :=
      fun before hbefore => ⟨{ before with knowledgeBase := .object after }, rfl, hbefore.id,
        hbefore.visible, rfl, hbefore.score⟩
    obtain ⟨s', stored', hpatch, hcarries, hstored'⟩ :=
      patchLead_carries around [("knowledge_base", .object after)] hs (List.cons_ne_nil _ _) hassign
    obtain ⟨houtcome, hsession⟩ := Prod.mk.inj (hpatch.symm.trans hrun)
    have hsame : stored' = .object after := by
      obtain hstored' | ⟨rfl, hsame⟩ := hstored'
      · exact hstored'
      · subst hafter
        exact eq_of_same_applied hload hplain hsame
    rw [hsame, hsession] at hcarries
    rw [ha]
    exact .inl ⟨_, houtcome.symm, rfl, hdelay, hcarries⟩
  · rw [ha]
    exact .inr ⟨fun r hr => hrefused r hr, by simpa only [CarriesIn, hworld] using hs⟩

/-- A step that adds a tag passes just if the tagged knowledge base is stored. -/
theorem lands_addTag (hzero : Timeline.le (Timeline.zero : τ) Timeline.zero = true)
    (houtside : KeepsRecords owner outside) {lead : Lead} {context : Context} {step : Step}
    (hload : looseFields v = .ok lead.knowledgeBase) (hplain : HasPlainNotes lead.knowledgeBase)
    (hstep : RecordChange.of? context step = some (.knowledge (.tag name))) (stop : Option τ)
    (j : Journey τ (Session × σ)) (hj : CarriesIn owner lead.id v j.world) :
    Lands (CarriesIn owner lead.id v)
      (CarriesIn owner lead.id (.object ((KnowledgeChange.tag name).applied lead.knowledgeBase)))
      (fun r : Report => r.verdict = .pass) ((Registry.builtIn.task step lead context).run outside stop j) := by
  have hcall : Lands (CarriesIn owner lead.id v)
      (CarriesIn owner lead.id (.object ((KnowledgeChange.tag name).applied lead.knowledgeBase)))
      (fun r : (RecordChange.call lead (.knowledge (.tag name))).Reply => Receipt.success r = true)
      ((fromStorage context (RecordChange.call lead (.knowledge (.tag name)))).run outside stop j) :=
    lands_retriedFrom (I := calls) (c := RecordChange.call lead (.knowledge (.tag name))) hzero _
      (answersWith_tagged houtside hload hplain rfl) _ _ hj
  rw [run_task hstep hplain]
  split
  · rename_i answer j' heq
    rw [heq] at hcall
    exact lands_report (.knowledge (.tag name)) hcall
  · rename_i j' heq
    rw [heq] at hcall
    exact lands_cut_iff.mpr (lands_cut_iff.mp hcall)

end Adding

/-- A run whose only step adds a tag stores what the tag makes of the knowledge base, if it passes. -/
theorem Engine.runLead_addTag {σ : Type} {owner name : String} {v : Value}
    {outside : Outside calls Float (Session × σ)} {context : Context} {runId : Nat → String} {w : Workflow}
    {step : Step} {deadline : Float} {lead : Lead} {j j' : Journey Float (Session × σ)} {run : Run}
    (h : (builtIn outside context runId).runLead w deadline lead j = (some run, j'))
    (houtside : KeepsRecords owner outside) (hsteps : w.steps = [step])
    (hadds : RecordChange.of? context step = some (.knowledge (.tag name)))
    (hpasses : run.steps.map (·.verdict) = [.pass]) (hload : looseFields v = .ok lead.knowledgeBase)
    (hplain : HasPlainNotes lead.knowledgeBase) (hj : CarriesIn owner lead.id v j.world) :
    CarriesIn owner lead.id (.object ((KnowledgeChange.tag name).applied lead.knowledgeBase)) j'.world := by
  obtain ⟨s, j₁, hexec, -, -, -, -, rfl⟩ := runLead_eq_some h
  rw [hsteps] at hexec
  obtain ⟨result, r, j₂, later, hresults, hone, hrest⟩ := runSteps_cons_eq_some rfl hexec
  obtain ⟨ms, rfl, limit, batchBound, ending, hending, hreport⟩ := runStep_eq_some hone
  obtain ⟨-, rfl⟩ : _ ∧ j₂ = j₁ := by simpa [runSteps] using hrest
  have hending : (Registry.builtIn.task step lead context).runWithin outside limit j.stamp.2 =
    (ending, j₂) := hending
  have hlands : Lands _ _ (fun r : Report => r.verdict = .pass)
      ((Registry.builtIn.task step lead context).runWithin outside limit j.stamp.2) :=
    lands_runWithin hj fun stop =>
      lands_addTag (by decide) houtside hload hplain hadds stop j.stamp.2 hj
  rw [hending] at hlands
  obtain ⟨-, hcarries⟩ | ⟨hfails, -⟩ := reportOf_lands hreport hlands
  · exact hcarries
  · rw [hresults] at hpasses
    exact absurd (List.cons.inj hpasses).1 hfails

/-! ## Runs one after the other -/

/-- A run that adds a tag to a stored lead and reports that it has: the lead is read in a new session, the
only step is executed, and what the session has come to is stored. -/
inductive TagRun (owner id name : String) (db db' : Database) : Prop where
  | intro {σ : Type} {outside : Outside calls Float (Session × σ)} {context : Context}
    {runId : Nat → String} {w : Workflow} {step : Step} {deadline : Float} {q : LeadQuery}
    {around : Surroundings} {issued : Nat} {leads : List Lead} {lead : Lead}
    {j j' : Journey Float (Session × σ)} {run : Run}
    (keeps : KeepsRecords owner outside)
    (read : (selectLeads owner q).runIn around (.begin db issued) = (.ok leads, j.world.1))
    (mem : lead ∈ leads) (lead_id : lead.id = id) (steps : w.steps = [step])
    (adds : RecordChange.of? context step = some (.knowledge (.tag name)))
    (runs : (Engine.builtIn outside context runId).runLead w deadline lead j = (some run, j'))
    (passes : run.steps.map (·.verdict) = [.pass]) (commits : j'.world.1.commit = .ok db')

/-- Runs that add tags, each from the database that the one before has left. -/
inductive TagsInTurn (owner id : String) (db : Database) : List String → Database → Prop where
  | nil : TagsInTurn owner id db [] db
  | snoc {names : List String} {name : String} {db₁ db₂ : Database} :
    TagsInTurn owner id db names db₁ → TagRun owner id name db₁ db₂ →
    TagsInTurn owner id db (names ++ [name]) db₂

section Turns

variable {owner id : String} {db db' : Database} {v : Value} {knowledge : Fields}

/-- A run that adds a tag stores what the tag makes of the stored knowledge base. -/
theorem TagRun.carries {name : String} (h : TagRun owner id name db db') (hdb : db.Carries owner id v)
    (hload : looseFields v = .ok knowledge) (hplain : HasPlainNotes knowledge) :
    db'.Carries owner id (.object ((KnowledgeChange.tag name).applied knowledge)) := by
  obtain ⟨hkeeps, hread, hmem, rfl, hsteps, hadds, hrun, hpasses, hcommit⟩ := h
  obtain ⟨hsession, hlead⟩ := carries_of_selectLeads hdb hread hmem rfl
  obtain rfl : knowledge = _ := Except.ok.inj (hload.symm.trans hlead)
  exact (Engine.runLead_addTag hrun hkeeps hsteps hadds hpasses hload hplain hsession).committed hcommit

/-- What is stored after runs in turn is what their tags have made of the knowledge base before. -/
theorem TagsInTurn.carries {names : List String} (h : TagsInTurn owner id db names db')
    (hdb : db.Carries owner id v) (hload : looseFields v = .ok knowledge)
    (hplain : HasPlainNotes knowledge) :
    ∃ v' after, db'.Carries owner id v' ∧ looseFields v' = .ok after ∧ Tagged knowledge names after ∧
      (names = [] ∨ v' = .object after) := by
  -- only the first run may find another kind of value than an object
  induction h with
  | nil => exact ⟨v, knowledge, hdb, hload, .nil hplain, .inl rfl⟩
  | snoc _ hrun ih =>
    obtain ⟨v', after, hcarries, hloaded, htagged, -⟩ := ih
    exact ⟨_, _, hrun.carries hcarries hloaded htagged.plain, rfl, htagged.append _, .inr rfl⟩

/-- Tags that are added one run at a time stay: the notes begin as before and carry every mark, nothing else
changes, and any of the tags once more leaves what is stored as it is. -/
theorem tagsInTurn_kept {names : List String} (h : TagsInTurn owner id db names db')
    (hdb : db.Carries owner id v) (hload : looseFields v = .ok knowledge)
    (hplain : HasPlainNotes knowledge) :
    ∃ v' after, db'.Carries owner id v' ∧ looseFields v' = .ok after ∧ Tagged knowledge names after ∧
      ∀ name ∈ names, ∀ db'', TagRun owner id name db' db'' → db''.Carries owner id v' := by
  obtain ⟨v', after, hcarries, hloaded, htagged, hobject⟩ := h.carries hdb hload hplain
  refine ⟨v', after, hcarries, hloaded, htagged, fun name hname db'' hrun => ?_⟩
  have hagain := hrun.carries hcarries hloaded htagged.plain
  rw [htagged.applied_eq hname] at hagain
  obtain rfl | rfl := hobject
  · simp at hname
  · exact hagain

end Turns

/-! ## A mark within a mark -/

/-- The notes of a lead as they are stored. -/
def fairNotes : Fields := [("industry", .str "SaaS"), ("extraNotes", .str "Met at [tag:fair")]

/-- A database with one lead. -/
def notedAnn : Database :=
  Database.empty.withRows .leads [{ annRow with knowledgeBase := .object fairNotes }]

/-- A run that adds a tag to the lead of a database: the id of the lead, what its steps report, and the
database afterwards. -/
def tagOnce (name : String) (db : Database) : Option (String × List Verdict) × Database :=
  match (selectLeads "user-1" ⟨none, none, none, 500, none⟩).runIn
      ⟨⟨0, none, false⟩, numbered "row"⟩ (.begin db 0) with
  | (.ok [lead], s) =>
    match (Engine.builtIn (backed "user-1" (numbered "row") Rehearsal.outside) plainEngine.context
        plainEngine.runId).runLead { warmUp with steps := [tagStep "a1" name] } 30 lead
          { plainStart with world := (s, plainStart.world) } with
    | (some run, j) =>
      match j.world.1.commit with
      | .ok db' => (some (lead.id, run.steps.map (·.verdict)), db')
      | .error _ => (none, db)
    | (none, _) => (none, db)
  | _ => (none, db)

theorem tagRun_tagOnce {name : String} {db : Database} (hname : name ≠ "")
    (h : (tagOnce name db).1 = some ("ann", [.pass])) :
    TagRun "user-1" "ann" name db (tagOnce name db).2 := by
  have hadds : RecordChange.of? plainEngine.context (tagStep "a1" name) = some (.knowledge (.tag name)) := by
    simp [RecordChange.of?, KnowledgeChange.of?, tagStep, textOr]
  unfold tagOnce at h ⊢
  split at h
  · rename_i lead s hread
    split at h
    · rename_i run j hrun
      split at h
      · rename_i db' hcommit
        obtain ⟨hid, hpasses⟩ := Prod.mk.inj (Option.some.inj h)
        exact .intro (keepsRecords_backed _ _ _) hread (List.mem_singleton_self lead) hid rfl hadds hrun
          hpasses hcommit
      · cases h
    · cases h
  · cases h

/-- The mark of the second tag came with the first one, and stays as it is. -/
theorem tagsInTurn_kept_markWithin :
    TagsInTurn "user-1" "ann" notedAnn ["a][tag:b", "b"] (tagOnce "b" (tagOnce "a][tag:b" notedAnn).2).2 ∧
      ∃ v' after, (tagOnce "b" (tagOnce "a][tag:b" notedAnn).2).2.Carries "user-1" "ann" v' ∧
        looseFields v' = .ok after ∧ Tagged fairNotes ["a][tag:b", "b"] after ∧
          ∀ name ∈ ["a][tag:b", "b"], ∀ db'',
            TagRun "user-1" "ann" name (tagOnce "b" (tagOnce "a][tag:b" notedAnn).2).2 db'' →
              db''.Carries "user-1" "ann" v' := by
  have hruns : TagsInTurn "user-1" "ann" notedAnn ["a][tag:b", "b"]
      (tagOnce "b" (tagOnce "a][tag:b" notedAnn).2).2 :=
    .snoc (.snoc .nil (tagRun_tagOnce (by decide) (by decide +kernel)))
      (tagRun_tagOnce (by decide) (by decide +kernel))
  have hstored : notedAnn.Carries "user-1" "ann" (.object fairNotes) :=
    ⟨_, _, rfl, rfl, rfl, rfl, rfl, _, rfl⟩
  have hplain : HasPlainNotes fairNotes := by
    intro notes hnotes
    obtain rfl : .str "Met at [tag:fair" = notes := Option.some.inj hnotes
    exact .inr ⟨_, rfl⟩
  exact ⟨hruns, tagsInTurn_kept hruns hstored rfl hplain⟩

end LeadFlow.Execution
