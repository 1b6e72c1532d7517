import LeadFlow.Proofs.Execution.Handlers
import LeadFlow.Proofs.Execution.KnowledgeChange
import LeadFlow.Proofs.Execution.Results
import LeadFlow.Proofs.Program.Effects
import LeadFlow.Proofs.Storage.Changes
import Mathlib

set_option autoImplicit false

/-!
# Execution: what a run leaves of the knowledge base

A step that changes the knowledge base stores all of it, and passes just if that is stored.  Every
other step leaves it alone.  So a run leaves what its last passed change made of the knowledge base
at the start; an invariant of the store, `Tracks`, says so after each step.

Main statement: `Engine.runLead_knowledge`.
-/

namespace LeadFlow.Execution

open Storage

/-! ## A store of leads -/

/-- An outside whose store of leads is a session.  Others decide whether a change gets through, and
how long it takes to refuse one.  A change that gets through is applied at once, so that no time limit
cuts it off after it was stored.  All other calls go to the others. -/
def recordStore {τ σ : Type} [Timeline τ] (owner : String) (rowId : Nat → String)
    (others : Outside calls τ σ) : Outside calls τ (Session × σ) := fun now c (session, world) =>
  match c with
  | .updateRecord id patch =>
    let a := others now (.updateRecord id patch) world
    match a.outcome with
    | .ok ⟨true, _⟩ =>
      let (outcome, session) := (patchLead owner id patch).runIn ⟨now, rowId⟩ session
      ⟨Timeline.zero, outcome, (session, a.world)⟩
    | refused => ⟨a.delay, refused, (session, a.world)⟩
  | c =>
    let a := others now c world
    ⟨a.delay, a.outcome, (session, a.world)⟩

/-- The session goes on with a knowledge base, and one with the same values is stored. -/
def Tracks (owner id : String) (knowledge : Fields) (s : Session) : Prop :=
  ∃ stored, s.Keeps owner id knowledge stored ∧ ∀ key, stored.get? key = Fields.get? knowledge key

section Store

variable {owner id : String} {knowledge after : Fields} {s : Session}

/-- A patch of the knowledge base, which may look like the one before. -/
theorem Tracks.patchKnowledge (around : Surroundings) (hs : Tracks owner id knowledge s)
    (hsame : (Value.object after).same (.object knowledge) = true →
      ∀ key, Fields.get? after key = Fields.get? knowledge key) :
    ∃ s', (patchLead owner id [("knowledge_base", .object after)]).runIn around s =
        (.ok ⟨true, .null⟩, s') ∧ Tracks owner id after s' := by
  obtain ⟨stored, hkeeps, hstored⟩ := hs
  have hassign : ∀ before : LeadRow, before.Shows owner id knowledge →
      ∃ changed : LeadRow, before.assignAll [("knowledge_base", .object after)] = .ok changed ∧
        changed.Shows owner id after :=
    fun before hbefore => ⟨{ before with knowledgeBase := .object after }, rfl, hbefore.id,
      hbefore.visible, rfl, hbefore.score⟩
  obtain ⟨s', stored', hrun, hkeeps', hstored'⟩ :=
    patchLead_keeps around [("knowledge_base", .object after)] hkeeps (List.cons_ne_nil _ _) hassign
  refine ⟨s', hrun, stored', hkeeps', fun key => ?_⟩
  obtain rfl | ⟨rfl, h⟩ := hstored'
  · rfl
  · rw [hstored key, hsame h key]

/-- A patch of the status leaves the knowledge base alone. -/
theorem Tracks.patchStatus (around : Surroundings) (hs : Tracks owner id knowledge s) (status : String) :
    Tracks owner id knowledge
      ((patchLead owner id [("status", .str status)]).runIn around s).2 := by
  obtain ⟨stored, hkeeps, hstored⟩ := hs
  have hassign : ∀ before : LeadRow, before.Shows owner id knowledge →
      ∃ changed : LeadRow, before.assignAll [("status", .str status)] = .ok changed ∧
        changed.Shows owner id knowledge :=
    fun before hbefore =>
      ⟨{ before with status }, rfl, hbefore.id, hbefore.visible, hbefore.knowledge, hbefore.score⟩
  obtain ⟨s', stored', hrun, hkeeps', hstored'⟩ :=
    patchLead_keeps around [("status", .str status)] hkeeps (List.cons_ne_nil _ _) hassign
  rw [hrun]
  refine ⟨stored', hkeeps', fun key => ?_⟩
  obtain rfl | ⟨rfl, -⟩ := hstored'
  · rfl
  · exact hstored key

end Store

/-! ## What a step does to the store -/

/-- A call that leaves the knowledge base of a lead alone. -/
def Call.sparesKnowledge (id : String) : Call → Prop
  | updateRecord i patch => i = id ∧ ∃ status, patch = [("status", .str status)]
  | _ => True

theorem Call.sparesKnowledge_of_isForDelivery {actor id : String} {c : Call} (h : c.isForDelivery actor) :
    c.sparesKnowledge id := by
  cases c with
  | updateRecord => cases h
  | _ => trivial

/-- The store tracks a knowledge base, whatever the others do. -/
abbrev TracksIn {σ : Type} (owner id : String) (knowledge : Fields) (world : Session × σ) : Prop :=
  Tracks owner id knowledge world.1

/-- Work that has a good result just if one knowledge base takes the place of another in the store. -/
def Stores {τ σ α : Type} [Timeline τ] (outside : Outside calls τ (Session × σ)) (owner id : String)
    (knowledge after : Fields) (good : α → Prop) (w : Work α) : Prop :=
  ∀ stop j, TracksIn owner id knowledge j.world →
    Program.Lands (TracksIn owner id knowledge) (TracksIn owner id after) good (w.run outside stop j)

section Steps

variable {τ σ : Type} [Timeline τ] {owner : String} {rowId : Nat → String} {others : Outside calls τ σ}
  {knowledge after : Fields} {lead : Lead} {context : Context}

theorem recordStore_spares (now : Calendar.Moment) {id : String} {c : Call} (world : Session × σ)
    (hc : c.sparesKnowledge id) (hs : TracksIn owner id knowledge world) :
    TracksIn owner id knowledge (recordStore owner rowId others now c world).world := by
  cases c with
  | updateRecord i patch =>
    obtain ⟨rfl, status, rfl⟩ := hc
    unfold recordStore
    dsimp only
    split
    · exact hs.patchStatus _ status
    · exact hs
  | _ => exact hs

/-- The store answers with success where it has taken a knowledge base, and only there. -/
theorem recordStore_answers (now : Calendar.Moment) {id : String} (world : Session × σ)
    (hs : TracksIn owner id knowledge world)
    (hsame : (Value.object after).same (.object knowledge) = true →
      ∀ key, Fields.get? after key = Fields.get? knowledge key) :
    Program.AnswersWith (TracksIn owner id knowledge) (TracksIn owner id after)
      (fun r : Receipt => r.success = true)
      (recordStore owner rowId others now (.updateRecord id [("knowledge_base", .object after)]) world) := by
  obtain ⟨session, world⟩ := world
  obtain ⟨s', hrun, hs'⟩ := hs.patchKnowledge ⟨now, rowId⟩ hsame
  unfold recordStore
  dsimp only
  split
  · rw [hrun]
    exact .inl ⟨_, rfl, rfl, rfl, hs'⟩
  · rename_i o hrefused
    refine .inr ⟨fun r hr hsuccess => ?_, hs⟩
    obtain ⟨success, error⟩ := r
    cases hsuccess
    exact hrefused error hr

/-- A step about no change leaves the knowledge base alone. -/
theorem task_spares {step : Step} (hchange : KnowledgeChange.of? context step = none) :
    (Registry.builtIn.task step lead context).Asks (Call.sparesKnowledge lead.id) := by
  refine task_keepsTo step lead context fun c hbody => ?_
  simp only [KnowledgeChange.of?, hbody] at hchange
  obtain ⟨hmem, htype⟩ := handlerOf_builtIn c
  generalize Registry.builtIn.handlerOf c = h at hmem htype
  simp only [Handler.builtIn, List.mem_cons, List.not_mem_nil, or_false] at hmem
  obtain rfl | rfl | rfl | rfl | rfl | rfl := hmem
  · exact sendEmail_keepsTo.asks fun c hc => Call.sparesKnowledge_of_isForDelivery hc
  · refine updateStatus_keepsTo.asks fun c hc => ?_
    cases c with
    | updateRecord i patch => exact ⟨hc.1, _, hc.2⟩
    | _ => trivial
  · obtain htype | htype := htype
    · exact absurd (congrArg Handler.type htype) (by decide)
    · simp [← htype, Handler.addTag] at hchange
  · obtain htype | htype := htype
    · exact absurd (congrArg Handler.type htype) (by decide)
    · simp [← htype, Handler.assignUser] at hchange
  · refine createAlert_keepsTo.asks fun c hc => ?_
    obtain ⟨details, rfl⟩ := hc
    trivial
  · trivial

section Storing

variable (hzero : Timeline.le (Timeline.zero : τ) Timeline.zero = true)
  (hknowledge : lead.knowledgeBase.Edited knowledge)

include hzero hknowledge

/-- Storing a knowledge base made from the lead succeeds just if it is stored. -/
theorem updateLead_stores (hafter : lead.knowledgeBase.Edited after) :
    Stores (recordStore owner rowId others) owner lead.id knowledge after
      (fun r : Receipt => r.success = true)
      (updateLead lead context [("knowledge_base", .object after)]) := by
  intro stop j hj
  have hstored : Program.Lands (TracksIn owner lead.id knowledge) (TracksIn owner lead.id after)
      (fun r : Receipt => r.success = true)
      ((fromStorage context (.updateRecord lead.id [("knowledge_base", .object after)])).run
        (recordStore owner rowId others) stop j) := by
    refine Program.lands_retriedFrom (I := calls)
      (c := .updateRecord lead.id [("knowledge_base", .object after)]) hzero _
      (fun now world hworld => ?_) _ _ hj
    exact recordStore_answers now world hworld fun hsame => hafter.get?_eq_of_same hknowledge hsame
  refine Program.lands_bind (fun o => ?_) (Program.lands_attempt hstored)
  cases o with
  | ok r => exact ⟨r, rfl, by simp⟩
  | error f => exact ⟨_, rfl, by simp⟩

/-- A tag that cannot be added fails before anything is stored. -/
theorem addTag_stores (step : ActionStep) :
    Stores (recordStore owner rowId others) owner lead.id knowledge
      ((KnowledgeChange.tag (textOr step.config.tag context.settings.tag)).applied lead.knowledgeBase)
      (fun r : Report => r.verdict = .pass) (addTag step lead context) := by
  intro stop j hj
  unfold addTag
  dsimp only [Program.bind_eq]
  have hafter := KnowledgeChange.applied_edited lead.knowledgeBase
    (.tag (textOr step.config.tag context.settings.tag))
  cases htag : withTag lead.knowledgeBase (textOr step.config.tag context.settings.tag) with
  | error f => exact Program.lands_error_iff.mpr hj
  | ok after =>
    rw [KnowledgeChange.applied_tag_of_ok htag] at hafter ⊢
    rw [Program.ofOutcome, Program.bind_done]
    refine Program.lands_bind (fun r => ?_) (updateLead_stores hzero hknowledge hafter stop j hj)
    split
    · exact ⟨_, rfl, by simp_all [Report.passed]⟩
    · exact ⟨_, rfl, by simp_all [Report.failed]⟩

theorem assignUser_stores (step : ActionStep) :
    Stores (recordStore owner rowId others) owner lead.id knowledge
      ((KnowledgeChange.assignee (step.config.assignee.getD "")).applied lead.knowledgeBase)
      (fun r : Report => r.verdict = .pass) (assignUser step lead context) := by
  intro stop j hj
  have hafter := KnowledgeChange.applied_edited lead.knowledgeBase
    (.assignee (step.config.assignee.getD ""))
  refine Program.lands_bind (fun r => ?_) (updateLead_stores hzero hknowledge hafter stop j hj)
  split
  · exact ⟨_, rfl, by simp_all [Report.passed]⟩
  · exact ⟨_, rfl, by simp_all [Report.failed]⟩

/-- A step about a change passes just if the change is stored. -/
theorem task_stores {step : Step} {change : KnowledgeChange}
    (hchange : KnowledgeChange.of? context step = some change) :
    Stores (recordStore owner rowId others) owner lead.id knowledge
      (change.applied lead.knowledgeBase) (fun r : Report => r.verdict = .pass)
      (Registry.builtIn.task step lead context) := by
  have hwork : Stores (recordStore owner rowId others) owner lead.id knowledge
      (change.applied lead.knowledgeBase) (fun r : Report => r.verdict = .pass)
      (Registry.builtIn.work step lead context) := by
    unfold KnowledgeChange.of? at hchange
    unfold Registry.work
    split at hchange
    · rename_i c hbody
      rw [hbody]
      dsimp only
      split at hchange
      · rename_i htype
        have hhandler : Registry.builtIn.handlerOf c = .addTag := by
          unfold Registry.handlerOf
          rw [htype]
          rfl
        cases hchange
        rw [hhandler]
        exact addTag_stores hzero hknowledge ⟨step.id, step.title, c⟩
      · split at hchange
        · rename_i htype
          have hhandler : Registry.builtIn.handlerOf c = .assignUser := by
            unfold Registry.handlerOf
            rw [htype]
            rfl
          cases hchange
          rw [hhandler]
          exact assignUser_stores hzero hknowledge ⟨step.id, step.title, c⟩
        · cases hchange
    · cases hchange
  intro stop j hj
  refine Program.lands_bind (fun o => ?_) (Program.lands_attempt (hwork stop j hj))
  cases o with
  | ok r => exact ⟨r, rfl, by simp⟩
  | error f => exact ⟨_, rfl, by simp [Report.failed]⟩

end Storing

end Steps

/-! ## What a run does to the store -/

namespace Engine

/-- The report of a step is good just if its work landed the effect. -/
theorem reportOf_lands {τ σ : Type} {e : Engine τ σ} {batchBound : Bool} {ending : Ending Report}
    {r : Report} {j : Journey τ σ} {before after : σ → Prop}
    (h : e.reportOf batchBound ending = some r)
    (hlands : Program.Lands before after (fun r : Report => r.verdict = .pass) (ending, j)) :
    r.verdict = .pass ∧ after j.world ∨ r.verdict ≠ .pass ∧ before j.world := by
  match ending with
  | .finished (.ok r') =>
    cases h
    rw [Program.lands_ok_iff] at hlands
    exact hlands
  | .finished (.error f) =>
    refine .inr ⟨?_, Program.lands_error_iff.mp hlands⟩
    simp only [reportOf] at h
    split at h
    · split at h <;> cases h
      exact Verdict.noConfusion
    · cases h
      exact Verdict.noConfusion
  | .cut =>
    refine .inr ⟨?_, Program.lands_cut_iff.mp hlands⟩
    simp only [reportOf] at h
    split at h <;> cases h
    exact Verdict.noConfusion

variable {τ σ : Type} [Timeline τ] {owner : String} {rowId : Nat → String} {others : Outside calls τ σ}
  {context : Context} {runId : Nat → String} {lead : Lead} {deadline : τ}

/-- An engine with the built-in handlers in front of a store. -/
abbrev storing (owner : String) (rowId : Nat → String) (others : Outside calls τ σ) (context : Context)
    (runId : Nat → String) : Engine τ (Session × σ) :=
  builtIn (recordStore owner rowId others) context runId

/-- A step stores the change that its result says was made. -/
theorem runStep_tracks (hzero : Timeline.le (Timeline.zero : τ) Timeline.zero = true)
    {step : Step} {result : StepResult} {r : Report} {j j' : Journey τ (Session × σ)}
    {changes : List KnowledgeChange}
    (h : (storing owner rowId others context runId).runStep lead deadline step j =
      (some result, some r, j'))
    (hj : TracksIn owner lead.id (lastKnowledge lead.knowledgeBase changes) j.world) :
    TracksIn owner lead.id (lastKnowledge lead.knowledgeBase
      (changes ++ (passedChange? context step result).toList)) j'.world := by
  obtain ⟨ms, rfl, limit, batchBound, ending, hrun, hreport⟩ := runStep_eq_some h
  have hrun : (Registry.builtIn.task step lead context).runWithin (recordStore owner rowId others)
      limit j = (ending, j') := hrun
  rw [lastKnowledge_append]
  -- a step about no change keeps the invariant, and one about a change moves it on just if it passes
  cases hchange : KnowledgeChange.of? context step with
  | none =>
    have hkept : TracksIn owner lead.id (lastKnowledge lead.knowledgeBase changes)
        ((Registry.builtIn.task step lead context).runWithin (recordStore owner rowId others)
          limit j).2.world :=
      Program.runWithin_keeps (fun now c world => recordStore_spares now world) limit
        (task_spares hchange) j hj
    have hnone : passedChange? context step (resultOf step r ms) = none := by
      simp [passedChange?, hchange]
    rw [hnone]
    rw [hrun] at hkept
    exact hkept
  | some change =>
    have hlands : Program.Lands _ (TracksIn owner lead.id (change.applied lead.knowledgeBase))
        (fun r : Report => r.verdict = .pass)
        ((Registry.builtIn.task step lead context).runWithin (recordStore owner rowId others)
          limit j) :=
      Program.lands_runWithin hj fun stop =>
        task_stores hzero (lastKnowledge_edited lead.knowledgeBase changes) hchange stop j hj
    rw [hrun] at hlands
    obtain ⟨hpass, hafter⟩ | ⟨hpass, hbefore⟩ := reportOf_lands hreport hlands
    · have hsome : passedChange? context step (resultOf step r ms) = some change := by
        simp [passedChange?, hchange, resultOf, hpass]
      rw [hsome]
      exact hafter
    · have hnone : passedChange? context step (resultOf step r ms) = none := by
        simp [passedChange?, resultOf, hpass]
      rw [hnone]
      exact hbefore

/-- Steps store their changes one after the other, each in place of the one before. -/
theorem Executes.tracks (hzero : Timeline.le (Timeline.zero : τ) Timeline.zero = true)
    {steps : List Step} {results : List StepResult} {j j' : Journey τ (Session × σ)}
    (h : (storing owner rowId others context runId).Executes lead deadline steps results j j')
    {changes : List KnowledgeChange}
    (hj : TracksIn owner lead.id (lastKnowledge lead.knowledgeBase changes) j.world) :
    TracksIn owner lead.id (lastKnowledge lead.knowledgeBase
      (changes ++ passedChanges context steps results)) j'.world := by
  -- the changes so far grow along the run; each step starts from what the ones before have stored
  induction h generalizing changes with
  | nil j => simpa [passedChanges] using hj
  | cons hstep _ ih =>
    rw [passedChanges_cons, ← List.append_assoc]
    exact ih (runStep_tracks hzero hstep hj)

end Engine

/-- Of all the changes that a run says were made, the last one is left in the store, and so no change
was lost just if the last one does not undo the others. -/
theorem Engine.runLead_knowledge {σ : Type} {owner : String} {rowId : Nat → String}
    {others : Outside calls Float σ} {context : Context} {runId : Nat → String} {w : Workflow}
    {deadline : Float} {lead : Lead} {j j' : Journey Float (Session × σ)} {run : Run}
    (h : (storing owner rowId others context runId).runLead w deadline lead j = (some run, j'))
    (hstored : j.world.1.Keeps owner lead.id lead.knowledgeBase lead.knowledgeBase) :
    ∃ held stored, j'.world.1.Keeps owner lead.id held stored ∧
      (∀ key, stored.get? key =
        (lastKnowledge lead.knowledgeBase (passedChanges context w.steps run.steps)).get? key) ∧
      (Kept lead.knowledgeBase stored (passedChanges context w.steps run.steps) ↔
        Survives lead.knowledgeBase (passedChanges context w.steps run.steps)) := by
  obtain ⟨s, j₁, hsteps, -, -, -, -, rfl⟩ := runLead_eq_some h
  obtain ⟨hexec, hleft⟩ := runSteps_executes rfl hsteps
  have hbefore : TracksIn owner lead.id (lastKnowledge lead.knowledgeBase []) j.stamp.2.world :=
    ⟨_, hstored, fun key => rfl⟩
  obtain ⟨stored, hkeeps, hvalues⟩ := hexec.tracks (by decide) hbefore
  rw [List.nil_append, passedChanges_take context w.steps _ hleft] at hkeeps hvalues
  exact ⟨_, stored, hkeeps, hvalues, kept_iff_survives hvalues⟩

/-! ## Two tags -/

/-- A step that adds a tag. -/
def tagStep (id tag : String) : Step where
  id := id
  title := "Add tag"
  description := ""
  body := .action
    { actionType := "add_tag", template := none, customSubject := none, customBody := none
      aiPersonalization := false, timing := .immediate, fallbackEnabled := false
      fallbackAction := .skip, newStatus := none, tag := some tag, assignee := none, extras := [] }

/-- Two tags for a lead. -/
def twoTags : Workflow := { warmUp with steps := [tagStep "a1" "Hot", tagStep "a2" "VIP"] }

/-- A lead without notes. -/
def ann : Lead :=
  { (Inhabited.default : Lead) with id := "ann", knowledgeBase := [("industry", .str "SaaS")] }

/-- The lead as it is stored. -/
def annRow : LeadRow where
  id := "ann"
  createdAt := ⟨0, none, false⟩
  updatedAt := ⟨0, none, false⟩
  ownerId := "user-1"
  name := "Ann Lee"
  company := ""
  email := ""
  score := .float 0
  status := "New"
  insights := ""
  lastActivity := none
  knowledgeBase := .object [("industry", .str "SaaS")]
  deletedAt := none
  isDeleted := false

/-- The built-in handlers with default settings, in front of a store. -/
def storingEngine : Engine Float (Session × Rehearsal) :=
  .storing "user-1" (fun n => s!"row-{n}") Rehearsal.outside plainEngine.context plainEngine.runId

/-- The start of an execution with one stored lead. -/
def storedStart : Journey Float (Session × Rehearsal) :=
  { plainStart with
    world := (.begin (Database.empty.withRows .leads [annRow]) 0, plainStart.world) }

/-- The second tag is made from the knowledge base at the start, which does not have the first. -/
theorem not_survives_twoTags : ¬ Survives ann.knowledgeBase [.tag "Hot", .tag "VIP"] := by
  rintro ⟨htags, -⟩
  obtain ⟨notes, hnotes, hmark⟩ := htags "Hot" (by simp)
  have hvip : ((KnowledgeChange.tag "VIP").applied ann.knowledgeBase).get? notesKey =
      some (.str "[tag:VIP]") := rfl
  obtain rfl : "[tag:VIP]" = notes := by simpa [hvip] using hnotes
  exact absurd hmark (by decide +kernel)

/-- Both steps pass, and the tag of the first is lost. -/
theorem runLead_knowledge_twoTags : ∃ run j',
    storingEngine.runLead twoTags 30 ann storedStart = (some run, j') ∧
      passedChanges storingEngine.context twoTags.steps run.steps = [.tag "Hot", .tag "VIP"] ∧
      ∃ held stored, j'.world.1.Keeps "user-1" ann.id held stored ∧
        (∀ key, stored.get? key =
          ((KnowledgeChange.tag "VIP").applied ann.knowledgeBase).get? key) ∧
        ¬ Kept ann.knowledgeBase stored [.tag "Hot", .tag "VIP"] := by
  have hpassed : ((storingEngine.runLead twoTags 30 ann storedStart).1.map
      fun run => passedChanges storingEngine.context twoTags.steps run.steps) =
        some [.tag "Hot", .tag "VIP"] := by decide +kernel
  obtain ⟨run, hrun, hchanges⟩ := Option.map_eq_some_iff.mp hpassed
  obtain ⟨j', h⟩ := exists_eq_mk_of_fst_eq hrun
  have hstored : storedStart.world.1.Keeps "user-1" ann.id ann.knowledgeBase ann.knowledgeBase :=
    ⟨rfl, [annRow], annRow, rfl, rfl, ⟨rfl, rfl, rfl, _, rfl⟩, ⟨rfl, rfl, rfl, _, rfl⟩⟩
  obtain ⟨held, stored, hkeeps, hlast, hkept⟩ := Engine.runLead_knowledge h hstored
  have hchanges : passedChanges plainEngine.context twoTags.steps run.steps =
      [.tag "Hot", .tag "VIP"] := hchanges
  rw [hchanges] at hlast hkept
  exact ⟨run, j', h, hchanges, held, stored, hkeeps, hlast,
    fun hnone => not_survives_twoTags (hkept.mp hnone)⟩

end LeadFlow.Execution
