import LeadFlow.Proofs.Storage.Shown
import LeadFlow.Proofs.Workflow.Decoding
import LeadFlow.Storage.Backed

set_option autoImplicit false

/-!
# Storage: work on behalf of an actor

Everything that storage does for an actor is scoped to it.  Most of it asks for rows of the actor.
Folding runs into statistics does not: it takes the workflow of an id, whoever owns it, so it is
scoped only for the id of a workflow that the actor is shown.

Main statement: `answerTo_scoped`, for the calls of an execution.
-/

namespace LeadFlow.Storage

open Execution

/-- All these rows are hidden from the actor. -/
def Database.AllHidden (actor : String) (hidden : Database) : Prop :=
  ∀ t rows, hidden.tables.get t = some rows → ∀ r ∈ rows, t.isShownTo actor r = false

theorem Database.allHidden_hiddenFrom (actor : String) (db : Database) :
    (db.hiddenFrom actor).AllHidden actor := by
  intro t rows hrows r hr
  simp only [hiddenFrom, narrowed, PerTable.get_map, Option.map_eq_some_iff] at hrows
  obtain ⟨whole, -, rfl⟩ := hrows
  simpa using (List.mem_filter.mp hr).2

/-! ## Decoded workflows -/

/-- The workflow of a row has the id of the row. -/
theorem WorkflowRow.workflow_id {r : WorkflowRow} {w : Workflow} (h : r.workflow = .ok w) :
    w.id = r.id := by
  obtain ⟨hid, -⟩ := Workflow.ofFields_eq_ok_iff.mp (Decode.Checked.toOutcome_eq_ok h)
  have hstored : Decode.required r.definition "id" "id" Decode.text = .ok r.id := rfl
  exact Decode.Checked.ok.inj (hid.symm.trans hstored)

/-! ## Patched leads -/

/-- The columns that a patch can change. -/
def patchedColumns : List String := patchable.map (·.2)

theorem mem_keys_put {key column : String} {v : Value} {fs : Fields}
    (h : column ∈ (Fields.put key v fs).map (·.1)) : column = key ∨ column ∈ fs.map (·.1) := by
  induction fs with
  | nil => simpa [Fields.put] using h
  | cons f fs ih =>
    obtain ⟨k, w⟩ := f
    rw [Fields.put] at h
    split at h
    · exact .inr h
    · obtain rfl | h := List.mem_cons.mp h
      · simp
      · obtain hkey | hmem := ih h
        · exact .inl hkey
        · exact .inr (List.mem_cons_of_mem _ hmem)

theorem mem_patchedColumns {patch : Fields} {column : String}
    (h : column ∈ (patchColumns patch).map (·.1)) : column ∈ patchedColumns := by
  have hall : ∀ c ∈ (patchColumns patch).map (·.1), c ∈ patchedColumns := by
    have hnone : ∀ c ∈ ([] : Fields).map (·.1), c ∈ patchedColumns := by simp
    unfold patchColumns
    refine List.foldlRecOn (motive := fun data : Fields => ∀ c ∈ data.map (·.1), c ∈ patchedColumns) patch _
      hnone fun data hdata field _ c hc => ?_
    obtain ⟨key, v⟩ := field
    dsimp only at hc
    split at hc
    · rename_i column hlookup
      obtain rfl | hc := mem_keys_put hc
      · obtain ⟨before, after, hsplit, -⟩ := List.lookup_eq_some_iff.mp hlookup
        exact List.mem_map.mpr ⟨(key, c), by simp [hsplit], rfl⟩
      · exact hdata c hc
    · exact hdata c hc
  exact hall column h

/-- A patch leaves the id of a lead alone, whose it is, and whether it is deleted. -/
theorem LeadRow.assign_patched {r r' : LeadRow} {column : String} {v : Value}
    (hcolumn : column ∈ patchedColumns) (h : r.assign column v = .ok r') :
    r'.id = r.id ∧ r'.ownerId = r.ownerId ∧ r'.isDeleted = r.isDeleted := by
  have hbind : ∀ {α : Type} {o : Outcome α} {f : α → LeadRow},
      (do return f (← o) : Outcome LeadRow) = .ok r' → ∃ a, r' = f a := by
    intro α o f h
    cases o with
    | error e => cases h
    | ok a => exact ⟨a, by cases h; rfl⟩
  simp only [patchedColumns, patchable, List.map_cons, List.map_nil, List.mem_cons,
    List.not_mem_nil, or_false] at hcolumn
  obtain rfl | rfl | rfl | rfl | rfl | rfl | rfl := hcolumn
  · obtain ⟨a, rfl⟩ := hbind (f := fun a => { r with status := a }) h
    exact ⟨rfl, rfl, rfl⟩
  · obtain ⟨a, rfl⟩ := hbind (f := fun a => { r with score := a }) h
    exact ⟨rfl, rfl, rfl⟩
  · cases h
    exact ⟨rfl, rfl, rfl⟩
  · cases h
    exact ⟨rfl, rfl, rfl⟩
  · obtain ⟨a, rfl⟩ := hbind (f := fun a => { r with insights := a }) h
    exact ⟨rfl, rfl, rfl⟩
  · obtain ⟨a, rfl⟩ := hbind (f := fun a => { r with lastActivity := some a }) h
    exact ⟨rfl, rfl, rfl⟩
  · obtain ⟨a, rfl⟩ := hbind (f := fun a => { r with lastActivity := some a }) h
    exact ⟨rfl, rfl, rfl⟩

theorem LeadRow.assignAll_patched {r r' : LeadRow} {data : Fields}
    (hdata : ∀ c ∈ data.map (·.1), c ∈ patchedColumns) (h : r.assignAll data = .ok r') :
    r'.id = r.id ∧ r'.ownerId = r.ownerId ∧ r'.isDeleted = r.isDeleted := by
  induction data generalizing r with
  | nil =>
    cases h
    exact ⟨rfl, rfl, rfl⟩
  | cons f data ih =>
    obtain ⟨column, v⟩ := f
    obtain ⟨hcolumn, hdata⟩ := List.forall_mem_cons.mp hdata
    unfold LeadRow.assignAll at h ih
    rw [List.foldlM_cons] at h
    dsimp only at h
    by_cases hnull : v.isNull = true
    · rw [if_pos hnull] at h
      exact ih hdata h
    · rw [if_neg hnull] at h
      cases hassign : r.assign column v with
      | error e =>
        rw [hassign] at h
        cases h
      | ok r₁ =>
        rw [hassign] at h
        obtain ⟨hid, howner, hdeleted⟩ := assign_patched hcolumn hassign
        obtain ⟨hid', howner', hdeleted'⟩ := ih hdata h
        exact ⟨hid'.trans hid, howner'.trans howner, hdeleted'.trans hdeleted⟩

/-! ## Scoped work -/

section Scoped

variable {actor : String} {hidden : Database} {rowId : Nat → String}

theorem LeadRow.own_congr {r r' : LeadRow} (hr : TableName.leads.Own actor hidden r)
    (hsame : r'.id = r.id ∧ r'.ownerId = r.ownerId ∧ r'.isDeleted = r.isDeleted) :
    TableName.leads.Own actor hidden r' := by
  obtain ⟨hid, howner, hdeleted⟩ := hsame
  refine ⟨?_, ?_⟩
  · change (r'.ownerId == actor && !r'.isDeleted) = true
    rw [howner, hdeleted]
    exact hr.shown
  · change hidden.Lacks .leads r'.id
    rw [hid]
    exact hr.apart

theorem scoped_writeLead {before after : LeadRow} (hbefore : TableName.leads.Own actor hidden before)
    (hsame : after.id = before.id ∧ after.ownerId = before.ownerId ∧
      after.isDeleted = before.isDeleted) :
    Scoped actor hidden rowId (writeLead before after) fun _ => True := by
  have hafter := LeadRow.own_congr hbefore hsame
  unfold writeLead
  split
  · exact Scoped.bind (scoped_hold hafter) fun _ _ => scoped_pure trivial
  · refine Scoped.bind scoped_read fun around _ => ?_
    dsimp only
    generalize hnoted : (if after.updatedAt = before.updatedAt then
      { after with updatedAt := around.now } else after) = noted
    have hnoted : noted.id = before.id ∧ TableName.leads.Own actor hidden noted := by
      rw [← hnoted]
      split
      · exact ⟨hsame.1, LeadRow.own_congr hafter ⟨rfl, rfl, rfl⟩⟩
      · exact ⟨hsame.1, hafter⟩
    refine Scoped.bind (scoped_written fun _ _ => trivial) fun score _ => ?_
    have hscored : TableName.leads.Own actor hidden { noted with score := score } :=
      LeadRow.own_congr hnoted.2 ⟨rfl, rfl, rfl⟩
    exact Scoped.bind (scoped_overwrite hnoted.1 hscored hnoted.2) fun _ _ => scoped_pure trivial

variable (hactor : actor ≠ "") (hhidden : hidden.AllHidden actor)

include hactor hhidden

theorem scoped_findLead (id : String) : Scoped actor hidden rowId (findLead actor id)
    fun found => ∀ r, found = some r → TableName.leads.Own actor hidden r := by
  refine (scoped_selectOne fun rows hrows r hr _ => ?_).mono fun found hfound r hr => (hfound r hr).1
  have hnot := hhidden .leads rows hrows r hr
  simpa [LeadRow.isVisible, ownedBy, hactor, TableName.isShownTo] using hnot

/-- A patch changes a lead of the actor, or none. -/
theorem scoped_patchLead (id : String) (patch : Fields) :
    Scoped actor hidden rowId (patchLead actor id patch) fun _ => True := by
  have hchange : Scoped actor hidden rowId (changeLead actor id (patchColumns patch)) fun _ => True := by
    refine Scoped.bind (scoped_findLead hactor hhidden id) fun found hfound => ?_
    cases found with
    | none => exact scoped_pure trivial
    | some before =>
      refine Scoped.bind (scoped_written fun after hafter =>
        LeadRow.assignAll_patched (fun c hc => mem_patchedColumns hc) hafter) fun after hafter => ?_
      exact Scoped.bind (scoped_writeLead (hfound before rfl) hafter) fun _ _ => scoped_pure trivial
  unfold patchLead
  dsimp only
  split
  · exact scoped_pure trivial
  · refine Scoped.bind (Scoped.explained hchange) fun found _ => ?_
    cases found with
    | none => exact scoped_pure trivial
    | some r => exact scoped_pure trivial

theorem scoped_selectLeads (q : LeadQuery) :
    Scoped actor hidden rowId (selectLeads actor q) fun _ => True := by
  refine Scoped.bind (Scoped.explained ?_) fun rows (_ : True) => ?_
  · split
    · exact scoped_throw
    · refine (scoped_select fun rows hrows r hr => ?_).mono fun _ _ => trivial
      have hnot := hhidden .leads rows hrows r hr
      have hinvisible : r.isVisible actor = false := by
        simpa [LeadRow.isVisible, ownedBy, hactor, TableName.isShownTo] using hnot
      simp [LeadQuery.selection, hinvisible]
  · exact Scoped.bind (scoped_found fun _ _ => trivial) fun _ (_ : True) => scoped_pure trivial

/-- A workflow that is found has an id that no hidden one has. -/
theorem scoped_findWorkflow (id : String) : Scoped actor hidden rowId (findWorkflow actor id)
    fun w => hidden.Lacks .workflows w.id := by
  refine Scoped.bind (scoped_selectOne fun rows hrows r hr _ => ?_) fun found hfound => ?_
  · have hnot := hhidden .workflows rows hrows r hr
    simpa [WorkflowRow.isVisible, ownedBy, hactor, TableName.isShownTo] using hnot
  · cases found with
    | none => exact scoped_throw
    | some r =>
      refine scoped_found fun w hw => ?_
      rw [WorkflowRow.workflow_id hw]
      exact (hfound r rfl).1.apart

theorem scoped_listWorkflows (limit : Int) :
    Scoped actor hidden rowId (listWorkflows actor limit) fun _ => True := by
  refine Scoped.bind (scoped_select fun rows hrows r hr => ?_) fun rows _ => scoped_found fun _ _ => trivial
  have hnot := hhidden .workflows rows hrows r hr
  simpa [WorkflowRow.isVisible, ownedBy, hactor, TableName.isShownTo] using hnot

omit hactor in
theorem scoped_findTemplate (name : String) :
    Scoped actor hidden rowId (findTemplate actor name) fun _ => True := by
  refine Scoped.bind (Scoped.explained (scoped_select fun rows hrows r hr => ?_)) fun _ _ =>
    scoped_pure trivial
  have hnot : (r.ownerId == some actor || r.ownerId == none) = false := hhidden .templates rows hrows r hr
  simp only [TemplateRow.answersTo, hnot, Bool.and_false]

omit hactor in
theorem scoped_listRuns (workflowId : String) (limit : Int) :
    Scoped actor hidden rowId (listRuns actor workflowId limit) fun _ => True := by
  refine Scoped.bind (Scoped.explained (scoped_select fun rows hrows r hr => ?_)) fun rows _ =>
    scoped_found fun _ _ => trivial
  have hnot : (r.actor == actor) = false := hhidden .executions rows hrows r hr
  simp [ExecutionRow.isOf, hnot]

omit hactor hhidden

theorem scoped_queueMessages (leads : List Lead) (content : Content) (due : Calendar.Moment) :
    Scoped actor hidden rowId (queueMessages actor leads content due) fun _ => True := by
  refine Scoped.bind (Scoped.explained (scoped_insertAll fun make hmake stamp hstamp => ?_))
    fun _ _ => scoped_pure trivial
  obtain ⟨lead, -, rfl⟩ := List.mem_map.mp hmake
  exact ⟨by simp [TableName.isShownTo, messageRow], hstamp .messages⟩

theorem scoped_appendAudit (action details : Option String) :
    Scoped actor hidden rowId (appendAudit actor action details) fun _ => True := by
  refine Scoped.explained (Scoped.bind (scoped_insert_none fun stamp hstamp => ?_) fun _ _ =>
    scoped_pure trivial)
  exact ⟨by simp [TableName.isShownTo], hstamp .audits⟩

/-- A run is stored under the actor, by an id that no hidden run has. -/
theorem scoped_saveRun (workflowId leadId : String) {run : Run} (hid : hidden.Lacks .executions run.id) :
    Scoped actor hidden rowId (saveRun actor workflowId leadId run) fun _ => True := by
  refine Scoped.explained (Scoped.bind (scoped_insert_some fun stamp hstamp => ?_) fun _ _ =>
    scoped_pure trivial)
  refine ⟨by simp [TableName.isShownTo, executionRow], ?_⟩
  change hidden.Lacks .executions stamp.id
  rw [hstamp]
  exact hid

theorem scoped_writeStats {before : WorkflowRow} (hbefore : TableName.workflows.Own actor hidden before)
    (stats : Stats) : Scoped actor hidden rowId (writeStats before stats) fun _ => True := by
  have hown : ∀ r : WorkflowRow, r.id = before.id → r.ownerId = before.ownerId →
      r.isDeleted = before.isDeleted → TableName.workflows.Own actor hidden r := by
    intro r hid howner hdeleted
    refine ⟨?_, ?_⟩
    · change (r.ownerId == actor && !r.isDeleted) = true
      rw [howner, hdeleted]
      exact hbefore.shown
    · change hidden.Lacks .workflows r.id
      rw [hid]
      exact hbefore.apart
  unfold writeStats
  dsimp only
  split
  · exact scoped_hold (hown _ rfl rfl rfl)
  · refine Scoped.bind scoped_read fun around _ => ?_
    exact scoped_overwrite rfl (hown _ rfl rfl rfl) (hown _ rfl rfl rfl)

/-- Runs are folded into the statistics of a workflow that no hidden one shares its id with. -/
theorem scoped_foldRuns {workflowId : String} (hid : hidden.Lacks .workflows workflowId)
    (statuses : List RunStatus) (saving : Nat → Outcome Float) :
    Scoped actor hidden rowId (foldRuns workflowId statuses saving) fun _ => True := by
  refine Scoped.explained (Scoped.bind (scoped_selectOne fun rows hrows r hr hrid => ?_)
    fun found hfound => ?_)
  · exact absurd hrid (hid rows hrows r hr)
  · cases found with
    | none => exact scoped_throw
    | some r =>
      refine Scoped.bind (scoped_found fun _ _ => trivial) fun before _ => ?_
      refine Scoped.bind (scoped_found fun _ _ => trivial) fun stats _ => ?_
      exact Scoped.bind (scoped_writeStats (hfound r rfl).1 stats) fun _ _ => scoped_pure trivial

/-! ## The calls of an execution -/

/-- A call that storage answers for the actor alone: entries are made under the actor, a run that is
stored has an id of its own, and so has the workflow whose statistics change. -/
def OnBehalf (actor : String) (hidden : Database) : Call → Prop
  | .audit name _ _ => name = actor
  | .saveRun _ _ run => hidden.Lacks .executions run.id
  | .updateStats workflowId _ _ => hidden.Lacks .workflows workflowId
  | _ => True

/-- What storage answers a call with is scoped to the actor. -/
theorem answerTo_scoped (hactor : actor ≠ "") (hhidden : hidden.AllHidden actor) {c : Call}
    (hc : OnBehalf actor hidden c) {work : Storage c.Reply} (hwork : answerTo actor c = some work) :
    Scoped actor hidden rowId work fun _ => True := by
  cases c with
  | updateRecord id patch =>
    cases hwork
    exact scoped_patchLead hactor hhidden id patch
  | scheduleMessage leads content due =>
    cases hwork
    exact scoped_queueMessages leads content due
  | getTemplate id =>
    cases hwork
    exact scoped_findTemplate hhidden id
  | audit name action details =>
    obtain rfl : name = actor := hc
    cases hwork
    exact scoped_appendAudit _ _
  | saveRun workflowId leadId run =>
    cases hwork
    exact scoped_saveRun workflowId leadId hc
  | updateStats workflowId runs hours =>
    cases hwork
    exact scoped_foldRuns hc _ _
  | sendMessage address content tracking leadId => cases hwork
  | generate lead brief => cases hwork

end Scoped

end LeadFlow.Storage
