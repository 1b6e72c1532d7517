import LeadFlow.Proofs.Service.Bookkeeping
import LeadFlow.Proofs.Storage.Fresh
import LeadFlow.Proofs.Workflow.Decoding

set_option autoImplicit false

/-!
# Service: stored definitions that do not decode

A request that needs a stored workflow whose definition does not decode is turned down with 422, as what
cannot be processed.  The exception is the one fault that decoding has besides: a fallback that cannot be
looked up is not seen as a wrong definition, and the request fails with 500.

Main statement: `definitions_turned_down`.
-/

namespace LeadFlow

namespace Storage

/-- The workflows that a listing shows an owner, in order. -/
def listingFor (owner : String) : Selection WorkflowRow :=
  ⟨WorkflowRow.isVisible owner, some (newestBy (·.updatedAt)), listingLimit⟩

/-- A listing in a new session is read as its rows decode. -/
theorem runIn_listWorkflows_begin (around : Surroundings) {db : Database} (issued : Nat) (owner : String)
    {rows : List WorkflowRow} (hrows : db.rows .workflows = .ok rows) :
    (listWorkflows owner listingLimit).runIn around (.begin db issued) =
      (((listingFor owner).apply rows).mapM WorkflowRow.workflow, { Session.begin db issued with
        held := (Session.begin db issued).held.set .workflows ((listingFor owner).apply rows) }) := by
  have hselect := runIn_select_unheld (t := .workflows) around (listingFor owner)
    (s := .begin db issued) rfl (held_begin db issued .workflows) hrows
  unfold listWorkflows
  change (select .workflows (listingFor owner) >>= fun rs => found (rs.mapM WorkflowRow.workflow)).runIn around
    (.begin db issued) = _
  rw [runIn_bind_of_ok hselect]
  exact runIn_found _ around _

/-- A stored definition ends decoding as any definition does. -/
theorem WorkflowRow.workflow_ends (r : WorkflowRow) :
    match Workflow.lookupFault? r.definition with
    | some f => r.workflow = .error f
    | none => (∃ w, r.workflow = .ok w) ∨ ∃ is, r.workflow = .error (Workflow.invalid r.id is) := by
  have hfault : (Workflow.ofFields r.definition (pure r.createdAt)).fault? =
      Workflow.lookupFault? r.definition := Workflow.fault?_ofFields _ rfl
  rw [← hfault]
  exact Decode.Checked.toOutcome_of_fault? _ _

end Storage

namespace Service

open Execution Storage

variable {τ σ : Type}

/-- The request of an actor to an endpoint takes decoding a stored workflow, and all others that it
takes before decode. -/
inductive Setup.Needs (u : Setup τ σ) (r : Request) (actor : String) (rows : List WorkflowRow)
    (row : WorkflowRow) : Endpoint → Prop where
  | execute {id : String} {order : Order} (asked : Setup.orderOf r = .ok (actor, order))
      (found : (rows.find? fun q => q.id == id && q.isVisible actor) = some row) :
      Needs u r actor rows row (.execute id)
  | nodes {id : String} {window : Option Int} (asks : r.actor? = some actor)
      (asked : countIn r.target "window" 5000 = .ok window)
      (found : (rows.find? fun q => q.id == id && q.isVisible actor) = some row) :
      Needs u r actor rows row (.nodes id)
  | triggers {id : String} (asks : r.actor? = some actor)
      (found : (rows.find? fun q => q.id == id && q.isVisible actor) = some row) :
      Needs u r actor rows row (.triggers id)
  | summary {before after : List WorkflowRow} (asks : r.actor? = some actor)
      (listed : (listingFor actor).apply rows = before ++ row :: after)
      (before_decode : ∀ q ∈ before, ∃ w, q.workflow = .ok w) :
      Needs u r actor rows row .summary

/-- The fault of a stored definition says which of the two it is. -/
theorem faultStatus_workflow {row : WorkflowRow} {f : Fault} (hrow : row.workflow = .error f) :
    faultStatus f = if Workflow.lookupFault? row.definition = none then 422 else 500 := by
  have hends := row.workflow_ends
  rw [hrow] at hends
  split at hends <;> rename_i hfault
  · obtain rfl := Except.error.inj hends
    have hkind := Workflow.kind_of_lookupFault? hfault
    rw [hfault]
    simp [faultStatus, hkind, FaultKind.status?, FaultKind.isValueFault]
  · obtain ⟨w, hw⟩ | ⟨is, his⟩ := hends
    · cases hw
    · obtain rfl := Except.error.inj his
      rw [hfault]
      rfl

section Needing

variable {u : Setup τ σ} {r : Request} {actor : String} {d : Deployment (Hosts τ σ)}
  {rows : List WorkflowRow} {row : WorkflowRow} {f : Fault}

/-- A view that faults is turned down. -/
theorem view_of_error {α β : Type} {page : Decode.Checked β} {wanted : β} {p : String → β → Storage α}
    (content : α → Outcome Value) {s : Session} (hactor : r.actor? = some actor) (hpage : page = .ok wanted)
    (hp : (p actor wanted).runIn ⟨d.now, u.rowId⟩ (.begin d.database d.rowsIssued) = (.error f, s)) :
    u.view r d page p content = .error (.fault f) :=
  view_of_fst content hactor hpage (transact_fst_of_error hp)

theorem runIn_findWorkflow_error (hrows : d.database.rows .workflows = .ok rows) {id : String}
    (hrow : (rows.find? fun q => q.id == id && q.isVisible actor) = some row)
    (hbad : row.workflow = .error f) (around : Surroundings) :
    ∃ s, (findWorkflow actor id).runIn around (.begin d.database d.rowsIssued) = (.error f, s) := by
  obtain ⟨s, hs, -⟩ :=
    runIn_findWorkflow_begin around d.rowsIssued hrows hrow
  exact ⟨s, by rw [hs, hbad]⟩

/-- A listing faults as the first workflow in it that does not decode. -/
theorem runIn_listWorkflows_error (hrows : d.database.rows .workflows = .ok rows)
    {before after : List WorkflowRow} (hlisted : (listingFor actor).apply rows = before ++ row :: after)
    (hbefore : ∀ q ∈ before, ∃ w, q.workflow = .ok w) (hbad : row.workflow = .error f)
    (around : Surroundings) :
    ∃ s, (listWorkflows actor listingLimit).runIn around (.begin d.database d.rowsIssued) = (.error f, s) := by
  have hlist := runIn_listWorkflows_begin around d.rowsIssued actor hrows
  rw [hlisted, mapM_eq_error hbefore hbad] at hlist
  exact ⟨_, hlist⟩

variable [Timeline τ]

/-- An execution of a workflow that does not decode faults. -/
theorem execute_of_error (hrows : d.database.rows .workflows = .ok rows) {id : String} {order : Order}
    (hasked : Setup.orderOf r = .ok (actor, order))
    (hrow : (rows.find? fun q => q.id == id && q.isVisible actor) = some row)
    (hbad : row.workflow = .error f) : (u.execute r id d).1 = .error (.fault f) := by
  obtain ⟨desk, hdesk⟩ : ∃ desk, u.desk actor order.sender = desk := ⟨_, rfl⟩
  have hactor : desk.context.actor = actor := hdesk ▸ rfl
  obtain ⟨x, hx⟩ : ∃ x, desk.within (desk.chosen id order.leads) d.journey = x := ⟨_, rfl⟩
  obtain ⟨s, hs⟩ := runIn_findWorkflow_error hrows hrow hbad ⟨d.journey (τ := τ) |>.now, desk.rowId⟩
  have hchosen : (desk.chosen id order.leads).runIn ⟨d.journey (τ := τ) |>.now, desk.rowId⟩
      (.begin d.database d.rowsIssued) = (.error f, s) := by
    unfold Desk.chosen
    rw [hactor]
    exact runIn_bind_of_error hs _
  have hfirst : x.1 = .error f := by
    rw [← hx]
    exact congrArg Prod.fst hchosen
  obtain ⟨o, j⟩ := x
  obtain rfl : o = .error f := hfirst
  have hexecute : d.execute desk id order.leads = (.error f, d.after j false) := by
    unfold Deployment.execute Desk.execute
    rw [hx]
  unfold Setup.execute
  rw [hasked]
  dsimp only
  rw [hdesk, hexecute]
  rfl

/-- A request that needs a definition that does not decode is turned down with the fault of decoding. -/
theorem handle_of_error {endpoint : Endpoint} (hrows : d.database.rows .workflows = .ok rows)
    (hneeds : u.Needs r actor rows row endpoint) (hbad : row.workflow = .error f) :
    (u.handle r d endpoint).1 = .error (.fault f) := by
  cases hneeds with
  | execute asked found =>
    unfold Setup.handle
    dsimp only
    rw [execute_of_error hrows asked found hbad]
    rfl
  | nodes asks asked found =>
    obtain ⟨s, hs⟩ := runIn_findWorkflow_error hrows found hbad ⟨d.now, u.rowId⟩
    unfold Setup.handle Setup.nodes
    dsimp only
    rw [view_of_error _ asks asked (runIn_bind_of_error hs _)]
    rfl
  | triggers asks found =>
    obtain ⟨s, hs⟩ := runIn_findWorkflow_error hrows found hbad ⟨d.now, u.rowId⟩
    unfold Setup.handle Setup.triggers
    dsimp only
    rw [view_of_error _ asks rfl (runIn_bind_of_error hs _)]
    rfl
  | summary asks listed hbefore =>
    obtain ⟨s, hs⟩ := runIn_listWorkflows_error hrows listed hbefore hbad ⟨d.now, u.rowId⟩
    unfold Setup.handle Setup.summary
    dsimp only
    rw [view_of_error _ asks rfl (runIn_bind_of_error hs _)]
    rfl

/-- A definition decodes to a workflow or is refused with the list of its issues exactly if no fallback in
it is a list or an object; the first such fallback ends decoding with a fault of the wrong type.  A request
that needs a stored definition that does not decode is turned down: with 422 if it is refused, with 500 in
the other case. -/
theorem definitions_turned_down (u : Setup τ σ) :
    (∀ (now : Calendar.Moment) (definition : Fields),
      (((∃ w, Workflow.ofDefinition now (.object definition) = .ok w) ∨
          ∃ is, Workflow.ofDefinition now (.object definition) =
            .error (Workflow.invalid (Workflow.shownId definition) is)) ↔
        Workflow.lookupFault? definition = none) ∧
      ∀ f, Workflow.lookupFault? definition = some f →
        f.kind = .type ∧ Workflow.ofDefinition now (.object definition) = .error f) ∧
    ∀ (r : Request) (site : Site τ σ) (actor : String) (rows : List WorkflowRow) (row : WorkflowRow)
      (endpoint : Endpoint) (f : Fault),
      Destination.find u.settings r.method r.target.path = .endpoint endpoint →
      site.deployment.database.rows .workflows = .ok rows →
      u.Needs r actor rows row endpoint → row.workflow = .error f →
      (u.respond r site).1.status =
        if Workflow.lookupFault? row.definition = none then 422 else 500 := by
  refine ⟨fun now definition => ?_, fun r site actor rows row endpoint f hdest hrows hneeds hbad => ?_⟩
  · have hends := Workflow.ofDefinition_ends now definition
    cases hfault : Workflow.lookupFault? definition with
    | none =>
      rw [hfault] at hends
      exact ⟨⟨fun _ => rfl, fun _ => hends⟩, fun f hf => by cases hf⟩
    | some f =>
      rw [hfault] at hends
      have hkind := Workflow.kind_of_lookupFault? hfault
      refine ⟨⟨?_, fun hnone => by cases hnone⟩, fun f' hf' => ?_⟩
      · rintro (⟨w, hw⟩ | ⟨is, his⟩)
        · rw [hends] at hw
          cases hw
        · -- a refusal is of another kind than the fault
          rw [hends] at his
          obtain rfl := Except.error.inj his
          cases hkind
      · obtain rfl := Option.some.inj hf'
        exact ⟨hkind, hends⟩
  · obtain ⟨id, hstatus, -⟩ := respond_eq u r site
    have hanswer : (u.answer r site.deployment).1 = .error (.fault f) := by
      unfold Setup.answer
      rw [hdest]
      exact handle_of_error hrows hneeds hbad
    rw [hstatus, hanswer]
    exact faultStatus_workflow hbad

end Needing

/-! ## A list for a fallback -/

/-- A stored workflow with an action whose fallback is the empty list. -/
def listFallback : WorkflowRow :=
  { workflowOf "user-1" "flow-1" with
    steps := .list [.object [("id", .str "s1"), ("type", .str "action"),
      ("config", .object [("fallbackAction", .list [])])]] }

/-- A request of `user-1` for the figures of its workflow. -/
def figuresOfUser : Request :=
  ⟨"GET", ⟨"/api/v1/analytics/workflows/flow-1/nodes", []⟩, [("x-actor-id", "user-1")], ""⟩

/-- The list is a fault, not an issue, and the request for the figures fails with 500. -/
theorem definitions_turned_down_listFallback :
    Workflow.ofDefinition ⟨0, none, false⟩ (.object listFallback.definition) =
        .error (.of .type "unhashable type: 'list'") ∧
      (plainSetup.respond figuresOfUser (siteWith [] [listFallback])).1.status = 500 := by
  obtain ⟨hdecoded, hanswered⟩ := definitions_turned_down plainSetup
  have hfault : Workflow.lookupFault? listFallback.definition =
      some (.of .type "unhashable type: 'list'") := rfl
  refine ⟨((hdecoded ⟨0, none, false⟩ listFallback.definition).2 _ hfault).2, ?_⟩
  have hstatus := hanswered figuresOfUser (siteWith [] [listFallback]) "user-1" [listFallback] listFallback
    (.nodes "flow-1") (.of .type "unhashable type: 'list'") (by decide +kernel) rfl
    (.nodes (by decide +kernel) (rfl : countIn _ _ _ = .ok none) rfl) rfl
  rw [hstatus, hfault]
  rfl

end Service

end LeadFlow
