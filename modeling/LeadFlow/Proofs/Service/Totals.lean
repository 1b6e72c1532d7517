import LeadFlow.Proofs.Service.LogPage
import LeadFlow.Proofs.Service.Malformed

set_option autoImplicit false

/-!
# Service: the totals of an actor

The summary of an actor is made from a listing of its workflows and from its runs.  A listing ends at its
limit, so the workflows that were changed last are in the summary and the others are not.  The runs are
counted in full, also those of workflows that are left out.

Main statement: `summary_totals`.
-/

namespace LeadFlow

namespace Analytics

/-- The totals do not depend on the order of workflows and runs. -/
theorem summary_perm {ws ws' : List Workflow} {runs runs' : List Run} (hws : ws.Perm ws')
    (hruns : runs.Perm runs') : summary ws runs = summary ws' runs' := by
  have hleads : (ws.map (·.stats.leadsProcessed)).foldr (· + ·) 0 =
      (ws'.map (·.stats.leadsProcessed)).foldr (· + ·) 0 := (hws.map _).sum_eq
  have hsuccesses : successes runs = successes runs' := hruns.countP_eq _
  unfold summary
  rw [hws.length_eq, hws.countP_eq, hruns.length_eq, hleads, hsuccesses]

end Analytics

namespace Storage

open Analytics

/-! ## Totals of stored rows -/

/-- The totals over all workflows of an actor that have not been deleted, and over all runs stored under
the actor. -/
def totalsOf (actor : String) (workflows : List WorkflowRow) (executions : List ExecutionRow) :
    Outcome Summary := do
  let ws ← (workflows.filter fun r => r.ownerId == actor && !r.isDeleted).mapM WorkflowRow.workflow
  let runs ← (executions.filter fun r => r.actor == actor).mapM ExecutionRow.run
  return summary ws runs

section Totals

variable {actor : String} {workflows : List WorkflowRow} {executions : List ExecutionRow}

theorem totalsOf_eq_ok_iff {totals : Summary} :
    totalsOf actor workflows executions = .ok totals ↔ ∃ ws runs,
      (workflows.filter fun r => r.ownerId == actor && !r.isDeleted).mapM WorkflowRow.workflow = .ok ws ∧
      (executions.filter fun r => r.actor == actor).mapM ExecutionRow.run = .ok runs ∧
      summary ws runs = totals := by
  unfold totalsOf
  cases (workflows.filter fun r => r.ownerId == actor && !r.isDeleted).mapM WorkflowRow.workflow with
  | error f => simp [bind, Except.bind]
  | ok ws =>
    cases (executions.filter fun r => r.actor == actor).mapM ExecutionRow.run with
    | error f => simp [bind, Except.bind]
    | ok runs => simp [bind, Except.bind, pure, Except.pure]

/-- An actor sees its own workflows that have not been deleted. -/
theorem isVisible_eq (hactor : actor ≠ "") :
    WorkflowRow.isVisible actor = fun r => r.ownerId == actor && !r.isDeleted := by
  funext r
  rw [WorkflowRow.isVisible, ownedBy, beq_eq_false_iff_ne.mpr hactor, Bool.false_or]

/-- All that is listed for an actor is its own. -/
theorem filter_listingFor (hactor : actor ≠ "") (workflows : List WorkflowRow) :
    ((listingFor actor).apply workflows).filter (fun r => r.ownerId == actor && !r.isDeleted) =
      (listingFor actor).apply workflows := by
  rw [← isVisible_eq hactor]
  exact List.filter_eq_self.mpr fun r hr => (Selection.mem_apply hr).2

/-- What is listed for an actor are its first workflows, in some order, up to the limit. -/
theorem exists_listed (hactor : actor ≠ "") {ws : List Workflow}
    (hws : (workflows.filter fun r => r.ownerId == actor && !r.isDeleted).mapM WorkflowRow.workflow = .ok ws) :
    ∃ ws' : List Workflow, ws'.Perm ws ∧
      ((listingFor actor).apply workflows).mapM WorkflowRow.workflow = .ok (ws'.take 200) := by
  rw [← isVisible_eq hactor] at hws
  obtain ⟨ws', hlist, hperm⟩ := exists_mapM_of_perm hws
    (Selection.apply_perm (WorkflowRow.isVisible actor) (some (newestBy (·.updatedAt))) workflows)
  have htake : (listingFor actor).apply workflows = List.take 200 _ :=
    Selection.apply_take (WorkflowRow.isVisible actor) (some (newestBy (·.updatedAt))) 200 workflows
  rw [htake]
  exact ⟨ws', hperm, mapM_eq_ok_iff.mpr (List.forall₂_take 200 (mapM_eq_ok_iff.mp hlist))⟩

/-- If there are not too many runs, all of them are listed. -/
theorem exists_listedRuns {runs : List Run}
    (hruns : (executions.filter fun r => r.actor == actor).mapM ExecutionRow.run = .ok runs)
    (hfew : runs.length ≤ 5000) :
    ∃ runs' : List Run, runs'.Perm runs ∧ ((runsFor actor "" 5000).apply executions).mapM ExecutionRow.run = .ok runs' := by
  have hmine : (executions.filter fun r => r.actor == actor) =
      executions.filter (ExecutionRow.isOf actor "") := by
    congr 1
    funext r
    simp [ExecutionRow.isOf]
  rw [hmine] at hruns
  obtain ⟨runs', hlist, hperm⟩ := exists_mapM_of_perm hruns (runsFor_perm actor "" executions)
  refine ⟨runs', hperm, ?_⟩
  have htake : (runsFor actor "" 5000).apply executions = List.take 5000 _ :=
    runsFor_take actor "" 5000 executions
  rw [htake, List.take_of_length_le]
  · exact hlist
  · rw [(mapM_eq_ok_iff.mp hlist).length_eq, hperm.length_eq]
    exact hfew

end Totals

end Storage

namespace Service

open Analytics Storage

variable {τ σ : Type} {u : Setup τ σ} {r : Request} {actor : String} {workflows : List WorkflowRow}
  {executions : List ExecutionRow}

/-! ## The summary -/

/-- The summary is made from the workflows that are listed and the runs that are listed. -/
theorem transact_summaryView {d : Deployment (Hosts τ σ)} {ws : List Workflow} {runs : List Run}
    (hworkflows : d.database.rows .workflows = .ok workflows)
    (hexecutions : d.database.rows .executions = .ok executions)
    (hws : ((listingFor actor).apply workflows).mapM WorkflowRow.workflow = .ok ws)
    (hruns : ((runsFor actor "" 5000).apply executions).mapM ExecutionRow.run = .ok runs) :
    (d.transact u.rowId (summaryView actor)).1 = .ok (summary ws runs) := by
  have hlist := runIn_listWorkflows_begin ⟨d.now, u.rowId⟩ d.rowsIssued actor hworkflows
  rw [hws] at hlist
  obtain ⟨s, hread, halive⟩ := runIn_listRuns_unheld ⟨d.now, u.rowId⟩ actor "" 5000
    (s := { Session.begin d.database d.rowsIssued with
      held := (Session.begin d.database d.rowsIssued).held.set .workflows ((listingFor actor).apply workflows) })
    rfl rfl hexecutions
  rw [hruns] at hread
  have hview : (summaryView actor).runIn ⟨d.now, u.rowId⟩ (.begin d.database d.rowsIssued) =
      (.ok (summary ws runs), s) := by
    unfold summaryView
    rw [runIn_bind_of_ok hlist]
    exact runIn_bind_of_ok hread _
  exact transact_fst_of_alive hview halive

/-- The summary of an actor shows the totals of its listing: all runs, but of the workflows only those that
were changed last, up to two hundred.  These are the totals of the actor exactly if it has no more. -/
theorem summary_totals [Timeline τ] (site : Site τ σ)
    (hendpoint : Destination.find u.settings r.method r.target.path = .endpoint .summary)
    (hactor : r.actor? = some actor)
    (hworkflows : site.deployment.database.rows .workflows = .ok workflows)
    (hexecutions : site.deployment.database.rows .executions = .ok executions) {totals : Summary}
    (htotals : totalsOf actor workflows executions = .ok totals) (hfew : totals.executions ≤ 5000) :
    ∃ shown id, (u.respond r site).1 = ⟨200, some (.object shown.toFields), id⟩ ∧
      totalsOf actor ((listingFor actor).apply workflows) executions = .ok shown ∧
      shown.workflows = min 200 totals.workflows ∧ shown.executions = totals.executions ∧
      shown.successRate = totals.successRate ∧ (shown = totals ↔ totals.workflows ≤ 200) := by
  have hname := actor_ne_empty hactor
  obtain ⟨ws, runs, hws, hruns, rfl⟩ := totalsOf_eq_ok_iff.mp htotals
  obtain ⟨ws', hperm, hlist⟩ := exists_listed hname hws
  obtain ⟨runs', hrunsPerm, hlistRuns⟩ := exists_listedRuns hruns hfew
  have hview := transact_summaryView (u := u) hworkflows hexecutions hlist hlistRuns
  rw [summary_perm (.refl _) hrunsPerm] at hview
  obtain ⟨id, hresponse⟩ := respond_endpoint hendpoint (by decide) site
  have hsummary : u.summary r site.deployment = .ok (.object (summary (ws'.take 200) runs).toFields) := by
    unfold Setup.summary
    rw [view_of_fst _ hactor rfl hview]
    rfl
  have hcount : (summary (ws'.take 200) runs).workflows = min 200 (summary ws runs).workflows := by
    rw [← summary_perm hperm (.refl runs)]
    exact List.length_take
  refine ⟨summary (ws'.take 200) runs, id, ?_, ?_, hcount, rfl, rfl, fun hsame => ?_, fun hall => ?_⟩
  · rw [hresponse]
    change u.responseFor id (some <$> u.summary r site.deployment) = _
    rw [hsummary]
    rfl
  · refine totalsOf_eq_ok_iff.mpr ⟨_, runs, ?_, hruns, rfl⟩
    rw [filter_listingFor hname]
    exact hlist
  · rw [hsame] at hcount
    omega
  · have hlength : ws'.length ≤ 200 := hperm.length_eq ▸ hall
    rw [List.take_of_length_le hlength]
    exact summary_perm hperm (.refl runs)

/-! ## One workflow too many -/

/-- More workflows of `user-1` than a listing has. -/
def manyWorkflows : List WorkflowRow := (List.range 201).map fun n => workflowOf "user-1" s!"flow-{n}"

/-- A site with these workflows and two runs. -/
def siteWithMany : Site Float Unit :=
  let site := siteWith [] manyWorkflows
  { site with deployment := { site.deployment with
      database := site.deployment.database.withRows .executions executionsOfUser } }

/-- A request of `user-1` for its totals. -/
def totalsOfUser : Request :=
  ⟨"GET", ⟨"/api/v1/analytics/summary", []⟩, [("x-actor-id", "user-1")], ""⟩

/-- Of 201 workflows, the summary shows 200. -/
theorem summary_totals_tooMany :
    totalsOf "user-1" manyWorkflows executionsOfUser = .ok ⟨201, 201, 2, 0, 100⟩ ∧
      ∃ (shown : Summary) (id : String), (plainSetup.respond totalsOfUser siteWithMany).1 = ⟨200, some (.object shown.toFields), id⟩ ∧
        shown.workflows = 200 ∧ shown.executions = 2 := by
  have htotals : totalsOf "user-1" manyWorkflows executionsOfUser = .ok ⟨201, 201, 2, 0, 100⟩ := by
    decide +kernel
  obtain ⟨shown, id, hresponse, -, hworkflows, hexecutions, -⟩ := summary_totals (u := plainSetup)
    (r := totalsOfUser) siteWithMany (by decide +kernel) (by decide +kernel) rfl rfl htotals (by decide)
  exact ⟨htotals, shown, id, hresponse, hworkflows, hexecutions⟩

end Service

end LeadFlow
