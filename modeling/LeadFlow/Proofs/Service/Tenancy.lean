import LeadFlow.Proofs.Execution.Viewed
import LeadFlow.Proofs.Storage.Fresh
import LeadFlow.Proofs.Storage.Isolation
import LeadFlow.Service.Handler
import Mathlib.Data.List.Nodup

set_option autoImplicit false

/-!
# Service: actors apart from each other

A request sees of the stored data what its actor is shown, and leaves the rest alone: of two sites
that differ in hidden rows only, both give the same response and are left with the same shown rows.
That takes every query on the way, the whole engine, and the end of the session, in which all is kept
or none.

Main statement: `respond_isolated`.
-/

namespace LeadFlow.Service

open Execution Storage

variable {τ σ : Type}

/-! ## Sites as an actor sees them -/

/-- The deployment as the actor sees it. -/
def shownOf {ω : Type} (actor : String) (d : Deployment ω) : Deployment ω :=
  { d with database := d.database.shownTo actor }

/-- The site as the actor sees it: the same, without the hidden rows. -/
def Site.shownTo (actor : String) (site : Site τ σ) : Site τ σ :=
  { site with deployment := shownOf actor site.deployment }

/-- The rows of a site that are hidden from the actor. -/
def Site.hiddenFrom (actor : String) (site : Site τ σ) : Database :=
  site.deployment.database.hiddenFrom actor

/-- No two rows of a table have one id, and no id that is still to be handed out is taken. -/
structure Keyed {ω : Type} (u : Setup τ σ) (d : Deployment ω) : Prop where
  unique : ∀ t rows, d.database.tables.get t = some rows → (rows.map t.idOf).Nodup
  rowIds : ∀ t n, d.rowsIssued ≤ n → d.database.Lacks t (u.rowId n)
  runIds : ∀ n, d.runsIssued ≤ n → d.database.Lacks .executions (u.runId n)

/-- Who acts has an id that is not empty. -/
theorem actor_ne_empty {r : Request} {actor : String} (h : r.actor? = some actor) : actor ≠ "" := by
  unfold Request.actor? Request.header? at h
  have hsaid := (Option.filter_eq_some_iff.mp h).2
  simpa using hsaid

section Beside

variable {u : Setup τ σ} {ω : Type} {d : Deployment ω}

theorem lacks_hidden {db : Database} {t : TableName} {id : String} (h : db.Lacks t id)
    (actor : String) : (db.hiddenFrom actor).Lacks t id := by
  intro rows hrows r hr
  simp only [Database.hiddenFrom, Database.narrowed, PerTable.get_map, Option.map_eq_some_iff] at hrows
  obtain ⟨whole, hwhole, rfl⟩ := hrows
  exact h whole hwhole r (List.mem_filter.mp hr).1

/-- A hidden row of the same id would be the shown row itself. -/
theorem beside_of_unique {db : Database}
    (h : ∀ t rows, db.tables.get t = some rows → (rows.map t.idOf).Nodup) (actor : String) :
    db.Beside actor (db.hiddenFrom actor) := by
  refine ⟨rfl, fun t rows hrows r hr hshown hiddenRows hhidden q hq hid => ?_⟩
  simp only [Database.hiddenFrom, Database.narrowed, PerTable.get_map, hrows, Option.map_some,
    Option.some.injEq] at hhidden
  subst hhidden
  obtain ⟨hq, hnot⟩ := List.mem_filter.mp hq
  obtain rfl : q = r := List.inj_on_of_nodup_map (h t rows hrows) hq hr hid
  simp [hshown] at hnot

/-- A session that is begun for a request lies beside the hidden rows. -/
theorem begin_beside (h : Keyed u d) (actor : String) :
    (Session.begin d.database d.rowsIssued).Beside actor (d.database.hiddenFrom actor) u.rowId := by
  have hdatabase := beside_of_unique h.unique actor
  refine ⟨hdatabase, hdatabase, fun t r hr => ?_, fun t n hn => lacks_hidden (h.rowIds t n hn) actor⟩
  cases t <;> cases hr

/-! ## Views -/

/-- Whether a session can be committed does not hang on the hidden rows. -/
theorem commit_shown (actor : String) (s : Session) :
    (s.shownTo actor).commit = s.commit.map (Database.shownTo actor) := by
  unfold Session.commit Session.shownTo
  cases s.failure <;> rfl

/-- Scoped work in a transaction of its own comes to the same without the hidden rows. -/
theorem transact_shown {α : Type} (h : Keyed u d) {actor : String} {p : Storage α} {good : α → Prop}
    (hp : Scoped actor (d.database.hiddenFrom actor) u.rowId p good) :
    ((shownOf actor d).transact u.rowId p).1 = (d.transact u.rowId p).1 := by
  obtain ⟨-, hshown, -⟩ := hp d.now _ (begin_beside h actor)
  have hbegin : p.runIn ⟨d.now, u.rowId⟩ (.begin (d.database.shownTo actor) d.rowsIssued) = _ := hshown
  change (Storage.transact p ⟨d.now, u.rowId⟩ (d.database.shownTo actor) d.rowsIssued).1 =
    (Storage.transact p ⟨d.now, u.rowId⟩ d.database d.rowsIssued).1
  rw [transact_fst, transact_fst, hbegin]
  dsimp only
  rw [commit_shown]
  cases (p.runIn ⟨d.now, u.rowId⟩ (.begin d.database d.rowsIssued)).2.commit <;> rfl

end Beside

section View

variable {α β : Type} {u : Setup τ σ} {r : Request} {actor : String} {d : Deployment (Hosts τ σ)}

/-- A view for an actor is its work for what is asked of the page. -/
theorem view_eq (hactor : r.actor? = some actor) (page : Decode.Checked β) (p : String → β → Storage α)
    (content : α → Outcome Value) :
    u.view r d page p content = handled page >>= fun wanted => u.viewed d (p actor wanted) content := by
  have hactorOf : Setup.actorOf r = .ok actor := by simp [Setup.actorOf, hactor]
  unfold Setup.view
  rw [hactorOf]
  rfl

/-- A view shows what its work comes to. -/
theorem view_of_fst {page : Decode.Checked β} {wanted : β} {p : String → β → Storage α} {o : Outcome α}
    (content : α → Outcome Value) (hactor : r.actor? = some actor) (hpage : page = .ok wanted)
    (hp : (d.transact u.rowId (p actor wanted)).1 = o) :
    u.view r d page p content = settled (o.bind content) := by
  rw [view_eq hactor, hpage, ← hp]
  rfl

/-- Whatever an actor views is scoped to it. -/
theorem view_shown (hactor : r.actor? = some actor) (h : Keyed u d) (page : Decode.Checked β)
    {p : String → β → Storage α} (content : α → Outcome Value)
    (hp : ∀ wanted, Scoped actor (d.database.hiddenFrom actor) u.rowId (p actor wanted) fun _ => True) :
    u.view r (shownOf actor d) page p content = u.view r d page p content := by
  rw [view_eq hactor, view_eq hactor]
  cases handled page with
  | error e => rfl
  | ok wanted => exact congrArg (fun o => settled (o.bind content)) (transact_shown h (hp wanted))

end View

section Views

variable {u : Setup τ σ} {r : Request} {actor : String} {hidden : Database} {rowId : Nat → String}

theorem scoped_logView (hhidden : hidden.AllHidden actor) (workflowId : String) (limit : Int) :
    Scoped actor hidden rowId (logView actor workflowId limit) fun _ => True :=
  Scoped.bind (scoped_listRuns hhidden workflowId limit) fun _ _ => scoped_found fun _ _ => trivial

variable (hactor : actor ≠ "") (hhidden : hidden.AllHidden actor)

include hactor hhidden

theorem scoped_nodesView (workflowId : String) (window : Int) :
    Scoped actor hidden rowId (nodesView actor workflowId window) fun _ => True := by
  refine Scoped.bind (scoped_findWorkflow hactor hhidden workflowId) fun _ _ => ?_
  exact Scoped.bind (scoped_listRuns hhidden workflowId window) fun _ _ =>
    scoped_found fun _ _ => trivial

theorem scoped_triggersView (workflowId zoneName : String) (window : Int) :
    Scoped actor hidden rowId (triggersView actor workflowId zoneName window) fun _ => True := by
  refine Scoped.bind (scoped_findWorkflow hactor hhidden workflowId) fun w _ => ?_
  refine Scoped.bind (scoped_listRuns hhidden workflowId window) fun runs _ => ?_
  refine Scoped.bind (scoped_found fun _ _ => trivial) fun zone (_ : True) => ?_
  exact Scoped.bind scoped_read fun _ _ => scoped_found fun _ _ => trivial

theorem scoped_summaryView : Scoped actor hidden rowId (summaryView actor) fun _ => True := by
  refine Scoped.bind (scoped_listWorkflows hactor hhidden listingLimit) fun ws _ => ?_
  exact Scoped.bind (scoped_listRuns hhidden "" summaryLimit) fun runs _ => scoped_pure trivial

end Views

/-! ## Executions -/

section Executing

variable [Timeline τ] {ω : Type} {actor : String} {hidden : Database}

/-- The session and the others, with the session as the actor sees it. -/
def shownWorld (actor : String) (world : Session × ω) : Session × ω := (world.1.shownTo actor, world.2)

/-- A step makes its calls on behalf of the actor. -/
theorem onBehalf_of_isOfStep {c : Call} (h : c.isOfStep actor) : OnBehalf actor hidden c := by
  cases c with
  | audit name action details =>
    have hname : (name == actor) = true := (Bool.and_eq_true_iff.mp h).1
    exact beq_iff_eq.mp hname
  | saveRun => cases h
  | updateStats => cases h
  | _ => trivial

/-- Storage and the others answer calls on behalf of an actor by what the actor is shown. -/
theorem backed_goesBy {rowId : Nat → String} (others : Outside calls τ ω) (hactor : actor ≠ "")
    (hhidden : hidden.AllHidden actor) :
    Program.GoesBy (I := calls) (backed actor rowId others) (shownWorld actor)
      (fun world => world.1.Beside actor hidden rowId) (OnBehalf actor hidden) := by
  have hboth : ∀ now (c : Call) (world : Session × ω), OnBehalf actor hidden c →
      world.1.Beside actor hidden rowId →
      backed actor rowId others now c (shownWorld actor world) =
          { backed actor rowId others now c world with
            world := shownWorld actor (backed actor rowId others now c world).world } ∧
        (backed actor rowId others now c world).world.1.Beside actor hidden rowId := by
    intro now c world hc hworld
    unfold backed
    cases hwork : answerTo actor c with
    | none => exact ⟨rfl, hworld⟩
    | some work =>
      obtain ⟨hbeside, hshown, -⟩ := answerTo_scoped hactor hhidden hc hwork now world.1 hworld
      refine ⟨?_, hbeside⟩
      dsimp only [shownWorld]
      rw [hshown]
  exact ⟨fun now c world hc hw => (hboth now c world hc hw).1,
    fun now c world hc hw => (hboth now c world hc hw).2⟩

omit [Timeline τ] in
/-- The workflow that is chosen for an execution has an id that no hidden one has. -/
theorem scoped_chosen {rowId : Nat → String} {desk : Desk τ ω} (hdesk : desk.context.actor = actor)
    (hactor : actor ≠ "") (hhidden : hidden.AllHidden actor) (workflowId : String) (q : LeadQuery) :
    Scoped actor hidden rowId (desk.chosen workflowId q) fun x => hidden.Lacks .workflows x.1.id := by
  unfold Desk.chosen
  rw [hdesk]
  refine Scoped.bind (scoped_findWorkflow hactor hhidden workflowId) fun w hw => ?_
  exact Scoped.bind (scoped_selectLeads hactor hhidden q) fun leads _ => scoped_pure hw

/-- An execution sees what its actor is shown, and leaves the hidden rows where they are. -/
theorem desk_execute_shown {desk : Desk τ ω} (hdesk : desk.context.actor = actor)
    (htask : desk.task = Registry.builtIn.task) (hactor : actor ≠ "")
    (hhidden : hidden.AllHidden actor) (workflowId : String) (q : LeadQuery)
    (j : Journey τ (Session × ω)) (hj : j.world.1.Beside actor hidden desk.rowId)
    (hruns : ∀ n, j.issued ≤ n → hidden.Lacks .executions (desk.runId n)) :
    desk.execute workflowId q (j.viewed (shownWorld actor)) =
        ((desk.execute workflowId q j).1,
          (desk.execute workflowId q j).2.viewed (shownWorld actor)) ∧
      (desk.execute workflowId q j).2.world.1.Beside actor hidden desk.rowId := by
  obtain ⟨hbeside, hshown, hgood⟩ :=
    scoped_chosen hdesk hactor hhidden workflowId q j.now j.world.1 hj
  have hwithin : ∀ {α : Type} (p : Storage α) (j : Journey τ (Session × ω)), desk.within p j =
      ((p.runIn ⟨j.now, desk.rowId⟩ j.world.1).1,
        { j with world := ((p.runIn ⟨j.now, desk.rowId⟩ j.world.1).2, j.world.2) }) := fun _ _ => rfl
  have hviewed : (desk.chosen workflowId q).runIn ⟨(j.viewed (shownWorld actor)).now, desk.rowId⟩
      (j.viewed (shownWorld actor)).world.1 = _ := hshown
  unfold Desk.execute
  rw [hwithin, hwithin, hviewed]
  obtain ⟨⟨o, s⟩, hx⟩ : ∃ x, (desk.chosen workflowId q).runIn ⟨j.now, desk.rowId⟩ j.world.1 = x :=
    ⟨_, rfl⟩
  rw [hx] at hbeside hgood ⊢
  cases o with
  | error f => exact ⟨rfl, hbeside⟩
  | ok x =>
    obtain ⟨w, leads⟩ := x
    have hworkflow : hidden.Lacks .workflows w.id := hgood _ rfl
    have hgoes : Program.GoesBy (I := calls) desk.engine.outside (shownWorld actor)
        (fun world => world.1.Beside actor hidden desk.rowId) (OnBehalf actor hidden) := by
      unfold Desk.engine
      rw [hdesk]
      exact backed_goesBy desk.others hactor hhidden
    have hsteps : ∀ step lead, (desk.engine.task step lead desk.engine.context).Asks
        (OnBehalf actor hidden) := by
      intro step lead
      have hasks := task_asks_isOfStep step lead desk.context
      rw [← htask, hdesk] at hasks
      exact hasks.asks fun c hc => onBehalf_of_isOfStep hc
    obtain ⟨j₁, hj₁⟩ : ∃ j₁ : Journey τ (Session × ω), { j with world := (s, j.world.2) } = j₁ := ⟨_, rfl⟩
    have hinv₁ : j₁.world.1.Beside actor hidden desk.rowId := hj₁ ▸ hbeside
    have hissued : j₁.issued = j.issued := hj₁ ▸ rfl
    obtain ⟨hsame, hinv⟩ := Engine.execute_viewed hgoes hsteps w leads j₁ hinv₁
      (fun n leadId run hn hid => by rw [OnBehalf, hid]; exact hruns n (hissued ▸ hn))
      (fun _ _ => hworkflow) (fun _ => hdesk)
    have hviewed₁ : { j.viewed (shownWorld actor) with
        world := (s.shownTo actor, (j.viewed (shownWorld actor)).world.2) } =
          j₁.viewed (shownWorld actor) := hj₁ ▸ rfl
    dsimp only
    rw [hviewed₁, hj₁, hsame]
    exact ⟨rfl, hinv⟩

variable {u : Setup τ σ} {d : Deployment ω}

/-- What lasts after an execution, for the actor, and what is hidden from it. -/
theorem deployment_execute_shown (h : Keyed u d) {desk : Desk τ ω}
    (hdesk : desk.context.actor = actor) (htask : desk.task = Registry.builtIn.task)
    (hrowId : desk.rowId = u.rowId) (hrunId : desk.runId = u.runId) (hactor : actor ≠ "")
    (workflowId : String) (q : LeadQuery) :
    (shownOf actor d).execute desk workflowId q =
        ((d.execute desk workflowId q).1, shownOf actor (d.execute desk workflowId q).2) ∧
      (d.execute desk workflowId q).2.database.hiddenFrom actor = d.database.hiddenFrom actor := by
  have hbegin : (d.journey : Journey τ _).world.1.Beside actor (d.database.hiddenFrom actor) desk.rowId := by
    rw [hrowId]
    exact begin_beside h actor
  obtain ⟨hsame, hbeside⟩ := desk_execute_shown hdesk htask hactor
    (Database.allHidden_hiddenFrom actor d.database) workflowId q d.journey hbegin
    fun n hn => by rw [hrunId]; exact lacks_hidden (h.runIds n hn) actor
  have hjourney : ((shownOf actor d).journey : Journey τ _) =
      (d.journey : Journey τ _).viewed (shownWorld actor) := rfl
  unfold Deployment.execute
  rw [hjourney, hsame]
  obtain ⟨⟨o, j⟩, hx⟩ : ∃ x, desk.execute workflowId q d.journey = x := ⟨_, rfl⟩
  rw [hx] at hbeside ⊢
  have hcommit := commit_shown actor j.world.1
  cases o with
  | error f => exact ⟨rfl, rfl⟩
  | ok batch =>
    dsimp only [Deployment.after, Course.viewed, shownWorld] at hbeside ⊢
    rw [hcommit]
    cases hdone : j.world.1.commit with
    | error f => exact ⟨rfl, rfl⟩
    | ok db =>
      refine ⟨rfl, ?_⟩
      obtain rfl : j.world.1.database = db := by
        unfold Session.commit at hdone
        split at hdone
        · cases hdone
        · exact Except.ok.inj hdone
      exact hbeside.database.others

end Executing

/-! ## Requests -/

section Requests

variable [Timeline τ] {u : Setup τ σ} {r : Request} {actor : String}

/-- Who gives an order is the actor of the request. -/
theorem actor_of_orderOf {order : Order} (h : Setup.orderOf r = .ok (actor, order)) :
    r.actor? = some actor := by
  obtain ⟨body, -, hrest⟩ := bind_eq_ok_iff.mp h
  obtain ⟨name, hname, hrest⟩ := bind_eq_ok_iff.mp hrest
  obtain ⟨order', -, hpair⟩ := bind_eq_ok_iff.mp hrest
  cases hpair
  unfold Setup.actorOf at hname
  split at hname <;> cases hname
  assumption

theorem execute_shown (hactor : r.actor? = some actor) (workflowId : String)
    {d : Deployment (Hosts τ σ)} (h : Keyed u d) :
    u.execute r workflowId (shownOf actor d) =
        ((u.execute r workflowId d).1, shownOf actor (u.execute r workflowId d).2) ∧
      (u.execute r workflowId d).2.database.hiddenFrom actor = d.database.hiddenFrom actor := by
  unfold Setup.execute
  cases horder : Setup.orderOf r with
  | error e => exact ⟨rfl, rfl⟩
  | ok x =>
    obtain ⟨name, order⟩ := x
    obtain rfl : actor = name := Option.some.inj (hactor.symm.trans (actor_of_orderOf horder))
    have hdesk : (u.desk actor order.sender).context.actor = actor := rfl
    obtain ⟨hsame, hhidden⟩ := deployment_execute_shown h hdesk rfl rfl rfl (actor_ne_empty hactor)
      workflowId order.leads
    dsimp only
    rw [hsame]
    dsimp only
    split
    · exact ⟨rfl, hhidden⟩
    · exact ⟨rfl, rfl⟩

/-- Every endpoint answers by what the actor is shown. -/
theorem handle_shown (hactor : r.actor? = some actor) {d : Deployment (Hosts τ σ)} (h : Keyed u d)
    (endpoint : Endpoint) :
    u.handle r (shownOf actor d) endpoint =
        ((u.handle r d endpoint).1, shownOf actor (u.handle r d endpoint).2) ∧
      (u.handle r d endpoint).2.database.hiddenFrom actor = d.database.hiddenFrom actor := by
  have hname := actor_ne_empty hactor
  have hhidden := Database.allHidden_hiddenFrom actor d.database
  cases endpoint with
  | health => exact ⟨rfl, rfl⟩
  | readiness => exact ⟨rfl, rfl⟩
  | docs => exact ⟨rfl, rfl⟩
  | log =>
    have hview : u.log r (shownOf actor d) = u.log r d :=
      view_shown hactor h _ _ fun _ => scoped_logView hhidden _ _
    unfold Setup.handle
    dsimp only
    rw [hview]
    exact ⟨rfl, rfl⟩
  | nodes id =>
    have hview : u.nodes r (shownOf actor d) id = u.nodes r d id :=
      view_shown hactor h _ _ fun _ => scoped_nodesView hname hhidden _ _
    unfold Setup.handle
    dsimp only
    rw [hview]
    exact ⟨rfl, rfl⟩
  | triggers id =>
    have hview : u.triggers r (shownOf actor d) id = u.triggers r d id :=
      view_shown hactor h _ _ fun _ => scoped_triggersView hname hhidden _ _ _
    unfold Setup.handle
    dsimp only
    rw [hview]
    exact ⟨rfl, rfl⟩
  | summary =>
    have hview : u.summary r (shownOf actor d) = u.summary r d :=
      view_shown hactor h _ _ fun _ => scoped_summaryView hname hhidden
    unfold Setup.handle
    dsimp only
    rw [hview]
    exact ⟨rfl, rfl⟩
  | execute id =>
    obtain ⟨hsame, hkept⟩ := execute_shown hactor id h
    unfold Setup.handle
    dsimp only
    rw [hsame]
    exact ⟨rfl, hkept⟩

/-- A request comes to the same without the hidden rows, and leaves them as they were. -/
theorem respond_shown (hactor : r.actor? = some actor) {site : Site τ σ} (h : Keyed u site.deployment) :
    u.respond r (site.shownTo actor) =
        ((u.respond r site).1, (u.respond r site).2.shownTo actor) ∧
      (u.respond r site).2.hiddenFrom actor = site.hiddenFrom actor := by
  have hanswer : u.answer r (shownOf actor site.deployment) =
        ((u.answer r site.deployment).1, shownOf actor (u.answer r site.deployment).2) ∧
      (u.answer r site.deployment).2.database.hiddenFrom actor = site.hiddenFrom actor := by
    unfold Setup.answer
    cases Destination.find u.settings r.method r.target.path with
    | endpoint e => exact handle_shown hactor h e
    | wrongMethod => exact ⟨rfl, rfl⟩
    | elsewhere => exact ⟨rfl, rfl⟩
    | nowhere => exact ⟨rfl, rfl⟩
  obtain ⟨hsame, hhidden⟩ := hanswer
  unfold Setup.respond
  have hdeployment : (site.shownTo actor).deployment = shownOf actor site.deployment := rfl
  have hissued : (site.shownTo actor).requestsIssued = site.requestsIssued := rfl
  rw [hdeployment, hissued, hsame]
  refine ⟨?_, hhidden⟩
  dsimp only
  rfl

/-- Actors are apart from each other.  Of two sites that are the same for an actor, hidden rows aside,
a request of the actor gets the same response, and leaves them the same for the actor; and it leaves the
hidden rows of each as they were. -/
theorem respond_isolated (hactor : r.actor? = some actor) {site site' : Site τ σ}
    (h : Keyed u site.deployment) (h' : Keyed u site'.deployment)
    (hsame : site.shownTo actor = site'.shownTo actor) :
    (u.respond r site).1 = (u.respond r site').1 ∧
      (u.respond r site).2.shownTo actor = (u.respond r site').2.shownTo actor ∧
      (u.respond r site).2.hiddenFrom actor = site.hiddenFrom actor ∧
      (u.respond r site').2.hiddenFrom actor = site'.hiddenFrom actor := by
  obtain ⟨hshown, hhidden⟩ := respond_shown hactor h
  obtain ⟨hshown', hhidden'⟩ := respond_shown hactor h'
  rw [hsame, hshown'] at hshown
  obtain ⟨hresponse, hsite⟩ := Prod.mk.inj hshown
  exact ⟨hresponse.symm, hsite.symm, hhidden, hhidden'⟩

end Requests

/-! ## Two actors -/

/-- The service with default settings and without a network. -/
def plainSetup : Setup Float Unit :=
  ⟨.default, ⟨Http.unreachable, Http.unreachable⟩, numbered "row", numbered "run", numbered "req"⟩

/-- A lead of an owner. -/
def leadOf (owner id : String) : LeadRow where
  id := id
  createdAt := ⟨0, none, false⟩
  updatedAt := ⟨0, none, false⟩
  ownerId := owner
  name := "Jane Doe"
  company := ""
  email := ""
  score := .float 40
  status := "New"
  insights := ""
  lastActivity := none
  knowledgeBase := .object []
  deletedAt := none
  isDeleted := false

/-- A workflow of an owner that sets the status of a lead. -/
def workflowOf (owner id : String) : WorkflowRow where
  id := id
  createdAt := ⟨0, none, false⟩
  updatedAt := ⟨0, none, false⟩
  ownerId := owner
  teamId := none
  name := "Nurture"
  description := ""
  status := "active"
  steps := .list [.object [("id", .str "s1"), ("title", .str "Contacted"), ("type", .str "action"),
    ("config", .object [("actionType", .str "update_status"), ("newStatus", .str "Contacted")])]]
  stats := .object []
  deletedAt := none
  isDeleted := false

/-- A site with these leads and workflows. -/
def siteWith (leads : List LeadRow) (workflows : List WorkflowRow) : Site Float Unit :=
  ⟨{ Deployment.fresh 1772611200000000 1000 ⟨Line.fresh (), Line.fresh (), .zero⟩ with
      database := (Database.empty.withRows .leads leads).withRows .workflows workflows }, 0⟩

/-- An order of `user-1` to execute its workflow for all its leads. -/
def orderOfUser : Request :=
  ⟨"POST", ⟨"/api/v1/workflows/flow-1/execute", []⟩,
    [("x-actor-id", "user-1"), ("content-type", "application/json")], "\x7b\x7d"⟩

/-- Stored ids that come from no supply and differ from each other. -/
theorem keyed_siteWith {leads : List LeadRow} {workflows : List WorkflowRow}
    (hleads : (leads.map (·.id)).Nodup) (hworkflows : (workflows.map (·.id)).Nodup)
    (hids : ∀ id ∈ leads.map (·.id) ++ workflows.map (·.id), ¬ "row".toList ++ ['-'] <+: id.toList) :
    Keyed plainSetup (siteWith leads workflows).deployment := by
  have hrow : ∀ n, ∀ id ∈ leads.map (·.id) ++ workflows.map (·.id), id ≠ numbered "row" n :=
    fun n id hid => (numbered_ne (hids id hid) n).symm
  refine ⟨fun t rows hrows => ?_, fun t n _ rows hrows r hr => ?_, fun n _ rows hrows r hr => ?_⟩
  · cases t <;> cases hrows <;> first | exact hleads | exact hworkflows | exact List.nodup_nil
  · cases t <;> cases hrows
    · exact hrow n _ (List.mem_append_left _ (List.mem_map_of_mem hr))
    · exact hrow n _ (List.mem_append_right _ (List.mem_map_of_mem hr))
    all_goals cases hr
  · cases hrows
    cases hr

/-- The order comes to the same, whether or not there are a lead and a workflow of `user-2`. -/
theorem respond_isolated_besideOthers :
    let site := siteWith [leadOf "user-2" "lead-2", leadOf "user-1" "lead-1"]
      [workflowOf "user-1" "flow-1", workflowOf "user-2" "flow-2"]
    let site' := siteWith [leadOf "user-1" "lead-1"] [workflowOf "user-1" "flow-1"]
    (plainSetup.respond orderOfUser site).1.status = 200 ∧
      (plainSetup.respond orderOfUser site).1 = (plainSetup.respond orderOfUser site').1 ∧
      (plainSetup.respond orderOfUser site).2.shownTo "user-1" =
        (plainSetup.respond orderOfUser site').2.shownTo "user-1" ∧
      (plainSetup.respond orderOfUser site).2.hiddenFrom "user-1" = site.hiddenFrom "user-1" := by
  intro site site'
  have hkeyed : Keyed plainSetup site.deployment :=
    keyed_siteWith (by decide) (by decide) (by decide)
  have hkeyed' : Keyed plainSetup site'.deployment :=
    keyed_siteWith (by decide) (by decide) (by decide)
  have hactor : orderOfUser.actor? = some "user-1" := by decide +kernel
  have hsame : site.shownTo "user-1" = site'.shownTo "user-1" := rfl
  obtain ⟨hresponse, hshown, hhidden, -⟩ := respond_isolated hactor hkeyed hkeyed' hsame
  exact ⟨by decide +kernel, hresponse, hshown, hhidden⟩

end LeadFlow.Service
