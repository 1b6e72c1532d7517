import LeadFlow.Proofs.Decode.Checked
import LeadFlow.Proofs.Service.Bookkeeping
import LeadFlow.Proofs.Storage.Selected

set_option autoImplicit false

/-!
# Service: the leads of an order

An order is executed for the leads that it asks for, and for no others.  Each of the leads has one result in
the response, and the results stand in the order of the leads.

Main statement: `order_selects`.
-/

namespace LeadFlow.Service

open Decode Execution Storage

/-! ## What an order asks for -/

/-- The lead is the actor's, has not been deleted, and meets the conditions of the filter. -/
def LeadFilter.admits (f : LeadFilter) (actor : String) (row : LeadRow) : Bool :=
  row.ownerId == actor && !row.isDeleted && (f.status.all fun s => s == "" || row.status == s) &&
    f.minScore.all fun m => (Num.float m).le row.score

/-- The leads that an order of an actor is for: those it names, or else the newest that its filter admits. -/
def Order.Selects (o : Order) (actor : String) (rows selected : List LeadRow) : Prop :=
  match o.leadIds with
  | some ids => Named actor ids rows selected
  | none => 1 ≤ o.filter.limit ∧ o.filter.limit ≤ 5000 ∧
      Newest (o.filter.admits actor) o.filter.limit.toNat rows selected

theorem wholeBetween_bounds {low high n : Int} {v : Value} (h : wholeBetween low high v = .ok n) :
    low ≤ n ∧ n ≤ high := by
  obtain ⟨m, -, hm⟩ := Checked.andThen_eq_ok h
  split at hm
  · cases hm
  · split at hm
    · cases hm
    · cases hm
      omega

theorem defaulted_eq_ok {α : Type} {fs : Fields} {name second : String} {default a : α} {d : Decoder α}
    (h : defaulted fs name second default d = .ok a) : a = default ∨ ∃ v, d v = .ok a := by
  unfold defaulted at h
  split at h
  · exact .inr ⟨_, Checked.under_eq_ok.mp h⟩
  · exact .inl (Checked.ok.inj h).symm

/-- A filter has a limit, which is neither below one nor above five thousand. -/
def LeadFilter.IsBounded (f : LeadFilter) : Prop := 1 ≤ f.limit ∧ f.limit ≤ 5000

theorem usual_bounded : 1 ≤ LeadFilter.usualLimit ∧ LeadFilter.usualLimit ≤ 5000 := by decide

theorem LeadFilter.bounded_of_decode {v : Value} {f : LeadFilter} (h : LeadFilter.decode v = .ok f) :
    f.IsBounded := by
  obtain ⟨fs, -, hfields⟩ := Checked.andThen_eq_ok h
  obtain ⟨withLimit, limit, hwithLimit, hlimit, rfl⟩ := Checked.seq_eq_ok hfields
  obtain ⟨withScore, minScore, hwithScore, -, rfl⟩ := Checked.seq_eq_ok hwithLimit
  obtain ⟨status, -, rfl⟩ := Checked.map_eq_ok hwithScore
  obtain rfl | ⟨v, hv⟩ := defaulted_eq_ok hlimit
  · exact usual_bounded
  · exact wholeBetween_bounds hv

theorem Order.bounded_of_decode {v : Value} {o : Order} (h : Order.decode v = .ok o) : o.filter.IsBounded := by
  obtain ⟨fs, -, hfields⟩ := Checked.andThen_eq_ok h
  obtain ⟨withSender, sender, hwithSender, -, rfl⟩ := Checked.seq_eq_ok hfields
  obtain ⟨withFilter, filter, hwithFilter, hfilter, rfl⟩ := Checked.seq_eq_ok hwithSender
  obtain ⟨ids, -, rfl⟩ := Checked.map_eq_ok hwithFilter
  obtain rfl | ⟨v, hv⟩ := defaulted_eq_ok hfilter
  · exact usual_bounded
  · exact LeadFilter.bounded_of_decode hv

theorem bounded_of_orderOf {r : Request} {actor : String} {o : Order} (h : Setup.orderOf r = .ok (actor, o)) :
    o.filter.IsBounded := by
  obtain ⟨body, -, hrest⟩ := bind_eq_ok_iff.mp h
  obtain ⟨name, -, hrest⟩ := bind_eq_ok_iff.mp hrest
  obtain ⟨order, horder, hpair⟩ := bind_eq_ok_iff.mp hrest
  cases hpair
  have hdecoded : orderIn body = .ok o := by
    unfold handled at horder
    split at horder <;> cases horder
    assumption
  have hdecoded := Checked.under_eq_ok.mp hdecoded
  cases body with
  | none => cases hdecoded
  | some v => exact Order.bounded_of_decode hdecoded

/-- Without named leads, the conditions of an order are those of its filter. -/
theorem admits_leads {o : Order} (hids : o.leadIds = none) {actor : String} (hactor : actor ≠ "") (row : LeadRow) :
    (row.isVisible actor && o.leads.admits row) = o.filter.admits actor row := by
  have hleads : o.leads.admits row =
      (((o.filter.status.filter (· != "")).map fun s => [s]).all (·.contains row.status) &&
        o.filter.minScore.all fun m => (Num.float m).le row.score) := by
    unfold Order.leads
    rw [hids]
    rfl
  have hstatus : ((o.filter.status.filter (· != "")).map fun s => [s]).all (·.contains row.status) =
      o.filter.status.all fun s => s == "" || row.status == s := by
    cases o.filter.status with
    | none => rfl
    | some s =>
      by_cases hs : s = ""
      · subst hs
        rfl
      · have hkept : (some s).filter (· != "") = some s := by simp [Option.filter_some, hs]
        rw [hkept, Option.all_some, beq_false_of_ne hs, Bool.false_or]
        exact Bool.or_false _
  rw [hleads, hstatus, LeadRow.isVisible, ownedBy, beq_false_of_ne hactor, Bool.false_or, ← Bool.and_assoc]
  rfl

/-- The leads that an order asks for are found. -/
theorem selects_of_found {o : Order} {actor : String} {rows : List LeadRow} {found : List Lead}
    (hbounded : o.filter.IsBounded) (hactor : actor ≠ "") (hunique : (rows.map (·.id)).Nodup)
    (hfound : ((o.leads.selection actor).apply rows).mapM LeadRow.lead = .ok found) :
    ∃ selected, List.Forall₂ (fun row lead => row.lead = .ok lead) selected (o.leads.arranged found) ∧
      o.Selects actor rows selected := by
  unfold Order.Selects
  cases hids : o.leadIds with
  | some ids =>
    have hleads : o.leads = ⟨some ids, none, none, (max ids.length 1 : Nat), none⟩ := by
      unfold Order.leads
      rw [hids]
      simp
    exact selected_named hactor hunique (Nat.le_max_left _ _) hleads hfound
  | none =>
    obtain ⟨hleast, hmost⟩ := hbounded
    have hleads : o.leads = ⟨none, (o.filter.status.filter (· != "")).map fun s => [s], o.filter.minScore,
        o.filter.limit, none⟩ := by
      unfold Order.leads
      rw [hids]
    have hadmits : (fun row : LeadRow => row.isVisible actor && o.leads.admits row) = o.filter.admits actor :=
      funext (admits_leads hids hactor)
    have hlimit : o.leads.limit = (o.filter.limit.toNat : Int) := by
      have hlimit : o.leads.limit = o.filter.limit := by rw [hleads]
      omega
    obtain ⟨selected, hmatched, hnewest⟩ := selected_newest (congrArg LeadQuery.ids hleads) hlimit hfound
    exact ⟨selected, hmatched, hleast, hmost, hadmits ▸ hnewest⟩

/-! ## What is answered -/

/-- The leads that the results of a response are about, in order. -/
def Response.leads? (r : Response) : Option (List Value) :=
  match r.body with
  | some (.object fields) =>
    match Fields.get? fields "results" with
    | some (.list results) =>
      some (results.map fun result => (result.fields?.bind fun fs => Fields.get? fs "lead_id").getD .null)
    | _ => none
  | _ => none

theorem runFields_leadId {run : Run} {fields : Fields} (h : runFields run = .ok fields) :
    fields.get? "lead_id" = some (.str run.leadId) := by
  unfold runFields at h
  obtain ⟨ms, -, hms⟩ := bind_eq_ok_iff.mp h
  cases hms
  rfl

/-- An execution is answered with a result for each run. -/
theorem batchFields_results {batch : Engine.Batch} {fields : Fields} (h : batchFields batch = .ok fields) :
    ∃ results, batch.runs.mapM runFields = .ok results ∧
      fields.get? "results" = some (.list (results.map .object)) := by
  unfold batchFields at h
  obtain ⟨results, hresults, hfields⟩ := bind_eq_ok_iff.mp h
  cases hfields
  exact ⟨results, hresults, rfl⟩

/-- A response lists the leads of its runs. -/
theorem leads_of_batch {response : Response} {batch : Engine.Batch} {fields : Fields}
    (hfields : batchFields batch = .ok fields) (hbody : response.body = some (.object fields)) :
    response.leads? = some (batch.runs.map fun run => .str run.leadId) := by
  obtain ⟨results, hresults, hlist⟩ := batchFields_results hfields
  have hleads : batch.runs.map (fun run => Value.str run.leadId) =
      results.map fun fs => (Fields.get? fs "lead_id").getD .null :=
    map_eq_map_of_forall₂ (mapM_eq_ok_iff.mp hresults) fun run fs h => by rw [runFields_leadId h]; rfl
  rw [Response.leads?, hbody, hleads]
  dsimp only
  rw [hlist]
  dsimp only
  rw [List.map_map]
  rfl

section Request

variable {τ σ : Type} [Timeline τ] {u : Setup τ σ} {r : Request} {d : Deployment (Hosts τ σ)}

/-- There is one run for each lead, in order. -/
theorem execute_order (u : Setup τ σ) (actor : String) (sender : Sender) (w : Workflow) (leads : List Lead)
    (j : Journey τ (Session × Hosts τ σ)) :
    ((u.desk actor sender).engine.execute w leads j).1.runs.map (·.leadId) = leads.map (·.id) := by
  cases leads with
  | nil => rfl
  | cons lead rest =>
    obtain ⟨k, saved, folded, noted, hbalanced⟩ := Engine.balanced_of_works
      (e := (u.desk actor sender).engine) (fun step lead => task_works step lead _) w lead rest j
    have horder := congrArg (List.map Prod.fst) hbalanced.order
    rwa [List.map_map, List.map_map] at horder

/-- An order that is answered has been executed for the leads it chose. -/
theorem execute_eq_ok {workflowId : String} {content : Value} (h : (u.execute r workflowId d).1 = .ok content) :
    ∃ actor order w leads around s j fields, Setup.orderOf r = .ok (actor, order) ∧
      ((u.desk actor order.sender).chosen workflowId order.leads).runIn around
        (.begin d.database d.rowsIssued) = (.ok (w, leads), s) ∧
      batchFields ((u.desk actor order.sender).engine.execute w leads j).1 = .ok fields ∧
      content = .object fields := by
  unfold Setup.execute at h
  cases horder : Setup.orderOf r with
  | error e =>
    rw [horder] at h
    cases h
  | ok x =>
    obtain ⟨actor, order⟩ := x
    rw [horder] at h
    obtain ⟨desk, hdesk⟩ : ∃ desk, u.desk actor order.sender = desk := ⟨_, rfl⟩
    obtain ⟨j, hj⟩ : ∃ j : Journey τ (Session × Hosts τ σ), d.journey = j := ⟨_, rfl⟩
    have hbegin : j.world.1 = .begin d.database d.rowsIssued := hj ▸ rfl
    obtain ⟨⟨o, s⟩, hchosen⟩ : ∃ x,
        (desk.chosen workflowId order.leads).runIn ⟨j.now, desk.rowId⟩ j.world.1 = x := ⟨_, rfl⟩
    dsimp only at h
    rw [hdesk] at h
    unfold Deployment.execute Desk.execute Desk.within at h
    rw [hj, hchosen] at h
    cases o with
    | error f => cases h
    | ok x =>
      obtain ⟨w, leads⟩ := x
      obtain ⟨j', hj'⟩ : ∃ j' : Journey τ (Session × Hosts τ σ), { j with world := (s, j.world.2) } = j' :=
        ⟨_, rfl⟩
      dsimp only [Except.bind] at h
      rw [hj'] at h
      rw [hbegin] at hchosen
      cases hfields : batchFields (desk.engine.execute w leads j').1 with
      | error f =>
        rw [hfields] at h
        cases h
      | ok fields =>
        rw [hfields] at h
        cases h
        exact ⟨actor, order, w, leads, _, s, j', fields, rfl, hdesk ▸ hchosen, hdesk ▸ hfields, rfl⟩

/-- A request has been answered with one result for each of some leads, which its workflow was executed for. -/
structure Setup.RunsOn (u : Setup τ σ) (r : Request) (site : Site τ σ) (actor : String) (order : Order)
    (selected : List LeadRow) : Prop where
  executed : ∃ w leads j fields, List.Forall₂ (fun row lead => row.lead = .ok lead) selected leads ∧
    batchFields ((u.desk actor order.sender).engine.execute w leads j).1 = .ok fields ∧
    (u.respond r site).1.body = some (.object fields)
  results : (u.respond r site).1.leads? = some (selected.map fun row => .str row.id)

/-- An order that is answered with results has been executed for exactly the leads that it selects, whatever
the database and whoever gives the order: those it names, without any that is unknown, deleted or somebody
else's, or else the newest that meet its conditions. -/
theorem order_selects {site : Site τ σ} {workflowId : String} {total : Int}
    (h : u.Executes r site workflowId total)
    (hunique : ∀ rows, site.deployment.database.rows .leads = .ok rows → (rows.map (·.id)).Nodup) :
    ∃ actor order rows selected, Setup.orderOf r = .ok (actor, order) ∧
      site.deployment.database.rows .leads = .ok rows ∧ order.Selects actor rows selected ∧
      u.RunsOn r site actor order selected ∧ total = selected.length := by
  obtain ⟨id, hresponse⟩ := respond_order ⟨_, h.leads⟩ site
  have hanswer : (u.answer r site.deployment).1 = some <$> (u.execute r workflowId site.deployment).1 := by
    unfold Setup.answer
    rw [h.leads]
    rfl
  cases hexecute : (u.execute r workflowId site.deployment).1 with
  | error e =>
    rw [hexecute] at hanswer
    exact absurd hanswer (h.not_refused e)
  | ok content =>
    rw [hexecute] at hanswer
    obtain ⟨actor, order, w, leads, around, s, j, fields, horder, hchosen, hfields, rfl⟩ := execute_eq_ok hexecute
    obtain ⟨rows, found, hrows, hfound, rfl⟩ := chosen_eq_ok hchosen
    obtain ⟨selected, hmatched, hselects⟩ := selects_of_found (bounded_of_orderOf horder)
      (actor_ne_empty (actor_of_orderOf horder)) (hunique rows hrows) hfound
    have hbody : (u.respond r site).1.body = some (.object fields) := by
      rw [hresponse, hanswer]
      rfl
    have hnames : ((u.desk actor order.sender).engine.execute w (order.leads.arranged found) j).1.runs.map
        (·.leadId) = selected.map (·.id) :=
      (execute_order u actor order.sender w _ j).trans
        (map_eq_map_of_forall₂ hmatched fun _ _ h => (lead_id h).symm).symm
    refine ⟨actor, order, rows, selected, horder, hrows, hselects,
      ⟨⟨w, _, j, fields, hmatched, hfields, hbody⟩, ?_⟩, ?_⟩
    · have hvalues := congrArg (List.map Value.str) hnames
      rw [List.map_map, List.map_map] at hvalues
      rw [leads_of_batch hfields hbody]
      exact congrArg some hvalues
    · have hlength := congrArg List.length hnames
      rw [List.length_map, List.length_map] at hlength
      rw [h.total_eq hanswer hfields, hlength]

end Request

/-! ## An order that repeats itself -/

/-- An order of `user-1` for one of its leads twice, for one that it has deleted, for one of `user-2`, and for
one that there is not. -/
def orderByIds : Request :=
  { orderOfUser with
    body := "\x7b\"lead_ids\": [\"lead-1\", \"lead-9\", \"lead-1\", \"lead-2\", \"lead-3\"]\x7d" }

/-- It is executed once, for the lead that is left. -/
theorem order_selects_orderByIds :
    let leads := [leadOf "user-1" "lead-1", leadOf "user-2" "lead-2",
      { leadOf "user-1" "lead-3" with isDeleted := true }]
    let site := siteWith leads [workflowOf "user-1" "flow-1"]
    plainSetup.Executes orderByIds site "flow-1" 1 ∧
      ∃ selected, Named "user-1" ["lead-1", "lead-9", "lead-1", "lead-2", "lead-3"] leads selected ∧
        (plainSetup.respond orderByIds site).1.leads? = some (selected.map fun row => .str row.id) ∧
        selected.length = 1 := by
  intro leads site
  have hexecutes : plainSetup.Executes orderByIds site "flow-1" 1 :=
    ⟨by decide +kernel, by decide +kernel, by decide +kernel⟩
  obtain ⟨actor, order, rows, selected, horder, hrows, hselects, hruns, htotal⟩ :=
    order_selects hexecutes fun rows hrows => by
      cases hrows
      decide
  have hasked : (Setup.orderOf orderByIds).toOption.map (fun x => (x.1, x.2.leadIds)) =
      some ("user-1", some ["lead-1", "lead-9", "lead-1", "lead-2", "lead-3"]) := by
    decide +kernel
  rw [horder] at hasked
  obtain ⟨rfl, hids⟩ := Prod.mk.inj (Option.some.inj hasked)
  cases hrows
  unfold Order.Selects at hselects
  rw [hids] at hselects
  exact ⟨hexecutes, selected, hselects, hruns.results, by omega⟩

end LeadFlow.Service
