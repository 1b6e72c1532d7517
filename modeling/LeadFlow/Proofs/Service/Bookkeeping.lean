import LeadFlow.Proofs.Service.Tenancy
import LeadFlow.Proofs.Storage.Balance

set_option autoImplicit false

/-!
# Service: the books over many requests

Whoever asks for what, a request either leaves the stored data as they are or is an execution that is
booked: a stored row for each run that was not cut off, as many leads counted for the workflow, and one
entry in the audit log.  So what a workflow has counted beyond its stored runs never changes.

Main statement: `responses_accounted`.
-/

namespace LeadFlow.Service

open Execution Storage

variable {τ σ : Type}

/-! ## Requests in a row -/

/-- A request, and the time by the clock when it comes in. -/
structure Arrival where
  clock : Int
  request : Request

/-- The number of results that a response speaks of. -/
def Response.total? (r : Response) : Option Int :=
  match r.body with
  | some (.object fields) =>
    match Fields.get? fields "total" with
    | some (.int n) => some n
    | _ => none
  | _ => none

/-- The books of a site. -/
def Site.books (site : Site τ σ) : Books := site.deployment.database.books

/-- The books of a site can be kept. -/
def Site.Sound (u : Setup τ σ) (site : Site τ σ) : Prop := site.deployment.Sound u.rowId u.runId

/-- The site at a time by the clock. -/
def Site.withClock (site : Site τ σ) (clock : Int) : Site τ σ :=
  { site with deployment := { site.deployment with clock := clock } }

namespace Setup

variable [Timeline τ]

/-- The site after requests, one after the other. -/
def after (u : Setup τ σ) : List Arrival → Site τ σ → Site τ σ
  | [], site => site
  | a :: rest, site => u.after rest (u.respond a.request (site.withClock a.clock)).2

/-- Something holds of each request at the site that it comes to. -/
def Throughout (u : Setup τ σ) (P : Request → Site τ σ → Prop) : List Arrival → Site τ σ → Prop
  | [], _ => True
  | a :: rest, site =>
    P a.request (site.withClock a.clock) ∧
      u.Throughout P rest (u.respond a.request (site.withClock a.clock)).2

instance decidableThroughout (u : Setup τ σ) (P : Request → Site τ σ → Prop)
    [∀ r site, Decidable (P r site)] : ∀ requests site, Decidable (u.Throughout P requests site)
  | [], _ => isTrue trivial
  | a :: rest, site =>
    have := u.decidableThroughout P rest (u.respond a.request (site.withClock a.clock)).2
    inferInstanceAs (Decidable (P a.request (site.withClock a.clock) ∧ _))

/-- There is room to count what the request stores. -/
def HasRoom (u : Setup τ σ) (r : Request) (site : Site τ σ) : Prop :=
  site.books.HasRoom (u.respond r site).2.books

instance (u : Setup τ σ) (r : Request) (site : Site τ σ) : Decidable (u.HasRoom r site) :=
  inferInstanceAs (Decidable (Books.HasRoom _ _))

/-- The request leaves the stored data as they are. -/
def Keeps (u : Setup τ σ) (r : Request) (site : Site τ σ) : Prop :=
  (u.respond r site).2.deployment.database = site.deployment.database

/-- The request is for an execution of a workflow, and is answered with so many results. -/
structure Executes (u : Setup τ σ) (r : Request) (site : Site τ σ) (workflowId : String) (total : Int) :
    Prop where
  leads : Destination.find u.settings r.method r.target.path = .endpoint (.execute workflowId)
  status : (u.respond r site).1.status = 200
  total : (u.respond r site).1.total? = some total

/-- The account of a request: nothing is written for a view, for a request that is turned down, and for an
execution without results; any other execution is booked for the actor, as it is answered. -/
structure Accounted (u : Setup τ σ) (r : Request) (site : Site τ σ) : Prop where
  get : r.method = "GET" → u.Keeps r site
  refused : 400 ≤ (u.respond r site).1.status → u.Keeps r site
  idle : ∀ workflowId, u.Executes r site workflowId 0 → u.Keeps r site
  booked : ∀ workflowId total, u.Executes r site workflowId total → 1 ≤ total →
    ∃ actor batch fields, r.actor? = some actor ∧ batch.workflow.id = workflowId ∧
      batchFields batch = .ok fields ∧ (u.respond r site).1.body = some (.object fields) ∧
      site.books.Booked actor workflowId batch.runs (u.respond r site).2.books

end Setup

/-! ## One request -/

section Request

variable [Timeline τ] {u : Setup τ σ} {r : Request} {d : Deployment (Hosts τ σ)}

/-- How a request is answered, and what lasts. -/
inductive Answers (u : Setup τ σ) (r : Request) (d : Deployment (Hosts τ σ)) :
    Handled (Option Value) → Deployment (Hosts τ σ) → Prop where
  /-- it is turned down -/
  | refused {e : Refusal} {d' : Deployment (Hosts τ σ)} (advances : d.Advances u.rowId d')
      (same : d'.database = d.database) : Answers u r d (.error e) d'
  /-- it is for something else than an execution -/
  | viewed {body : Option Value}
      (elsewhere : ∀ id, Destination.find u.settings r.method r.target.path ≠ .endpoint (.execute id)) :
      Answers u r d (.ok body) d
  /-- a workflow has been executed -/
  | executed {actor workflowId : String} {batch : Engine.Batch} {fields : Fields}
      {d' : Deployment (Hosts τ σ)}
      (leads : Destination.find u.settings r.method r.target.path = .endpoint (.execute workflowId))
      (given : r.actor? = some actor) (shown : batchFields batch = .ok fields)
      (workflow : batch.workflow.id = workflowId) (advances : d.Advances u.rowId d')
      (idle : batch.runs = [] → d'.database = d.database)
      (booked : batch.runs ≠ [] → d.database.books.HasRoom d'.database.books →
        d.database.books.Booked actor workflowId batch.runs d'.database.books ∧
          d'.Sound u.rowId u.runId) : Answers u r d (.ok (some (.object fields))) d'

/-- A request comes to an endpoint only with a method that it admits. -/
theorem find_method {s : Settings} {method path : String} {e : Endpoint}
    (h : Destination.find s method path = .endpoint e) : method ∈ e.methods := by
  unfold Destination.find at h
  split at h
  · split at h <;> cases h
  · split at h
    · rename_i heq
      cases h
      simpa using List.find?_some heq
    · cases h

/-- An execution is answered with the number of its results. -/
theorem batchFields_total {batch : Engine.Batch} {fields : Fields} (h : batchFields batch = .ok fields) :
    fields.get? "total" = some (.int batch.runs.length) := by
  unfold batchFields at h
  cases hresults : batch.runs.mapM runFields with
  | error f =>
    simp only [hresults, bind, Except.bind] at h
    cases h
  | ok results =>
    simp only [hresults, bind, Except.bind] at h
    cases h
    rfl

omit [Timeline τ] in
/-- A refusal has no number of results. -/
theorem refusal_total (u : Setup τ σ) (id : String) (e : Refusal) :
    (u.responseFor id (.error e)).total? = none := by
  cases e <;> rfl

/-- An order comes to one of the ways of an execution, or is turned down. -/
theorem execute_answers (hsupply : Function.Injective u.rowId) (hruns : Function.Injective u.runId)
    (hhours : u.settings.hoursPerRecord = Settings.default.hoursPerRecord)
    (h : d.Sound u.rowId u.runId) {workflowId : String}
    (hdest : Destination.find u.settings r.method r.target.path = .endpoint (.execute workflowId)) :
    Answers u r d (some <$> (u.execute r workflowId d).1) (u.execute r workflowId d).2 := by
  unfold Setup.execute
  cases horder : Setup.orderOf r with
  | error e => exact .refused ⟨h.ready, Nat.le_refl _⟩ rfl
  | ok x =>
    obtain ⟨actor, order⟩ := x
    have hactor : r.actor? = some actor := actor_of_orderOf horder
    have hexecutes := Deployment.executes (u.desk actor order.sender) hsupply hruns rfl hhours h workflowId
      order.leads
    obtain ⟨⟨o, d'⟩, hx⟩ : ∃ x, d.execute (u.desk actor order.sender) workflowId order.leads = x :=
      ⟨_, rfl⟩
    rw [hx] at hexecutes
    dsimp only
    rw [hx]
    dsimp only at hexecutes ⊢
    cases hexecutes with
    | faulted advances same => exact .refused ⟨advances.rows, advances.runs⟩ rfl
    | @done e _ advances workflow idle booked =>
      dsimp only [Except.bind]
      cases hfields : batchFields e.batch with
      | error f => exact .refused ⟨advances.rows, advances.runs⟩ rfl
      | ok fields =>
        exact .executed hdest hactor hfields workflow ⟨advances.rows, advances.runs⟩ idle booked

/-- Every request is turned down, answered from what is stored, or is an execution. -/
theorem answer_answers (hsupply : Function.Injective u.rowId) (hruns : Function.Injective u.runId)
    (hhours : u.settings.hoursPerRecord = Settings.default.hoursPerRecord)
    (h : d.Sound u.rowId u.runId) : Answers u r d (u.answer r d).1 (u.answer r d).2 := by
  have hrefused : ∀ e, Answers u r d (.error e) d := fun e => .refused ⟨h.ready, Nat.le_refl _⟩ rfl
  unfold Setup.answer
  cases hdest : Destination.find u.settings r.method r.target.path with
  | wrongMethod => exact hrefused _
  | elsewhere => exact hrefused _
  | nowhere => exact hrefused _
  | endpoint e =>
    have hviewed : (∀ id, e ≠ .execute id) → ∀ o : Handled (Option Value), Answers u r d o d := by
      intro hother o
      cases o with
      | error e => exact hrefused e
      | ok body =>
        refine .viewed fun id heq => ?_
        rw [hdest] at heq
        exact hother id (Destination.endpoint.inj heq)
    cases e with
    | execute id => exact execute_answers hsupply hruns hhours h hdest
    | _ => exact hviewed (fun id heq => by cases heq) _

/-- The response says what the request came to; only the head of a response has no content. -/
theorem respond_eq (u : Setup τ σ) (r : Request) (site : Site τ σ) :
    ∃ id, (u.respond r site).1.status = (u.responseFor id (u.answer r site.deployment).1).status ∧
      (r.method ≠ "HEAD" → (u.respond r site).1 = u.responseFor id (u.answer r site.deployment).1) := by
  refine ⟨(u.nameRequest r site.requestsIssued).1, ?_, fun hmethod => ?_⟩
  · unfold Setup.respond
    dsimp only
    split <;> rfl
  · unfold Setup.respond
    dsimp only
    rw [if_neg hmethod]

/-- An endpoint whose head cannot be asked for answers in full. -/
theorem respond_endpoint {e : Endpoint}
    (hdest : Destination.find u.settings r.method r.target.path = .endpoint e) (hhead : "HEAD" ∉ e.methods)
    (site : Site τ σ) : ∃ id, (u.respond r site).1 = u.responseFor id (u.handle r site.deployment e).1 := by
  obtain ⟨id, -, hresponse⟩ := respond_eq u r site
  have hanswer : u.answer r site.deployment = u.handle r site.deployment e := by
    unfold Setup.answer
    rw [hdest]
  rw [hanswer] at hresponse
  exact ⟨id, hresponse fun hmethod => hhead (hmethod ▸ find_method hdest)⟩

/-- An order is answered in full. -/
theorem respond_order (hdest : ∃ id, Destination.find u.settings r.method r.target.path =
      .endpoint (.execute id)) (site : Site τ σ) :
    ∃ id, (u.respond r site).1 = u.responseFor id (u.answer r site.deployment).1 := by
  obtain ⟨workflowId, hdest⟩ := hdest
  have hanswer : u.answer r site.deployment = u.handle r site.deployment (.execute workflowId) := by
    unfold Setup.answer
    rw [hdest]
  rw [hanswer]
  exact respond_endpoint hdest (by simp [Endpoint.methods]) site

namespace Setup.Executes

variable {site : Site τ σ} {workflowId : String} {total : Int}

/-- What is turned down is not an answered execution. -/
theorem not_refused (h : u.Executes r site workflowId total) (e : Refusal) :
    (u.answer r site.deployment).1 ≠ .error e := by
  intro hanswer
  obtain ⟨id, hresponse⟩ := respond_order ⟨_, h.leads⟩ site
  have htotal := h.total
  rw [hresponse, hanswer, refusal_total] at htotal
  cases htotal

/-- The number of results is right. -/
theorem total_eq (h : u.Executes r site workflowId total) {batch : Engine.Batch} {fields : Fields}
    (hanswer : (u.answer r site.deployment).1 = .ok (some (.object fields)))
    (hfields : batchFields batch = .ok fields) : total = batch.runs.length := by
  obtain ⟨id, hresponse⟩ := respond_order ⟨_, h.leads⟩ site
  have htotal := h.total
  rw [hresponse, hanswer] at htotal
  simp only [Response.total?, Setup.responseFor, batchFields_total hfields] at htotal
  exact (Option.some.inj htotal).symm

end Setup.Executes

/-- A request that leaves the stored data as they are is accounted for, unless it is answered with
results. -/
theorem accounted_of_keeps {site : Site τ σ} (hkeeps : u.Keeps r site)
    (hnone : ∀ workflowId total, u.Executes r site workflowId total → ¬ 1 ≤ total) :
    u.Accounted r site :=
  ⟨fun _ => hkeeps, fun _ => hkeeps, fun _ _ => hkeeps,
    fun workflowId total h hsome => absurd hsome (hnone workflowId total h)⟩

/-- An execution with results is accounted for if it is booked. -/
theorem accounted_of_booked {site : Site τ σ} {actor workflowId : String} {batch : Engine.Batch}
    {fields : Fields}
    (hleads : Destination.find u.settings r.method r.target.path = .endpoint (.execute workflowId))
    (hactor : r.actor? = some actor)
    (hanswer : (u.answer r site.deployment).1 = .ok (some (.object fields)))
    (hfields : batchFields batch = .ok fields) (hworkflow : batch.workflow.id = workflowId)
    (hruns : batch.runs ≠ [])
    (hbooked : site.books.Booked actor workflowId batch.runs (u.respond r site).2.books) :
    u.Accounted r site := by
  obtain ⟨requestId, hresponse⟩ := respond_order ⟨_, hleads⟩ site
  rw [hanswer] at hresponse
  refine ⟨fun hget => ?_, fun hrefused => ?_, fun id h => ?_, fun id total h _ => ?_⟩
  · have hmethod : r.method = "POST" := List.mem_singleton.mp (find_method hleads)
    rw [hmethod] at hget
    exact absurd hget (by decide)
  · rw [hresponse] at hrefused
    change (400 : Int) ≤ 200 at hrefused
    omega
  · have hlength := h.total_eq hanswer hfields
    have hsome := List.length_pos_of_ne_nil hruns
    omega
  · obtain rfl : workflowId = id := by
      have hsame := hleads.symm.trans h.leads
      cases hsame
      rfl
    exact ⟨actor, batch, fields, hactor, hworkflow, hfields, by rw [hresponse]; rfl, hbooked⟩

/-- A request is accounted for, leaves its site sound, and no workflow has counted more or less beyond its
stored runs than before. -/
theorem respond_accounted (hsupply : Function.Injective u.rowId) (hruns : Function.Injective u.runId)
    (hhours : u.settings.hoursPerRecord = Settings.default.hoursPerRecord) {site : Site τ σ}
    (h : site.Sound u) (hroom : u.HasRoom r site) :
    u.Accounted r site ∧ (u.respond r site).2.Sound u ∧
      ∀ workflowId, (u.respond r site).2.books.surplus workflowId = site.books.surplus workflowId := by
  have hanswers := answer_answers (r := r) hsupply hruns hhours h
  obtain ⟨⟨o, d'⟩, hx⟩ : ∃ x, u.answer r site.deployment = x := ⟨_, rfl⟩
  have hlast : (u.respond r site).2.deployment = d' := by
    change (u.answer r site.deployment).2 = d'
    rw [hx]
  have ho : (u.answer r site.deployment).1 = o := by rw [hx]
  rw [hx] at hanswers
  -- the two ways in which nothing is written, and the one of an execution without results
  have hkept : d'.database = site.deployment.database → site.deployment.Advances u.rowId d' →
      u.Keeps r site ∧ (u.respond r site).2.Sound u ∧
        ∀ workflowId, (u.respond r site).2.books.surplus workflowId = site.books.surplus workflowId := by
    intro hsame hadvances
    refine ⟨?_, ?_, fun workflowId => ?_⟩
    · unfold Setup.Keeps
      rw [hlast, hsame]
    · unfold Site.Sound
      rw [hlast]
      exact Deployment.Sound.kept h hadvances hsame
    · unfold Site.books
      rw [hlast, hsame]
  cases hanswers with
  | @refused e _ advances same =>
    obtain ⟨hkeeps, hrest⟩ := hkept same advances
    exact ⟨accounted_of_keeps hkeeps fun _ _ hexecutes _ => hexecutes.not_refused e ho, hrest⟩
  | viewed elsewhere =>
    obtain ⟨hkeeps, hrest⟩ := hkept rfl ⟨h.ready, Nat.le_refl _⟩
    exact ⟨accounted_of_keeps hkeeps fun id _ hexecutes _ => elsewhere id hexecutes.leads, hrest⟩
  | @executed actor workflowId batch fields _ leads given shown workflow advances idle booked =>
    by_cases hnone : batch.runs = []
    · obtain ⟨hkeeps, hrest⟩ := hkept (idle hnone) advances
      refine ⟨accounted_of_keeps hkeeps fun id total hexecutes htotal => ?_, hrest⟩
      have hlength := hexecutes.total_eq ho shown
      rw [hnone, List.length_nil] at hlength
      omega
    · have hroom : site.deployment.database.books.HasRoom d'.database.books := by
        rw [← hlast]
        exact hroom
      obtain ⟨hbooked, hsound⟩ := booked hnone hroom
      have hbooked : site.books.Booked actor workflowId batch.runs (u.respond r site).2.books := by
        unfold Site.books
        rw [hlast]
        exact hbooked
      refine ⟨accounted_of_booked leads given ho shown workflow hnone hbooked, ?_, fun id => ?_⟩
      · unfold Site.Sound
        rw [hlast]
        exact hsound
      · exact surplus_booked hbooked h.counted id

end Request

/-! ## Many requests -/

/-- The books are kept, whoever asks for what in whatever order: each request is accounted for, the site
stays sound, and what a workflow has counted beyond its stored runs never changes. -/
theorem responses_accounted [Timeline τ] {u : Setup τ σ} (hsupply : Function.Injective u.rowId)
    (hruns : Function.Injective u.runId)
    (hhours : u.settings.hoursPerRecord = Settings.default.hoursPerRecord) (requests : List Arrival)
    {site : Site τ σ} (h : site.Sound u) (hroom : u.Throughout u.HasRoom requests site) :
    u.Throughout u.Accounted requests site ∧ (u.after requests site).Sound u ∧
      ∀ workflowId, (u.after requests site).books.surplus workflowId = site.books.surplus workflowId := by
  induction requests generalizing site with
  | nil => exact ⟨trivial, h, fun _ => rfl⟩
  | cons a rest ih =>
    obtain ⟨hfirst, hrest⟩ := hroom
    have hclock : (site.withClock a.clock).Sound u := ⟨h.ready, h.runIds, h.unique, h.counted⟩
    obtain ⟨haccounted, hsound, hsame⟩ := respond_accounted hsupply hruns hhours hclock hfirst
    obtain ⟨hlater, hlast, hlastSame⟩ := ih hsound hrest
    exact ⟨⟨haccounted, hlater⟩, hlast, fun workflowId =>
      (hlastSame workflowId).trans (hsame workflowId)⟩

/-! ## Two orders -/

/-- A site is sound with leads that can be stored, and with workflows that have statistics. -/
theorem sound_siteWith {leads : List LeadRow} {workflows : List WorkflowRow}
    (hleads : ∀ r ∈ leads, r.IsStorable) (hunique : (workflows.map (·.id)).Nodup)
    (hcounted : ∀ r ∈ workflows, r.IsCounted) : (siteWith leads workflows).Sound plainSetup := by
  exact ⟨fun _ => .of_unnumbered rfl (fun t => by cases t <;> exact ⟨_, rfl⟩) hleads rfl rfl,
    fun n _ r hr => (by cases hr), hunique, hcounted⟩

/-- An order that is given twice is booked twice. -/
theorem responses_accounted_twice :
    let site := siteWith [leadOf "user-1" "lead-1"] [workflowOf "user-1" "flow-1"]
    let orders := [⟨1772611200000000, orderOfUser⟩, ⟨1772614800000000, orderOfUser⟩]
    (plainSetup.after orders site).books.runsOf "flow-1" = 2 ∧
      plainSetup.Throughout plainSetup.Accounted orders site ∧
      (plainSetup.after orders site).books.surplus "flow-1" = some 0 := by
  intro site orders
  have hsound : site.Sound plainSetup :=
    sound_siteWith (List.forall_mem_singleton.mpr ⟨_, rfl⟩) (by decide)
      (List.forall_mem_singleton.mpr (.of_zero rfl))
  have hroom : plainSetup.Throughout plainSetup.HasRoom orders site := by decide +kernel
  obtain ⟨haccounted, -, hsurplus⟩ := responses_accounted (numbered_injective "row")
    (numbered_injective "run") rfl orders hsound hroom
  exact ⟨by decide +kernel, haccounted, (hsurplus "flow-1").trans (by decide +kernel)⟩

/-! ## An id that is taken -/

/-- An entry of the audit log that has the first id of the supply. -/
def entryInTheWay : AuditRow := ⟨⟨"row-1", ⟨0, none, false⟩, ⟨0, none, false⟩⟩, "user-1", "NOTE", ""⟩

/-- A site whose audit log has that entry. -/
def siteInTheWay : Site Float Unit :=
  let site := siteWith [leadOf "user-1" "lead-1"] [workflowOf "user-1" "flow-1"]
  { site with deployment := { site.deployment with
      database := site.deployment.database.withRows .audits [entryInTheWay] } }

/-- Free ids of runs are not enough.  Where the id of the entry for an execution is taken, the execution is
answered with its result all the same, but nothing of it is in the books. -/
theorem unbooked_entryInTheWay :
    (∀ r ∈ siteInTheWay.books.workflows, r.statistics = .ok .zero) ∧
      siteInTheWay.books.executions = [] ∧ plainSetup.HasRoom orderOfUser siteInTheWay ∧
      plainSetup.Executes orderOfUser siteInTheWay "flow-1" 1 ∧
      ¬ plainSetup.Accounted orderOfUser siteInTheWay := by
  have hexecutes : plainSetup.Executes orderOfUser siteInTheWay "flow-1" 1 :=
    ⟨by decide +kernel, by decide +kernel, by decide +kernel⟩
  refine ⟨List.forall_mem_singleton.mpr rfl, rfl, by decide +kernel, hexecutes, fun haccounted => ?_⟩
  obtain ⟨actor, batch, fields, -, -, -, -, hbooked⟩ := haccounted.booked "flow-1" 1 hexecutes (by decide)
  obtain ⟨entry, hentry, -⟩ := hbooked.closing
  have hnone : (plainSetup.respond orderOfUser siteInTheWay).2.books.closings.length = 0 := by
    decide +kernel
  rw [hentry] at hnone
  simp at hnone

end LeadFlow.Service
