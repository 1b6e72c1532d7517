import LeadFlow.Proofs.Service.Bookkeeping
import LeadFlow.Proofs.Storage.Fresh

set_option autoImplicit false

/-!
# Service: a page of the log

The log has one entry for each recorded step, and a page of it shows the first entries up to a limit.
A page is made from the latest runs, as many as it may have entries.  That is enough if each of them has
a step.  Runs without steps take the places of others: the page is then the start of the log, but it may
end before the limit while there are entries left.

Main statement: `log_page`.
-/

namespace LeadFlow

namespace Analytics

/-! ## The log of sorted runs -/

/-- The whole log of runs, which no limit cuts. -/
def completeLog (runs : List Run) : Outcome (List LogEntry) := executionLog runs (recordedSteps runs).length

/-- Runs with starts in UTC, latest first. -/
structure LatestFirst (runs : List Run) : Prop where
  utc : ∀ r ∈ runs, r.startedAt.zone = some .utc
  sorted : runs.Pairwise fun a b => b.startedAt.instant ≤ a.startedAt.instant

namespace LatestFirst

variable {runs : List Run}

theorem take (h : LatestFirst runs) (n : Nat) : LatestFirst (runs.take n) :=
  ⟨fun r hr => h.utc r (List.mem_of_mem_take hr), h.sorted.take⟩

/-- Sorting changes nothing. -/
theorem newestFirst (h : LatestFirst runs) : newestFirst runs = .ok runs := by
  have hcomparable : areComparable runs = true := by
    cases runs with
    | nil => rfl
    | cons r rs =>
      refine List.all_eq_true.mpr fun s hs => ?_
      rw [Calendar.Moment.comparable, h.utc r List.mem_cons_self, h.utc s (List.mem_cons_of_mem _ hs)]
      rfl
  have hordered : runs.Pairwise fun a b => noEarlier a b = true := by
    refine h.sorted.imp_of_mem fun {a b} ha hb hab => ?_
    have hinstant : ∀ r ∈ runs, r.startedAt.instant = r.startedAt.wall := fun r hr => by
      simp only [Calendar.Moment.instant, Calendar.Moment.instant?, Calendar.Moment.offset?, h.utc r hr]
      exact Int.sub_zero _
    rw [hinstant a ha, hinstant b hb] at hab
    simpa [noEarlier, Calendar.Moment.lt, h.utc a ha, h.utc b hb] using hab
  rw [Analytics.newestFirst, hcomparable, if_pos rfl, List.mergeSort_of_pairwise hordered]

theorem executionLog (h : LatestFirst runs) (limit : Nat) :
    executionLog runs limit =
      ((recordedSteps runs).take (max limit 1)).mapM fun s => logEntry s.1 s.2 := by
  have hlimit : (max (limit : Int) 1).toNat = max limit 1 := by omega
  unfold Analytics.executionLog
  rw [h.newestFirst, hlimit]
  rfl

/-- The whole log has one entry for each step. -/
theorem completeLog_eq_ok_iff (h : LatestFirst runs) {entries : List LogEntry} :
    completeLog runs = .ok entries ↔
      List.Forall₂ (fun s e => logEntry s.1 s.2 = .ok e) (recordedSteps runs) entries := by
  rw [completeLog, h.executionLog, List.take_of_length_le (Nat.le_max_left _ _)]
  exact mapM_eq_ok_iff

/-- The log of the latest runs is the start of the whole log, as far as the limit goes and there are
steps. -/
theorem executionLog_take (h : LatestFirst runs) {entries : List LogEntry}
    (hentries : completeLog runs = .ok entries) (n : Nat) {limit : Nat} (hlimit : 1 ≤ limit) :
    Analytics.executionLog (runs.take n) limit =
      .ok (entries.take (min limit (recordedSteps (runs.take n)).length)) := by
  have hprefix : recordedSteps (runs.take n) <+: recordedSteps runs := (List.take_prefix n runs).flatMap _
  rw [(h.take n).executionLog, Nat.max_eq_left hlimit, List.prefix_iff_eq_take.mp hprefix, List.take_take,
    ← List.prefix_iff_eq_take.mp hprefix]
  exact mapM_eq_ok_iff.mpr (List.forall₂_take _ (h.completeLog_eq_ok_iff.mp hentries))

end LatestFirst

/-- There are as many entries as are shown of the whole log exactly if the runs taken have steps enough, or
the others none. -/
theorem take_eq_take_iff_of_steps {runs : List Run} {entries : List LogEntry}
    (hlength : entries.length = (recordedSteps runs).length) (n limit : Nat) :
    entries.take (min limit (recordedSteps (runs.take n)).length) = entries.take limit ↔
      limit ≤ (recordedSteps (runs.take n)).length ∨ ∀ r ∈ runs.drop n, r.steps = [] := by
  have hsteps : (recordedSteps runs).length =
      (recordedSteps (runs.take n)).length + (recordedSteps (runs.drop n)).length := by
    rw [← List.length_append, recordedSteps, recordedSteps, recordedSteps, ← List.flatMap_append,
      List.take_append_drop]
  have hnone : (∀ r ∈ runs.drop n, r.steps = []) ↔ (recordedSteps (runs.drop n)).length = 0 := by
    rw [List.length_eq_zero_iff, recordedSteps, List.flatMap_eq_nil_iff]
    simp only [List.map_eq_nil_iff]
  rw [hnone, List.take_eq_take_iff, hlength, hsteps]
  omega

/-- Runs that all have steps are enough for a page of as many entries. -/
theorem enough_of_steps {runs : List Run} (h : ∀ r ∈ runs, r.steps ≠ []) (n : Nat) :
    n ≤ (recordedSteps (runs.take n)).length ∨ ∀ r ∈ runs.drop n, r.steps = [] := by
  have hcount : ∀ rs : List Run, (∀ r ∈ rs, r.steps ≠ []) → rs.length ≤ (recordedSteps rs).length := by
    intro rs hrs
    induction rs with
    | nil => exact Nat.le_refl 0
    | cons r rs ih =>
      obtain ⟨hr, hrest⟩ := List.forall_mem_cons.mp hrs
      have hpos := List.length_pos_of_ne_nil hr
      have hrec := ih hrest
      simp only [recordedSteps, List.flatMap_cons, List.length_append, List.length_map, List.length_cons] at *
      omega
  by_cases hn : n ≤ runs.length
  · have hle := hcount (runs.take n) fun r hr => h r (List.mem_of_mem_take hr)
    rw [List.length_take, Nat.min_eq_left hn] at hle
    exact .inl hle
  · rw [List.drop_eq_nil_of_le (Nat.le_of_not_le hn)]
    exact .inr (List.forall_mem_nil _)

end Analytics

namespace Storage

theorem ExecutionRow.startedAt_of_run {row : ExecutionRow} {r : Run} (h : row.run = .ok r) :
    r.startedAt = row.startedAt := by
  unfold ExecutionRow.run at h
  cases hstatus : (Vocabulary.ofValue (.str row.status) : Outcome RunStatus) with
  | error f =>
    rw [hstatus] at h
    cases h
  | ok status =>
    cases hresults : row.results with
    | error f =>
      rw [hstatus, hresults] at h
      cases h
    | ok steps =>
      rw [hstatus, hresults] at h
      cases h
      rfl

/-- All runs that a listing gives an actor are read from the rows, latest first. -/
theorem listRuns_latest {db : Database} {rows : List ExecutionRow} (hrows : db.rows .executions = .ok rows)
    (hutc : ∀ row ∈ rows, row.startedAt.zone = some .utc) (around : Surroundings) (issued : Nat)
    {actor workflowId : String} {runs : List Run}
    (hruns : (transact (listRuns actor workflowId (-1)) around db issued).1 = .ok runs) :
    List.Forall₂ (fun row r => ExecutionRow.run row = .ok r) ((runsFor actor workflowId (-1)).apply rows) runs ∧
      Analytics.LatestFirst runs := by
  obtain ⟨sorted, hsorted⟩ : ∃ sorted, (runsFor actor workflowId (-1)).apply rows = sorted := ⟨_, rfl⟩
  have hordered := runsFor_pairwise actor workflowId rows
  have hstored : ∀ row ∈ sorted, row ∈ rows := fun row hrow =>
    (List.mem_filter.mp ((runsFor_perm actor workflowId rows).mem_iff.mp (hsorted ▸ hrow))).1
  rw [hsorted] at hordered ⊢
  have hmatched : List.Forall₂ (fun row r => ExecutionRow.run row = .ok r) sorted runs := by
    rw [← mapM_eq_ok_iff, ← hsorted, ← hruns]
    exact (transact_listRuns_fst around issued actor workflowId (-1) hrows).symm
  have htimes : sorted.map (·.startedAt) = runs.map (·.startedAt) :=
    map_eq_map_of_forall₂ hmatched fun _ _ h => (ExecutionRow.startedAt_of_run h).symm
  refine ⟨hmatched, fun r hr => ?_, ?_⟩
  · obtain ⟨row, hrow, htime⟩ :=
      List.mem_map.mp (htimes ▸ List.mem_map_of_mem hr : r.startedAt ∈ sorted.map (·.startedAt))
    exact htime ▸ hutc row (hstored row hrow)
  · rw [← List.pairwise_map (f := Run.startedAt) (R := fun a b => b.instant ≤ a.instant), ← htimes,
      List.pairwise_map]
    exact hordered

end Storage

namespace Service

open Analytics Storage

variable {τ σ : Type}

/-! ## Views -/

section Views

variable {u : Setup τ σ} {r : Request} {actor : String} {d : Deployment (Hosts τ σ)}

/-- The runs of an actor are sorted as the log sorts them, and a page is made from the latest of them. -/
theorem transact_logView {rows : List ExecutionRow} (hrows : d.database.rows .executions = .ok rows)
    (hutc : ∀ row ∈ rows, row.startedAt.zone = some .utc) {workflowId : String} {runs : List Run}
    (hruns : (d.transact u.rowId (listRuns actor workflowId (-1))).1 = .ok runs) :
    LatestFirst runs ∧ ∀ limit : Nat, (d.transact u.rowId (logView actor workflowId limit)).1 =
      executionLog (runs.take limit) limit := by
  obtain ⟨hmatched, hlatest⟩ := listRuns_latest hrows hutc ⟨d.now, u.rowId⟩ d.rowsIssued hruns
  refine ⟨hlatest, fun limit => ?_⟩
  obtain ⟨s, hs, halive⟩ := runIn_listRuns_begin ⟨d.now, u.rowId⟩ d.rowsIssued actor workflowId limit hrows
  rw [runsFor_take, mapM_eq_ok_iff.mpr (List.forall₂_take limit hmatched)] at hs
  have hlog : (logView actor workflowId limit).runIn ⟨d.now, u.rowId⟩ (.begin d.database d.rowsIssued) =
      (executionLog (runs.take limit) limit, s) := by
    unfold logView
    rw [runIn_bind_of_ok hs]
    exact runIn_found _ _ s
  exact transact_fst_of_alive hlog halive

/-- An actor who asks for a page of the log. -/
structure Setup.AsksForLog (u : Setup τ σ) (r : Request) (actor workflowId : String) (limit : Nat) : Prop where
  endpoint : Destination.find u.settings r.method r.target.path = .endpoint .log
  actor : r.actor? = some actor
  page : ∃ page, LogPage.ofTarget r.target = .ok page ∧ page.workflowId = workflowId ∧
    Setup.limitOr u.settings.executionLogLimit page.limit = limit

/-- The log is answered with the content of its page. -/
theorem respond_log [Timeline τ] {site : Site τ σ} {workflowId : String} {limit : Nat}
    (hasks : u.AsksForLog r actor workflowId limit) {entries : List LogEntry}
    (hentries : (site.deployment.transact u.rowId (logView actor workflowId limit)).1 = .ok entries) :
    ∃ id, (u.respond r site).1 =
      u.responseFor id (settled (some <$> (Value.object <$> logFields entries))) := by
  obtain ⟨page, hpage, rfl, hlimit⟩ := hasks.page
  obtain ⟨id, hresponse⟩ := respond_endpoint hasks.endpoint (by decide) site
  refine ⟨id, ?_⟩
  have hlog : u.log r site.deployment = settled (.object <$> logFields entries) := by
    unfold Setup.log
    rw [view_of_fst _ hasks.actor hpage rfl, hlimit, hentries]
    rfl
  rw [hresponse]
  change u.responseFor id (some <$> u.log r site.deployment) = _
  rw [hlog]
  cases logFields entries <;> rfl

end Views

/-- An entry whose step has a text for its title can be shown. -/
theorem entryFields_of_text {e : LogEntry} {title : String} (h : e.step = .str title) :
    ∃ fields, entryFields e = .ok fields := by
  unfold entryFields
  rw [h]
  exact ⟨_, rfl⟩

/-- A page whose steps have texts for titles can be shown. -/
theorem logFields_of_texts {entries : List LogEntry} (h : ∀ e ∈ entries, ∃ title, e.step = .str title) :
    ∃ rows, List.Forall₂ (fun e fields => entryFields e = .ok fields) entries rows ∧
      logFields entries =
        .ok [("entries", .list (rows.map .object)), ("total", .ofNat entries.length)] := by
  have hdefined : ∀ e ∈ entries, ∃ fields, entryFields e = .ok fields := by
    intro e he
    obtain ⟨title, htitle⟩ := h e he
    exact entryFields_of_text htitle
  obtain ⟨rows, hrows⟩ := exists_mapM_iff.mpr hdefined
  have hmatched := mapM_eq_ok_iff.mp hrows
  refine ⟨rows, hmatched, ?_⟩
  unfold logFields
  rw [hrows, hmatched.length_eq]
  rfl

/-- An entry has the title of its step. -/
theorem step_of_logEntry {run : Run} {s : StepResult} {e : LogEntry} (h : logEntry run s = .ok e) :
    e.step = s.title := by
  unfold logEntry at h
  cases hduration : dividedBy s.durationMs 1000 with
  | error f =>
    rw [hduration] at h
    cases h
  | ok duration =>
    rw [hduration] at h
    cases h
    rfl

/-- A page of the log is the start of the log of all runs of the actor, and of the workflow if one is named.
It ends at the limit, or with the steps of the latest runs, as many as the limit counts; so it is the page
that the limit asks for exactly if these runs have that many steps, or those before them none. -/
theorem log_page [Timeline τ] (u : Setup τ σ) (r : Request) (site : Site τ σ) {actor workflowId : String}
    {limit : Nat} {rows : List ExecutionRow} {runs : List Run} {entries : List LogEntry}
    (hasks : u.AsksForLog r actor workflowId limit) (hlimit : 1 ≤ limit)
    (hrows : site.deployment.database.rows .executions = .ok rows)
    (hutc : ∀ row ∈ rows, row.startedAt.zone = some .utc)
    (hruns : (site.deployment.transact u.rowId (listRuns actor workflowId (-1))).1 = .ok runs)
    (htitles : ∀ run ∈ runs, ∀ s ∈ run.steps, ∃ title, s.title = .str title)
    (hentries : completeLog runs = .ok entries) :
    ∃ page, page <+: entries.take limit ∧
      (page = entries.take limit ↔
        limit ≤ (recordedSteps (runs.take limit)).length ∨ ∀ run ∈ runs.drop limit, run.steps = []) ∧
      page = entries.take (min limit (recordedSteps (runs.take limit)).length) ∧
      ∃ id contents, List.Forall₂ (fun e fields => entryFields e = .ok fields) page contents ∧
        (u.respond r site).1 = ⟨200, some (.object
          [("entries", .list (contents.map .object)), ("total", .ofNat page.length)]), id⟩ := by
  obtain ⟨hlatest, hview⟩ := transact_logView hrows hutc hruns
  have hmatched := hlatest.completeLog_eq_ok_iff.mp hentries
  obtain ⟨page, hpage⟩ :
      ∃ page, entries.take (min limit (recordedSteps (runs.take limit)).length) = page := ⟨_, rfl⟩
  have hiff := take_eq_take_iff_of_steps hmatched.length_eq.symm limit limit
  have hlog := hview limit
  rw [hlatest.executionLog_take hentries limit hlimit, hpage] at hlog
  rw [hpage] at hiff
  have hsteps : (recordedSteps runs).map (·.2.title) = entries.map (·.step) :=
    map_eq_map_of_forall₂ hmatched fun _ _ h => (step_of_logEntry h).symm
  have htexts : ∀ e ∈ page, ∃ title, e.step = .str title := by
    intro e he
    have hmem : e ∈ entries := List.mem_of_mem_take (hpage ▸ he)
    obtain ⟨⟨run, s⟩, hs, htitle⟩ :=
      List.mem_map.mp (hsteps ▸ List.mem_map_of_mem hmem : e.step ∈ (recordedSteps runs).map (·.2.title))
    obtain ⟨run', hrun, hs⟩ := List.mem_flatMap.mp hs
    obtain ⟨s', hs', hsame⟩ := List.mem_map.mp hs
    cases hsame
    exact htitle ▸ htitles run hrun s hs'
  obtain ⟨contents, hcontents, hfields⟩ := logFields_of_texts htexts
  obtain ⟨id, hresponse⟩ := respond_log hasks hlog
  refine ⟨page, ?_, hiff, hpage.symm, id, contents, hcontents, ?_⟩
  · rw [← hpage]
    exact List.take_isPrefix_take.mpr (.inl (Nat.min_le_left _ _))
  · rw [hresponse, hfields]
    rfl

/-! ## A run without steps -/

/-- A stored run of `user-1` with these results. -/
def executionOf (id : String) (start : Int) (results : List StepResult) : ExecutionRow where
  id := id
  createdAt := .ofInstant start
  updatedAt := .ofInstant start
  workflowId := "flow-1"
  actor := "user-1"
  leadId := "lead-1"
  leadName := "Ann Lee"
  workflowName := "Nurture"
  status := "success"
  steps := .list (results.map fun r => .object r.toFields)
  startedAt := .ofInstant start
  completedAt := .ofInstant start
  error := none

/-- A run with one step, and a later one without any. -/
def executionsOfUser : List ExecutionRow :=
  [executionOf "run-2" 1772614800000000 [],
    executionOf "run-1" 1772611200000000 [⟨.str "s1", .str "Hello", .action, .pass, .str "", 0⟩]]

/-- A site with these runs. -/
def siteWithRuns : Site Float Unit :=
  let site := siteWith [] []
  { site with deployment := { site.deployment with
      database := site.deployment.database.withRows .executions executionsOfUser } }

/-- A request of `user-1` for one entry of the log. -/
def logOfUser : Request :=
  ⟨"GET", ⟨"/api/v1/executions/log", [("limit", "1")]⟩, [("x-actor-id", "user-1")], ""⟩

/-- The runs of these rows. -/
def runsOfUser : List Run :=
  [⟨"run-2", "flow-1", "Nurture", "lead-1", "Ann Lee", .success, [],
      .ofInstant 1772614800000000, .ofInstant 1772614800000000, none⟩,
    ⟨"run-1", "flow-1", "Nurture", "lead-1", "Ann Lee", .success,
      [⟨.str "s1", .str "Hello", .action, .pass, .str "", 0⟩],
      .ofInstant 1772611200000000, .ofInstant 1772611200000000, none⟩]

/-- The whole log has an entry, but a page of one has none: its place is taken by the run without steps. -/
theorem log_page_hiddenStep :
    (siteWithRuns.deployment.transact plainSetup.rowId (listRuns "user-1" "" (-1))).1 = .ok runsOfUser ∧
      (∃ e, completeLog runsOfUser = .ok [e]) ∧
      ∃ id, (plainSetup.respond logOfUser siteWithRuns).1 =
        ⟨200, some (.object [("entries", .list []), ("total", .ofNat 0)]), id⟩ := by
  have hasks : plainSetup.AsksForLog logOfUser "user-1" "" 1 :=
    ⟨by decide +kernel, by decide +kernel, ⟨some 1, ""⟩, rfl, rfl, rfl⟩
  have hrows : siteWithRuns.deployment.database.rows .executions = .ok executionsOfUser := rfl
  have hutc : ∀ row ∈ executionsOfUser, row.startedAt.zone = some .utc := by
    simp [executionsOfUser, executionOf, Calendar.Moment.ofInstant]
  have hsorted : (runsFor "user-1" "" (-1)).apply executionsOfUser = executionsOfUser :=
    List.mergeSort_of_pairwise (by decide)
  have hruns : (siteWithRuns.deployment.transact plainSetup.rowId (listRuns "user-1" "" (-1))).1 =
      .ok runsOfUser :=
    (transact_listRuns_fst _ _ "user-1" "" (-1) hrows).trans (congrArg (List.mapM _) hsorted)
  have htitles : ∀ run ∈ runsOfUser, ∀ s ∈ run.steps, ∃ title, s.title = .str title := by
    simp [runsOfUser]
  obtain ⟨e, he⟩ : ∃ e, completeLog runsOfUser = .ok [e] :=
    ⟨_, (transact_logView hrows hutc hruns).1.completeLog_eq_ok_iff.mpr (.cons rfl .nil)⟩
  obtain ⟨page, -, -, hpage, id, contents, hcontents, hresponse⟩ :=
    log_page plainSetup logOfUser siteWithRuns hasks (Nat.le_refl 1) hrows hutc hruns htitles he
  have hempty : page = [] := hpage
  rw [hempty] at hcontents hresponse
  obtain rfl := List.forall₂_nil_left_iff.mp hcontents
  exact ⟨hruns, ⟨e, he⟩, id, hresponse⟩

end Service

end LeadFlow
