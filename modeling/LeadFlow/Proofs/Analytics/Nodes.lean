import LeadFlow.Analytics.Log
import LeadFlow.Analytics.Nodes
import LeadFlow.Proofs.Analytics.Recent
import LeadFlow.Proofs.Service.LogPage

set_option autoImplicit false

/-!
# Analytics: figures of the nodes

The totals of the nodes are what is counted over the recorded steps of the recent runs: there is one entry
for each node, in the order in which the nodes are first seen, and it counts the steps of its node.
`NodeTotals.Sums` is that invariant; each step keeps it.

Main statement: `nodePerformance_counts`.
-/

namespace LeadFlow.Analytics

open Calendar

/-! ## Steps of a node -/

/-- The id of the node of a step; ids are texts. -/
def nodeIdOf (s : Run × StepResult) : String := s.2.nodeId.text?.getD ""

/-- The step is one of the node. -/
def isAt (id : String) (s : Run × StepResult) : Bool := nodeIdOf s == id

/-- The step is one of the node and passed. -/
def passesAt (id : String) (s : Run × StepResult) : Bool := isAt id s && s.2.verdict == .pass

/-- The milliseconds that the steps of a node took. -/
def millisAt (id : String) (steps : List (Run × StepResult)) : Int :=
  ((steps.filter (isAt id)).map (·.2.durationMs)).sum

/-- The nodes of the steps, as they are first seen. -/
def nodesOf (steps : List (Run × StepResult)) : List String := (steps.map nodeIdOf).eraseDups

/-- The steps have texts for ids. -/
def HasTextIds (steps : List (Run × StepResult)) : Prop := ∀ s ∈ steps, ∃ id, s.2.nodeId = .str id

theorem nodeId_eq {steps : List (Run × StepResult)} (h : HasTextIds steps) {s : Run × StepResult}
    (hs : s ∈ steps) : s.2.nodeId = .str (nodeIdOf s) := by
  obtain ⟨id, hid⟩ := h s hs
  rw [nodeIdOf, hid]
  rfl

section Steps

variable {steps : List (Run × StepResult)} {s : Run × StepResult} {id : String}

theorem nodesOf_append_known (h : nodeIdOf s ∈ nodesOf steps) : nodesOf (steps ++ [s]) = nodesOf steps := by
  have hmem : nodeIdOf s ∈ steps.map nodeIdOf := List.mem_eraseDups.mp h
  rw [nodesOf, List.map_append, List.eraseDups_append, List.map_singleton]
  simp [List.removeAll, hmem, nodesOf]

theorem nodesOf_append_new (h : nodeIdOf s ∉ nodesOf steps) :
    nodesOf (steps ++ [s]) = nodesOf steps ++ [nodeIdOf s] := by
  have hmem : nodeIdOf s ∉ steps.map nodeIdOf := fun hmem => h (List.mem_eraseDups.mpr hmem)
  rw [nodesOf, List.map_append, List.eraseDups_append, List.map_singleton]
  simp [List.removeAll, hmem, nodesOf, List.eraseDups_cons]

theorem nodup_nodesOf (steps : List (Run × StepResult)) : (nodesOf steps).Nodup := by
  induction steps using List.reverseRecOn with
  | nil => exact List.nodup_nil
  | append_singleton steps s ih =>
    by_cases h : nodeIdOf s ∈ nodesOf steps
    · rwa [nodesOf_append_known h]
    · rw [nodesOf_append_new h]
      exact ih.append (List.nodup_singleton _) (by simpa using h)

theorem isAt_iff : isAt id s = true ↔ nodeIdOf s = id := beq_iff_eq

end Steps

/-! ## The totals of a node -/

namespace NodeTotals

/-- The totals count the steps of a node. -/
structure Sums (steps : List (Run × StepResult)) (id : String) (t : NodeTotals) : Prop where
  nodeId : t.nodeId = .str id
  /-- title, kind and time are those of the first of them -/
  first : ∃ s, steps.find? (isAt id) = some s ∧ t.title = s.2.title ∧ t.kind = s.2.kind ∧
    t.lastRun = s.1.startedAt
  executions : t.executions = steps.countP (isAt id)
  passes : t.passes = steps.countP (passesAt id)
  totalMs : t.totalMs = millisAt id steps
  /-- no run with one of them started later -/
  latest : ∀ s ∈ steps, isAt id s = true → Moment.lt t.lastRun s.1.startedAt = false

variable {steps : List (Run × StepResult)} {s : Run × StepResult} {id : String} {t : NodeTotals}

/-- A step of another node changes nothing. -/
theorem Sums.append_other (h : t.Sums steps id) (hs : isAt id s = false) : t.Sums (steps ++ [s]) id := by
  have hpasses : passesAt id s = false := by rw [passesAt, hs, Bool.false_and]
  obtain ⟨first, hfirst, hfields⟩ := h.first
  refine ⟨h.nodeId, ⟨first, ?_, hfields⟩, ?_, ?_, ?_, fun s' hs' hat => ?_⟩
  · rw [List.find?_append, hfirst]
    rfl
  · simp [h.executions, hs]
  · simp [h.passes, hpasses]
  · simp [h.totalMs, millisAt, hs]
  · obtain hs' | hs' := List.mem_append.mp hs'
    · exact h.latest s' hs' hat
    · obtain rfl := List.mem_singleton.mp hs'
      rw [hs] at hat
      cases hat

/-- A step of the node is taken into its totals. -/
theorem Sums.noting (h : t.Sums steps id) (hs : isAt id s = true)
    (hearlier : ∀ s' ∈ steps, Moment.lt s'.1.startedAt s.1.startedAt = false) :
    (t.noting s.1 s.2).Sums (steps ++ [s]) id := by
  obtain ⟨first, hfirst, htitle, hkind, htime⟩ := h.first
  have hkept : Moment.lt t.lastRun s.1.startedAt = false := by
    rw [htime]
    exact hearlier first (List.mem_of_find?_eq_some hfirst)
  have hlast : (t.noting s.1 s.2).lastRun = t.lastRun := by simp [NodeTotals.noting, hkept]
  refine ⟨h.nodeId, ⟨first, ?_, htitle, hkind, hlast.trans htime⟩, ?_, ?_, ?_, fun s' hs' hat => ?_⟩
  · rw [List.find?_append, hfirst]
    rfl
  · simp [NodeTotals.noting, h.executions, hs]
  · simp [NodeTotals.noting, h.passes, passesAt, hs]
  · simp [NodeTotals.noting, h.totalMs, millisAt, hs]
  · rw [hlast]
    obtain hs' | hs' := List.mem_append.mp hs'
    · exact h.latest s' hs' hat
    · obtain rfl := List.mem_singleton.mp hs'
      exact hkept

theorem lt_self (m : Moment) : Moment.lt m m = false := by
  unfold Moment.lt
  split <;> simp

/-- The first step of a node opens its totals. -/
theorem sums_opened (hs : isAt id s = true) (hid : s.2.nodeId = .str id)
    (hnew : ∀ s' ∈ steps, isAt id s' = false) :
    ((opened s.1 s.2).noting s.1 s.2).Sums (steps ++ [s]) id := by
  have hnone : steps.find? (isAt id) = none := List.find?_eq_none.mpr fun s' hs' => by simp [hnew s' hs']
  have hcount : steps.countP (isAt id) = 0 := List.countP_eq_zero.mpr fun s' hs' => by simp [hnew s' hs']
  have hpasses : steps.countP (passesAt id) = 0 :=
    List.countP_eq_zero.mpr fun s' hs' => by simp [passesAt, hnew s' hs']
  have hsteps : steps.filter (isAt id) = [] := List.filter_eq_nil_iff.mpr fun s' hs' => by simp [hnew s' hs']
  have hlast : ((opened s.1 s.2).noting s.1 s.2).lastRun = s.1.startedAt := by
    simp [NodeTotals.noting, opened, lt_self]
  refine ⟨hid, ⟨s, ?_, rfl, rfl, hlast⟩, ?_, ?_, ?_, fun s' hs' hat => ?_⟩
  · simp [List.find?_append, hnone, hs]
  · simp [NodeTotals.noting, opened, hcount, hs]
  · simp [NodeTotals.noting, opened, hpasses, passesAt, hs]
  · simp [NodeTotals.noting, opened, millisAt, hsteps, hs]
  · rw [hlast]
    obtain hs' | hs' := List.mem_append.mp hs'
    · rw [hnew s' hs'] at hat
      cases hat
    · obtain rfl := List.mem_singleton.mp hs'
      exact lt_self _

end NodeTotals

/-! ## The totals of all nodes -/

section Fold

variable {steps : List (Run × StepResult)} {s : Run × StepResult} {ids : List String} {ts : List NodeTotals}

theorem same_nodeId {t : NodeTotals} {id : String} (ht : t.Sums steps id)
    (hid : s.2.nodeId = .str (nodeIdOf s)) : t.nodeId.same s.2.nodeId = isAt id s := by
  rw [ht.nodeId, hid, Value.same, isAt]
  exact Bool.beq_comm

/-- A step of none of the nodes adds totals of its own at the end. -/
theorem noteStep_new (h : List.Forall₂ (fun id t => NodeTotals.Sums steps id t) ids ts)
    (hid : s.2.nodeId = .str (nodeIdOf s)) (hnew : nodeIdOf s ∉ ids) :
    noteStep s.1 s.2 ts = ts ++ [(NodeTotals.opened s.1 s.2).noting s.1 s.2] := by
  induction h with
  | nil => rfl
  | @cons id t ids ts ht hrest ih =>
    obtain ⟨hne, hrest'⟩ := List.ne_and_not_mem_of_not_mem_cons hnew
    have hother : isAt id s = false := beq_false_of_ne hne
    rw [noteStep, same_nodeId ht hid, hother, ih hrest']
    rfl

/-- A step of one of the nodes is taken into its totals, and the others stay as they are. -/
theorem noteStep_known (h : List.Forall₂ (fun id t => NodeTotals.Sums steps id t) ids ts)
    (hid : s.2.nodeId = .str (nodeIdOf s)) (hknown : nodeIdOf s ∈ ids) (hnodup : ids.Nodup)
    (hearlier : ∀ s' ∈ steps, Moment.lt s'.1.startedAt s.1.startedAt = false) :
    List.Forall₂ (fun id t => NodeTotals.Sums (steps ++ [s]) id t) ids (noteStep s.1 s.2 ts) := by
  induction h with
  | nil => exact absurd hknown List.not_mem_nil
  | @cons id t ids ts ht hrest ih =>
    obtain ⟨hfirst, hnodup⟩ := List.nodup_cons.mp hnodup
    rw [noteStep, same_nodeId ht hid]
    cases hat : isAt id s with
    | true =>
      have hothers : ∀ id' ∈ ids, isAt id' s = false := by
        rintro id' hid'
        refine beq_false_of_ne ?_
        rintro rfl
        rw [isAt_iff.mp hat] at hid'
        exact hfirst hid'
      exact .cons (ht.noting hat hearlier)
        (((List.forall₂_and_left _ _).mpr ⟨hothers, hrest⟩).imp fun _ _ h => h.2.append_other h.1)
    | false =>
      have hne : nodeIdOf s ≠ id := ne_of_beq_false hat
      exact .cons (ht.append_other hat) (ih (List.mem_of_ne_of_mem hne hknown) hnodup)

/-- A step keeps the account of all nodes. -/
theorem noteStep_sums (h : List.Forall₂ (fun id t => NodeTotals.Sums steps id t) (nodesOf steps) ts)
    (hid : s.2.nodeId = .str (nodeIdOf s))
    (hearlier : ∀ s' ∈ steps, Moment.lt s'.1.startedAt s.1.startedAt = false) :
    List.Forall₂ (fun id t => NodeTotals.Sums (steps ++ [s]) id t) (nodesOf (steps ++ [s]))
      (noteStep s.1 s.2 ts) := by
  by_cases hknown : nodeIdOf s ∈ nodesOf steps
  · rw [nodesOf_append_known hknown]
    exact noteStep_known h hid hknown (nodup_nodesOf steps) hearlier
  · have hothers : ∀ id ∈ nodesOf steps, isAt id s = false := by
      rintro id hid'
      refine beq_false_of_ne ?_
      rintro rfl
      exact hknown hid'
    have hnew : ∀ s' ∈ steps, isAt (nodeIdOf s) s' = false := by
      intro s' hs'
      refine beq_false_of_ne fun hsame => hknown ?_
      rw [← hsame]
      exact List.mem_eraseDups.mpr (List.mem_map_of_mem hs')
    rw [nodesOf_append_new hknown, noteStep_new h hid hknown]
    exact List.rel_append (((List.forall₂_and_left _ _).mpr ⟨hothers, h⟩).imp fun _ _ h => h.2.append_other h.1)
      (.cons (NodeTotals.sums_opened (beq_self_eq_true _) hid hnew) .nil)

theorem nodeTotals_eq (runs : List Run) :
    nodeTotals runs = (recordedSteps runs).foldl (fun ts s => noteStep s.1 s.2 ts) [] := by
  unfold nodeTotals recordedSteps
  simp only [List.foldl_flatMap, List.foldl_map]

/-- The totals of steps that were taken latest first are the account of all nodes. -/
theorem foldl_noteStep_sums (hids : HasTextIds steps)
    (hlatest : steps.Pairwise fun a b => Moment.lt a.1.startedAt b.1.startedAt = false) :
    List.Forall₂ (fun id t => NodeTotals.Sums steps id t) (nodesOf steps)
      (steps.foldl (fun ts s => noteStep s.1 s.2 ts) []) := by
  -- the steps are taken from the front, so the account is kept from the end
  induction steps using List.reverseRecOn with
  | nil => exact .nil
  | append_singleton steps s ih =>
    obtain ⟨hsteps, -, hlast⟩ := List.pairwise_append.mp hlatest
    have hbefore := ih (fun s' hs' => hids s' (List.mem_append_left _ hs')) hsteps
    rw [List.foldl_append]
    exact noteStep_sums hbefore (nodeId_eq hids (List.mem_append_right _ List.mem_cons_self))
      fun s' hs' => hlast s' hs' s List.mem_cons_self

/-- Each step is counted once. -/
theorem sum_executions_noteStep (run : Run) (step : StepResult) (ts : List NodeTotals) :
    ((noteStep run step ts).map (·.executions)).sum = (ts.map (·.executions)).sum + 1 := by
  induction ts with
  | nil => rfl
  | cons t ts ih =>
    rw [noteStep]
    split
    · simp only [List.map_cons, List.sum_cons, NodeTotals.noting]
      omega
    · simp only [List.map_cons, List.sum_cons, ih]
      omega

theorem sum_executions_foldl (steps : List (Run × StepResult)) (ts : List NodeTotals) :
    ((steps.foldl (fun ts s => noteStep s.1 s.2 ts) ts).map (·.executions)).sum =
      (ts.map (·.executions)).sum + steps.length := by
  induction steps generalizing ts with
  | nil => rfl
  | cons s steps ih =>
    rw [List.foldl_cons, ih, sum_executions_noteStep, List.length_cons]
    omega

end Fold

/-! ## Figures -/

/-- The figures of a node are those of its steps. -/
structure NodeMetric.Counts (steps : List (Run × StepResult)) (id : String) (m : NodeMetric) : Prop where
  nodeId : m.nodeId = .str id
  /-- title and kind are those of the first of them -/
  first : ∃ s, steps.find? (isAt id) = some s ∧ m.title = s.2.title ∧ m.kind = s.2.kind
  executions : m.executions = steps.countP (isAt id)
  successRate : m.successRate = percent (steps.countP (passesAt id)) (steps.countP (isAt id))
  avgDuration : meanSeconds (millisAt id steps) (steps.countP (isAt id)) = .ok m.avgDuration
  /-- the time is the greatest start of a run with one of them -/
  lastRun : (∃ s ∈ steps, isAt id s = true ∧ m.lastRun = s.1.startedAt) ∧
    ∀ s ∈ steps, isAt id s = true → Moment.lt m.lastRun s.1.startedAt = false

/-- The steps of a node have a mean duration: it is not beyond the largest double. -/
def HasMean (steps : List (Run × StepResult)) (id : String) : Prop :=
  ∃ x, dividedBy (millisAt id steps) (steps.countP (isAt id)) = .ok x

theorem metric_eq_ok {t : NodeTotals} {m : NodeMetric} (hm : t.metric = .ok m) :
    ∃ mean, meanSeconds t.totalMs t.executions = .ok mean ∧
      m = ⟨t.nodeId, t.title, t.kind, t.executions, percent t.passes t.executions, mean, t.lastRun⟩ := by
  unfold NodeTotals.metric at hm
  cases hmean : meanSeconds t.totalMs t.executions with
  | error f =>
    rw [hmean] at hm
    cases hm
  | ok mean =>
    rw [hmean] at hm
    cases hm
    exact ⟨mean, rfl, rfl⟩

theorem metric_counts {steps : List (Run × StepResult)} {id : String} {t : NodeTotals} {m : NodeMetric}
    (ht : t.Sums steps id) (hm : t.metric = .ok m) : m.Counts steps id := by
  obtain ⟨mean, hmean, rfl⟩ := metric_eq_ok hm
  obtain ⟨s, hs, htitle, hkind, htime⟩ := ht.first
  rw [ht.totalMs, ht.executions] at hmean
  refine ⟨ht.nodeId, ⟨s, hs, htitle, hkind⟩, ht.executions, ?_, hmean,
    ⟨s, List.mem_of_find?_eq_some hs, List.find?_some hs, htime⟩, ht.latest⟩
  rw [← ht.passes, ← ht.executions]

/-- There are figures of a node just if there is a mean. -/
theorem exists_metric_iff {steps : List (Run × StepResult)} {id : String} {t : NodeTotals}
    (ht : t.Sums steps id) : (∃ m, t.metric = .ok m) ↔ HasMean steps id := by
  unfold HasMean NodeTotals.metric meanSeconds
  rw [ht.totalMs, ht.executions]
  cases dividedBy (millisAt id steps) (steps.countP (isAt id)) with
  | ok x => exact ⟨fun _ => ⟨x, rfl⟩, fun _ => ⟨_, rfl⟩⟩
  | error f =>
    constructor
    · rintro ⟨m, hm⟩
      cases hm
    · rintro ⟨x, hx⟩
      cases hx

theorem forM_eq_ok {α : Type} {f : α → Outcome Unit} {as : List α} (h : ∀ a ∈ as, f a = .ok ()) :
    as.forM f = .ok () := by
  induction as with
  | nil => rfl
  | cons a as ih =>
    obtain ⟨ha, has⟩ := List.forall_mem_cons.mp h
    change ((f a).bind fun _ => as.forM f) = .ok ()
    rw [ha]
    exact ih has

theorem firstOf_natCast {α : Type} (n : Nat) (xs : List α) : firstOf (n : Int) xs = xs.take n := by
  rw [firstOf, if_pos (Int.natCast_nonneg n), Int.toNat_natCast]

/-- The figures of the nodes over some runs. -/
def figuresOf (recent : List Run) : Outcome (List NodeMetric) := do
  recent.forM fun r => r.steps.forM fun s => keyable s.nodeId
  (nodeTotals recent).mapM NodeTotals.metric

theorem nodePerformance_eq {runs sorted : List Run} (hsorted : newestFirst runs = .ok sorted) (window : Nat) :
    nodePerformance runs window = figuresOf (sorted.take window) := by
  rw [← firstOf_natCast, nodePerformance, hsorted]
  rfl

/-- The figures are made from the totals. -/
theorem figuresOf_eq {recent : List Run} (hids : HasTextIds (recordedSteps recent)) :
    figuresOf recent =
      ((recordedSteps recent).foldl (fun ts s => noteStep s.1 s.2 ts) []).mapM NodeTotals.metric := by
  have hkeys : (recent.forM fun r => r.steps.forM fun s => keyable s.nodeId) = .ok () := by
    refine forM_eq_ok fun r hr => forM_eq_ok fun s hs => ?_
    obtain ⟨id, hid⟩ := hids (r, s) (List.mem_flatMap.mpr ⟨r, hr, List.mem_map_of_mem hs⟩)
    rw [hid]
    rfl
  rw [figuresOf, hkeys, nodeTotals_eq]
  rfl

/-- There are figures just if there is a mean for each node. -/
theorem exists_mapM_metric_iff {steps : List (Run × StepResult)} {ids : List String} {ts : List NodeTotals}
    (h : List.Forall₂ (fun id t => NodeTotals.Sums steps id t) ids ts) :
    (∃ metrics, ts.mapM NodeTotals.metric = .ok metrics) ↔ ∀ id ∈ ids, HasMean steps id := by
  rw [exists_mapM_iff]
  induction h with
  | nil => simp
  | @cons id t ids ts ht hrest ih => rw [List.forall_mem_cons, List.forall_mem_cons, exists_metric_iff ht, ih]

theorem metrics_count {steps : List (Run × StepResult)} {ids : List String} {ts : List NodeTotals}
    (h : List.Forall₂ (fun id t => NodeTotals.Sums steps id t) ids ts) {metrics : List NodeMetric}
    (hmetrics : List.Forall₂ (fun t m => NodeTotals.metric t = .ok m) ts metrics) :
    List.Forall₂ (fun id m => NodeMetric.Counts steps id m) ids metrics := by
  induction h generalizing metrics with
  | nil =>
    obtain rfl := List.forall₂_nil_left_iff.mp hmetrics
    exact .nil
  | @cons id t ids ts ht hrest ih =>
    obtain ⟨m, ms, hm, hms, rfl⟩ := List.forall₂_cons_left_iff.mp hmetrics
    exact .cons (metric_counts ht hm) (ih hms)

/-! ## Figures of recent runs -/

theorem recordedSteps_latest {runs : List Run}
    (h : runs.Pairwise fun a b => Moment.lt a.startedAt b.startedAt = false) :
    (recordedSteps runs).Pairwise fun a b => Moment.lt a.1.startedAt b.1.startedAt = false := by
  unfold recordedSteps
  rw [List.pairwise_flatMap]
  refine ⟨fun r _ => ?_, h.imp fun hab x hx y hy => ?_⟩
  · rw [List.pairwise_map]
    exact List.pairwise_of_forall_mem_list fun _ _ _ _ => NodeTotals.lt_self _
  · obtain ⟨s, -, rfl⟩ := List.mem_map.mp hx
    obtain ⟨s', -, rfl⟩ := List.mem_map.mp hy
    exact hab

/-- The figures are exactly those of the nodes of the recent runs. -/
theorem nodePerformance_sorted {runs sorted : List Run} (hsorted : newestFirst runs = .ok sorted)
    (hlatest : sorted.Pairwise fun a b => Moment.lt a.startedAt b.startedAt = false) (window : Nat)
    (hids : HasTextIds (recordedSteps (sorted.take window))) :
    ((∃ metrics, nodePerformance runs window = .ok metrics) ↔
      ∀ id ∈ nodesOf (recordedSteps (sorted.take window)), HasMean (recordedSteps (sorted.take window)) id) ∧
    ∀ metrics, nodePerformance runs window = .ok metrics →
      List.Forall₂ (fun id m => NodeMetric.Counts (recordedSteps (sorted.take window)) id m)
        (nodesOf (recordedSteps (sorted.take window))) metrics ∧
      (metrics.map (·.executions)).sum = (recordedSteps (sorted.take window)).length := by
  obtain ⟨steps, hsteps⟩ : ∃ steps, recordedSteps (sorted.take window) = steps := ⟨_, rfl⟩
  have hordered := recordedSteps_latest (hlatest.sublist (List.take_sublist window sorted))
  rw [nodePerformance_eq hsorted, figuresOf_eq hids]
  rw [hsteps] at hids hordered ⊢
  have hsums := foldl_noteStep_sums hids hordered
  refine ⟨exists_mapM_metric_iff hsums, fun metrics hmetrics => ?_⟩
  have hmatched := mapM_eq_ok_iff.mp hmetrics
  refine ⟨metrics_count hsums hmatched, ?_⟩
  have hexecutions : (steps.foldl (fun ts s => noteStep s.1 s.2 ts) []).map (·.executions) =
      metrics.map (·.executions) := by
    refine map_eq_map_of_forall₂ hmatched fun t m hm => ?_
    obtain ⟨mean, -, rfl⟩ := metric_eq_ok hm
    rfl
  rw [← hexecutions, sum_executions_foldl]
  exact Nat.zero_add _

theorem HasTextIds.take {runs sorted : List Run} (h : HasTextIds (recordedSteps runs))
    (hperm : sorted.Perm runs) (window : Nat) : HasTextIds (recordedSteps (sorted.take window)) := by
  intro s hs
  obtain ⟨r, hr, hsr⟩ := List.mem_flatMap.mp hs
  exact h s (List.mem_flatMap.mpr ⟨r, hperm.mem_iff.mp (List.mem_of_mem_take hr), hsr⟩)

/-- Of runs that are latest first already, those within the window have the figures of all. -/
theorem nodePerformance_take {runs : List Run} (h : LatestFirst runs) (window : Nat) :
    nodePerformance (runs.take window) window = nodePerformance runs window := by
  rw [nodePerformance_eq h.newestFirst, nodePerformance_eq (h.take window).newestFirst, List.take_take,
    Nat.min_self]

/-- Fetching no more runs than the window has room for changes nothing. -/
theorem nodePerformance_fetched {db : Storage.Database} {rows : List Storage.ExecutionRow}
    (hrows : db.rows .executions = .ok rows) (hutc : ∀ row ∈ rows, row.startedAt.zone = some .utc)
    (around : Storage.Surroundings) (issued : Nat) (actor workflowId : String) (window : Nat) {limit : Nat}
    (hlimit : rows.length ≤ limit) {all : List Run}
    (hall : (Storage.transact (Storage.listRuns actor workflowId limit) around db issued).1 = .ok all) :
    ∃ recent, (Storage.transact (Storage.listRuns actor workflowId window) around db issued).1 = .ok recent ∧
      nodePerformance recent window = nodePerformance all window := by
  have hlength : ((Storage.runsFor actor workflowId (-1)).apply rows).length ≤ limit := by
    rw [(Storage.runsFor_perm actor workflowId rows).length_eq]
    exact Nat.le_trans (List.length_filter_le _ _) hlimit
  rw [Storage.transact_listRuns_fst around issued actor workflowId _ hrows, Storage.runsFor_take,
    List.take_of_length_le hlength, ← Storage.transact_listRuns_fst around issued actor workflowId _ hrows] at hall
  obtain ⟨hmatched, hlatest⟩ := Storage.listRuns_latest hrows hutc around issued hall
  refine ⟨all.take window, ?_, nodePerformance_take hlatest window⟩
  rw [Storage.transact_listRuns_fst around issued actor workflowId _ hrows, Storage.runsFor_take]
  exact mapM_eq_ok_iff.mpr (List.forall₂_take window hmatched)

/-! ## The main result -/

/-- The figures are a fold of the recent runs: as many of the latest as the window has room for.  There are
figures just if each node has a mean, one for each node, in the order in which the nodes are first seen, and
each step is counted once.  Runs that started apart have the same figures in whichever order they are given;
so have the runs that a listing gives an actor, if no more are fetched than the window has room for. -/
theorem nodePerformance_counts {runs : List Run} (hruns : Chronological runs)
    (hids : HasTextIds (recordedSteps runs)) (window : Nat) :
    (∃ sorted, InOrder runs sorted ∧
      let steps := recordedSteps (sorted.take window)
      ((∃ metrics, nodePerformance runs window = .ok metrics) ↔ ∀ id ∈ nodesOf steps, HasMean steps id) ∧
      ∀ metrics, nodePerformance runs window = .ok metrics →
        List.Forall₂ (fun id m => NodeMetric.Counts steps id m) (nodesOf steps) metrics ∧
          (metrics.map (·.executions)).sum = steps.length) ∧
    (AreApart runs → ∀ runs', runs'.Perm runs → nodePerformance runs' window = nodePerformance runs window) ∧
    ∀ (db : Storage.Database) (rows : List Storage.ExecutionRow) (around : Storage.Surroundings)
        (issued : Nat) (actor workflowId : String) (limit : Nat) (all : List Run),
      db.rows .executions = .ok rows → (∀ row ∈ rows, row.startedAt.zone = some .utc) →
      rows.length ≤ limit →
      (Storage.transact (Storage.listRuns actor workflowId limit) around db issued).1 = .ok all →
      ∃ recent,
        (Storage.transact (Storage.listRuns actor workflowId window) around db issued).1 = .ok recent ∧
        nodePerformance recent window = nodePerformance all window := by
  refine ⟨?_, fun hapart runs' hperm => ?_,
    fun db rows around issued actor workflowId limit all hrows hutc hlimit hall =>
      nodePerformance_fetched hrows hutc around issued actor workflowId window hlimit hall⟩
  · obtain ⟨sorted, hsorted, hinOrder⟩ := newestFirst_inOrder hruns
    exact ⟨sorted, hinOrder,
      nodePerformance_sorted hsorted hinOrder.latest window (hids.take hinOrder.perm window)⟩
  · unfold nodePerformance
    rw [newestFirst_perm hruns hapart hperm]

/-! ## Starts out of order, and a duration without a mean -/

/-- A run with one step. -/
def runAt (startedAt : Moment) (nodeId : String) (durationMs : Int) : Run where
  id := s!"run-{nodeId}"
  workflowId := "wf-1"
  workflowName := "Nurture"
  leadId := "lead-1"
  leadName := "Jane Doe"
  status := .success
  steps := [⟨.str nodeId, .str "Hello", .action, .pass, .str "", durationMs⟩]
  startedAt := startedAt
  completedAt := startedAt
  error := none

/-- In London, the hour after one o'clock comes twice on 25 October 2026. -/
def london : Option Zone := (Region.named? "Europe/London").map .region

/-- Ten past one the second time, ten to two the first time, and one o'clock in UTC, which is between them. -/
def changeRuns : List Run :=
  [runAt ⟨63928487400000000, london, true⟩ "a" 0, runAt ⟨63928489800000000, london, false⟩ "b" 0,
    runAt ⟨63928486800000000, some .utc, false⟩ "c" 0]

/-- There may be no figures at all: starts of which only one has a zone cannot be put in order, and a mean
beyond the largest double is a fault.  Where a zone changes its clock there may be no latest run: each of
some runs started before another of them. -/
theorem nodePerformance_none :
    (∀ metrics, nodePerformance [runAt ⟨0, none, false⟩ "a" 0, runAt ⟨0, some .utc, false⟩ "b" 0] 2 ≠
      .ok metrics) ∧
    (∀ metrics, nodePerformance [runAt ⟨0, some .utc, false⟩ "a" (Int.pow 10 400)] 1 ≠ .ok metrics) ∧
    ∀ r ∈ changeRuns, ∃ r' ∈ changeRuns, Moment.lt r.startedAt r'.startedAt = true := by
  refine ⟨fun metrics h => ?_, fun metrics h => ?_, ?_⟩
  · cases h
  · have hnone : (match nodePerformance [runAt ⟨0, some .utc, false⟩ "a" (Int.pow 10 400)] 1 with
      | .ok _ => false
      | .error _ => true) = true := by decide +kernel
    rw [h] at hnone
    cases hnone
  · decide +kernel

/-! ## Two runs of two steps -/

/-- An earlier run and a later one, with a step in common. -/
def twoRuns : List Run :=
  [{ runAt (.ofInstant 0) "a" 0 with
      steps := [⟨.str "a", .str "Hello", .action, .fail, .str "", 0⟩,
        ⟨.str "b", .str "Bye", .action, .pass, .str "", 0⟩] },
    runAt (.ofInstant 60000000) "b" 0]

/-- The later run shows its node first, and the node counts the step of the other run too. -/
theorem nodePerformance_counts_twoRuns :
    (∃ metrics, nodePerformance twoRuns 2 = .ok metrics ∧
      metrics.map (·.nodeId.text?) = [some "b", some "a"] ∧ metrics.map (·.executions) = [2, 1] ∧
      metrics.map (·.successRate) = [100, 0]) ∧
    nodePerformance twoRuns.reverse 2 = nodePerformance twoRuns 2 := by
  have hzone : ∀ r ∈ twoRuns, r.startedAt.zone = some .utc := by decide +kernel
  have hchronological : Chronological twoRuns := .of_oneZone hzone
  have hids : HasTextIds (recordedSteps twoRuns) := by
    intro s hs
    simp only [recordedSteps, twoRuns, runAt, List.flatMap_cons, List.flatMap_nil, List.map_cons, List.map_nil,
      List.cons_append, List.nil_append, List.mem_cons, List.not_mem_nil, or_false] at hs
    obtain rfl | rfl | rfl := hs <;> exact ⟨_, rfl⟩
  have hapart : AreApart twoRuns := by
    unfold AreApart
    decide +kernel
  obtain ⟨⟨sorted, hinOrder, hexists, hmetrics⟩, hperm, -⟩ := nodePerformance_counts hchronological hids 2
  obtain rfl : twoRuns.reverse = sorted :=
    hinOrder.unique hapart (List.reverse_perm _) (by decide +kernel)
  have hnodes : nodesOf (recordedSteps (twoRuns.reverse.take 2)) = ["b", "a"] := by decide +kernel
  have hmeans : ∀ id ∈ nodesOf (recordedSteps (twoRuns.reverse.take 2)),
      HasMean (recordedSteps (twoRuns.reverse.take 2)) id := by
    rw [hnodes]
    exact List.forall_mem_cons.mpr ⟨⟨_, rfl⟩, List.forall_mem_singleton.mpr ⟨_, rfl⟩⟩
  obtain ⟨metrics, hok⟩ := hexists.mpr hmeans
  obtain ⟨hcounts, -⟩ := hmetrics metrics hok
  rw [hnodes] at hcounts
  obtain ⟨b, rest, hb, hrest, rfl⟩ := List.forall₂_cons_left_iff.mp hcounts
  obtain ⟨a, rest, ha, hnil, rfl⟩ := List.forall₂_cons_left_iff.mp hrest
  obtain rfl := List.forall₂_nil_left_iff.mp hnil
  refine ⟨⟨_, hok, ?_, ?_, ?_⟩, hperm hapart _ (List.reverse_perm _)⟩
  · simp only [List.map_cons, List.map_nil, hb.nodeId, ha.nodeId]
    rfl
  · simp only [List.map_cons, List.map_nil, hb.executions, ha.executions]
    decide +kernel
  · simp only [List.map_cons, List.map_nil, hb.successRate, ha.successRate]
    decide +kernel

end LeadFlow.Analytics
