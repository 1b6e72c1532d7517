import LeadFlow.Proofs.Storage.Changes
import LeadFlow.Storage.Runs
import Mathlib.Data.List.Forall2
import Mathlib.Data.List.Perm.Basic

set_option autoImplicit false

/-!
# Storage: reading in a new session

A new session holds no rows, so what it reads is what is stored: a query answers with the rows that
its selection gives of the table.  Reading writes nothing, so a transaction that only reads succeeds if
its queries do.

Main statements: `runIn_select_begin`, `transact_fst_of_alive`.
-/

namespace LeadFlow

/-- What succeeds has succeeded from its first part on. -/
theorem bind_eq_ok_iff {ε α β : Type} {x : Except ε α} {f : α → Except ε β} {b : β} :
    x.bind f = .ok b ↔ ∃ a, x = .ok a ∧ f a = .ok b := by
  cases x with
  | error e => exact ⟨fun h => (nomatch h), fun ⟨_, h, _⟩ => (nomatch h)⟩
  | ok a => exact ⟨fun h => ⟨a, rfl, h⟩, fun ⟨_, rfl, h⟩ => h⟩

/-! ## Lists of rows -/

/-- A list decodes as its items do. -/
theorem mapM_eq_ok_iff {α β : Type} {f : α → Outcome β} {as : List α} {bs : List β} :
    as.mapM f = .ok bs ↔ List.Forall₂ (fun a b => f a = .ok b) as bs := by
  induction as generalizing bs with
  | nil =>
    rw [List.mapM_nil, List.forall₂_nil_left_iff]
    exact ⟨fun h => (Except.ok.inj h).symm, fun h => h ▸ rfl⟩
  | cons a as ih =>
    rw [List.mapM_cons, List.forall₂_cons_left_iff]
    cases ha : f a with
    | error e => simp [bind, Except.bind]
    | ok b =>
      cases has : as.mapM f with
      | error e =>
        have hnone : ∀ rest, ¬ List.Forall₂ (fun a b => f a = .ok b) as rest := fun rest hrest => by
          cases has.symm.trans (ih.mpr hrest)
        simp [bind, Except.bind, hnone]
      | ok rest =>
        have honly : ∀ rest', List.Forall₂ (fun a b => f a = .ok b) as rest' ↔ rest = rest' := fun rest' => by
          rw [← ih, has, Except.ok.injEq]
        simp [bind, Except.bind, pure, Except.pure, honly, eq_comm]

/-- A list decodes just if its items do. -/
theorem exists_mapM_iff {α β : Type} {f : α → Outcome β} {as : List α} :
    (∃ bs, as.mapM f = .ok bs) ↔ ∀ a ∈ as, ∃ b, f a = .ok b := by
  simp only [mapM_eq_ok_iff]
  induction as with
  | nil => exact ⟨fun _ => List.forall_mem_nil _, fun _ => ⟨[], .nil⟩⟩
  | cons a as ih =>
    rw [List.forall_mem_cons, ← ih]
    constructor
    · rintro ⟨bs, hbs⟩
      obtain ⟨b, bs, hb, hbs, -⟩ := List.forall₂_cons_left_iff.mp hbs
      exact ⟨⟨b, hb⟩, bs, hbs⟩
    · rintro ⟨⟨b, hb⟩, bs, hbs⟩
      exact ⟨b :: bs, .cons hb hbs⟩

/-- What is decoded from a list is decoded from an item of it. -/
theorem exists_of_mem_mapM {α β : Type} {f : α → Outcome β} {as : List α} {bs : List β}
    (h : as.mapM f = .ok bs) {b : β} (hb : b ∈ bs) : ∃ a ∈ as, f a = .ok b := by
  obtain ⟨i, hi, rfl⟩ := List.mem_iff_getElem.mp hb
  obtain ⟨hlength, hget⟩ := List.forall₂_iff_get.mp (mapM_eq_ok_iff.mp h)
  exact ⟨as.get ⟨i, hlength ▸ hi⟩, List.get_mem _ _, hget i _ hi⟩

/-- A list that decodes also decodes in another order. -/
theorem exists_mapM_of_perm {α β : Type} {f : α → Outcome β} {as as' : List α} {bs : List β}
    (h : as.mapM f = .ok bs) (hperm : as'.Perm as) : ∃ bs', as'.mapM f = .ok bs' ∧ bs'.Perm bs := by
  obtain ⟨bs', hdecoded, hbs⟩ := List.perm_comp_forall₂ hperm (mapM_eq_ok_iff.mp h)
  exact ⟨bs', mapM_eq_ok_iff.mpr hdecoded, hbs⟩

/-- What the items of two lists have in common, the lists have. -/
theorem map_eq_map_of_forall₂ {α β γ : Type} {R : α → β → Prop} {f : α → γ} {g : β → γ} {as : List α}
    {bs : List β} (h : List.Forall₂ R as bs) (hR : ∀ a b, R a b → f a = g b) : as.map f = bs.map g := by
  rw [← List.forall₂_eq_eq_eq, List.forall₂_map_left_iff, List.forall₂_map_right_iff]
  exact h.imp hR

/-- Decoding a list ends with the first item that faults. -/
theorem mapM_eq_error {α β : Type} {f : α → Outcome β} {before after : List α} {a : α} {e : Fault}
    (hbefore : ∀ b ∈ before, ∃ c, f b = .ok c) (ha : f a = .error e) :
    (before ++ a :: after).mapM f = .error e := by
  induction before with
  | nil =>
    rw [List.nil_append, List.mapM_cons, ha]
    rfl
  | cons b before ih =>
    obtain ⟨⟨c, hc⟩, hbefore⟩ := List.forall_mem_cons.mp hbefore
    rw [List.cons_append, List.mapM_cons, hc]
    change (do return c :: (← (before ++ a :: after).mapM f) : Outcome (List β)) = .error e
    rw [ih hbefore]
    rfl

namespace Storage

/-! ## Selections -/

namespace Selection

variable {ρ : Type} (keep : ρ → Bool) (order? : Option (ρ → ρ → Bool))

/-- A limit cuts off what comes last. -/
theorem apply_take (limit : Nat) (rows : List ρ) :
    (⟨keep, order?, limit⟩ : Selection ρ).apply rows =
      ((⟨keep, order?, -1⟩ : Selection ρ).apply rows).take limit := rfl

/-- Without a limit all rows are selected that satisfy the condition. -/
theorem apply_perm (rows : List ρ) :
    ((⟨keep, order?, -1⟩ : Selection ρ).apply rows).Perm (rows.filter keep) := by
  cases order? with
  | none => exact .refl _
  | some le => exact List.mergeSort_perm _ _

/-- The newest come first. -/
theorem apply_newest (time : ρ → Calendar.Moment) (rows : List ρ) :
    ((⟨keep, some (newestBy time), -1⟩ : Selection ρ).apply rows).Pairwise
      fun a b => (time b).instant ≤ (time a).instant := by
  have hsorted : ((⟨keep, some (newestBy time), -1⟩ : Selection ρ).apply rows).Pairwise
      fun a b => newestBy time a b = true := by
    refine List.pairwise_mergeSort (fun a b c hab hbc => ?_) (fun a b => ?_) _
    · simp only [newestBy, decide_eq_true_eq] at *
      omega
    · simp only [newestBy, Bool.or_eq_true, decide_eq_true_eq]
      omega
  exact hsorted.imp fun h => of_decide_eq_true h

end Selection

/-! ## Queries -/

section Reading

variable {α β : Type} {around : Surroundings} {db : Database} {issued : Nat}

/-- What a transaction comes to: the outcome of its work, unless the session cannot be committed. -/
theorem transact_fst (p : Storage α) (around : Surroundings) (db : Database) (issued : Nat) :
    (transact p around db issued).1 =
      (p.runIn around (.begin db issued)).1.bind fun a =>
        (p.runIn around (.begin db issued)).2.commit.map fun _ => a := by
  unfold transact
  obtain ⟨⟨o, s⟩, hx⟩ : ∃ x, p.runIn around (.begin db issued) = x := ⟨_, rfl⟩
  rw [hx]
  cases o with
  | error f => rfl
  | ok a => cases hcommit : s.commit <;> simp only [hcommit] <;> rfl

/-- Work that leaves its session usable comes to the same as a transaction. -/
theorem transact_fst_of_alive {p : Storage α} {o : Outcome α} {s : Session}
    (h : p.runIn around (.begin db issued) = (o, s)) (halive : s.failure = none) :
    (transact p around db issued).1 = o := by
  rw [transact_fst, h]
  unfold Session.commit
  rw [halive]
  cases o <;> rfl

theorem transact_fst_of_error {p : Storage α} {f : Fault} {s : Session}
    (h : p.runIn around (.begin db issued) = (.error f, s)) : (transact p around db issued).1 = .error f := by
  rw [transact_fst, h]
  rfl

/-- Work is over where its first part has faulted. -/
theorem runIn_bind_of_error {p : Storage α} {f : Fault} {s s' : Session}
    (h : p.runIn around s = (.error f, s')) (g : α → Storage β) :
    (p >>= g).runIn around s = (.error f, s') := by
  rw [runIn_bind, h]

theorem runIn_found (o : Outcome α) (around : Surroundings) (s : Session) :
    (found o).runIn around s = (o, s) := by
  cases o <;> rfl

variable {t : TableName} {rows : List t.Row}

/-- A query for rows of a table of which the session holds none answers with what is stored. -/
theorem runIn_select_unheld {s : Session} (around : Surroundings) (wanted : Selection t.Row)
    (halive : s.failure = none) (hheld : s.held.get t = []) (hrows : s.database.rows t = .ok rows) :
    (select t wanted).runIn around s =
      (.ok (wanted.apply rows), { s with held := s.held.set t (wanted.apply rows) }) := by
  have hselect : (select t wanted).runIn around s = (remembered t (wanted.apply rows)).runIn around s :=
    runIn_select halive hrows
  have hanswer := hselect.trans (runIn_remembered t _)
  have hsame : ((wanted.apply rows).map fun r => (heldFor t [] r).getD r) = wanted.apply rows := by
    simp [heldFor]
  have hfresh : ((wanted.apply rows).filter fun r => (heldFor t [] r).isNone) = wanted.apply rows := by
    simp [heldFor]
  rw [hheld, hsame, hfresh] at hanswer
  exact hanswer

theorem held_begin (db : Database) (issued : Nat) (t : TableName) : (Session.begin db issued).held.get t = [] := by
  cases t <;> rfl

/-- A query in a new session answers with what is stored. -/
theorem runIn_select_begin (around : Surroundings) (issued : Nat) (wanted : Selection t.Row)
    (hrows : db.rows t = .ok rows) :
    ∃ s, (select t wanted).runIn around (.begin db issued) = (.ok (wanted.apply rows), s) ∧
      s.failure = none ∧ s.database = db :=
  ⟨_, runIn_select_unheld around wanted rfl (held_begin db issued t) hrows, rfl, rfl⟩

/-- The row of an id is the first stored one with that id that satisfies the condition. -/
theorem runIn_selectOne_begin (around : Surroundings) (issued : Nat) (keep : t.Row → Bool) (id : String)
    (hrows : db.rows t = .ok rows) :
    ∃ s, (selectOne t keep id).runIn around (.begin db issued) =
        (.ok (rows.find? fun r => t.idOf r == id && keep r), s) ∧ s.failure = none ∧ s.database = db := by
  obtain ⟨s, hs, halive, hdb⟩ :=
    runIn_select_begin around issued (.only fun r => t.idOf r == id && keep r) hrows
  refine ⟨s, ?_, halive, hdb⟩
  unfold selectOne
  rw [runIn_bind_of_ok hs, ← List.head?_filter]
  rfl

/-- A stored workflow is read as its row decodes. -/
theorem runIn_findWorkflow_begin (around : Surroundings) (issued : Nat) {owner id : String}
    {rows : List WorkflowRow} {row : WorkflowRow} (hrows : db.rows .workflows = .ok rows)
    (hrow : (rows.find? fun r => r.id == id && r.isVisible owner) = some row) :
    ∃ s, (findWorkflow owner id).runIn around (.begin db issued) = (row.workflow, s) ∧
      s.failure = none ∧ s.database = db := by
  obtain ⟨s, hs, halive, hdb⟩ :=
    runIn_selectOne_begin around issued (WorkflowRow.isVisible owner) id hrows
  refine ⟨s, ?_, halive, hdb⟩
  have hfound : (rows.find? fun r => TableName.idOf .workflows r == id && r.isVisible owner) = some row :=
    hrow
  unfold findWorkflow
  rw [runIn_bind_of_ok hs, hfound]
  exact runIn_found row.workflow around s

/-- The runs that a listing gives an actor, of one workflow unless its id is empty. -/
def runsFor (actor workflowId : String) (limit : Int) : Selection ExecutionRow :=
  ⟨ExecutionRow.isOf actor workflowId, some (newestBy (·.startedAt)), limit⟩

/-- A limit cuts off what comes last. -/
theorem runsFor_take (actor workflowId : String) (limit : Nat) (rows : List ExecutionRow) :
    (runsFor actor workflowId limit).apply rows = ((runsFor actor workflowId (-1)).apply rows).take limit :=
  Selection.apply_take _ _ limit rows

theorem runsFor_perm (actor workflowId : String) (rows : List ExecutionRow) :
    ((runsFor actor workflowId (-1)).apply rows).Perm (rows.filter (ExecutionRow.isOf actor workflowId)) :=
  Selection.apply_perm _ _ rows

/-- The latest runs come first. -/
theorem runsFor_pairwise (actor workflowId : String) (rows : List ExecutionRow) :
    ((runsFor actor workflowId (-1)).apply rows).Pairwise
      fun a b => b.startedAt.instant ≤ a.startedAt.instant :=
  Selection.apply_newest _ _ rows

/-- Stored runs are read as their rows decode. -/
theorem runIn_listRuns_unheld {s : Session} (around : Surroundings) (actor workflowId : String) (limit : Int)
    {rows : List ExecutionRow} (halive : s.failure = none) (hheld : s.held.get .executions = [])
    (hrows : s.database.rows .executions = .ok rows) :
    ∃ s', (listRuns actor workflowId limit).runIn around s =
        (((runsFor actor workflowId limit).apply rows).mapM ExecutionRow.run, s') ∧ s'.failure = none := by
  have hselect := runIn_select_unheld (t := .executions) around (runsFor actor workflowId limit) halive
    hheld hrows
  refine ⟨{ s with held := s.held.set .executions ((runsFor actor workflowId limit).apply rows) }, ?_, halive⟩
  unfold listRuns
  change (explained "Run query failed: " (select .executions (runsFor actor workflowId limit)) >>= _).runIn
    around s = _
  rw [runIn_bind_of_ok (runIn_explained hselect)]
  exact runIn_found _ around _

theorem runIn_listRuns_begin (around : Surroundings) (issued : Nat) (actor workflowId : String) (limit : Int)
    {rows : List ExecutionRow} (hrows : db.rows .executions = .ok rows) :
    ∃ s, (listRuns actor workflowId limit).runIn around (.begin db issued) =
        (((runsFor actor workflowId limit).apply rows).mapM ExecutionRow.run, s) ∧ s.failure = none :=
  runIn_listRuns_unheld around actor workflowId limit rfl (held_begin db issued .executions) hrows

theorem transact_listRuns_fst (around : Surroundings) (issued : Nat) (actor workflowId : String) (limit : Int)
    {rows : List ExecutionRow} (hrows : db.rows .executions = .ok rows) :
    (transact (listRuns actor workflowId limit) around db issued).1 =
      ((runsFor actor workflowId limit).apply rows).mapM ExecutionRow.run := by
  obtain ⟨s, hs, halive⟩ := runIn_listRuns_begin around issued actor workflowId limit hrows
  exact transact_fst_of_alive hs halive

end Reading

end Storage

end LeadFlow
