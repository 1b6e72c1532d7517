import LeadFlow.Proofs.Storage.Fresh
import LeadFlow.Storage.Deployment
import Mathlib

set_option autoImplicit false

/-!
# Storage: which leads are selected

Leads that are asked for by id come in the order of asking: each has the place of the last mention of its
id, and places that ascend make a part of what was asked for.  As ids are unique, no more leads are found
than ids are given, so a limit with room for these cuts nothing off.  Leads that are asked for by conditions
are the newest of those that meet them.

Main statements: `chosen_eq_ok`, `selected_named`, `selected_newest`.
-/

namespace LeadFlow.Storage

open Execution

/-! ## What has been read -/

section Reading

variable {α β : Type} {around : Surroundings} {s s' : Session}

/-- Work that succeeds has succeeded in its first part. -/
theorem runIn_bind_eq_ok {p : Storage α} {f : α → Storage β} {b : β}
    (h : (p >>= f).runIn around s = (.ok b, s')) :
    ∃ a s₁, p.runIn around s = (.ok a, s₁) ∧ (f a).runIn around s₁ = (.ok b, s') := by
  rw [runIn_bind] at h
  split at h
  · rename_i a s₁ hp
    exact ⟨a, s₁, hp, h⟩
  · cases h

theorem runIn_explained_eq_ok {text : String} {p : Storage α} {a : α}
    (h : (explained text p).runIn around s = (.ok a, s')) : p.runIn around s = (.ok a, s') := by
  obtain ⟨⟨o, s₁⟩, hp⟩ : ∃ x, p.runIn around s = x := ⟨_, rfl⟩
  cases o with
  | ok b =>
    rw [runIn_explained hp] at h
    rwa [hp]
  | error e =>
    unfold Storage.runIn at *
    simp only [explained, tryCatch, tryCatchThe, MonadExceptOf.tryCatch, ExceptT.tryCatch, ExceptT.mk,
      bind, StateT.bind, hp] at h
    split at h <;> cases h

theorem runIn_found_eq_ok {o : Outcome α} {a : α} (h : (found o).runIn around s = (.ok a, s')) :
    o = .ok a ∧ s' = s := by
  rw [runIn_found] at h
  exact ⟨congrArg Prod.fst h, (congrArg Prod.snd h).symm⟩

/-- A query that a session without rows of the table has answered has been answered from the stored rows. -/
theorem select_eq_ok {t : TableName} {wanted : Selection t.Row} {answer : List t.Row} (halive : s.failure = none)
    (hheld : s.held.get t = []) (h : (select t wanted).runIn around s = (.ok answer, s')) :
    ∃ rows, s.database.rows t = .ok rows ∧ answer = wanted.apply rows ∧
      s' = { s with held := s.held.set t answer } := by
  have hget : (get : Storage Session).runIn around s = (.ok s, s) := rfl
  cases hrows : s.database.rows t with
  | ok rows =>
    rw [runIn_select_unheld around wanted halive hheld hrows] at h
    cases h
    exact ⟨rows, rfl, rfl, rfl⟩
  | error f =>
    rw [select, runIn_bind_of_ok (runIn_usable halive), runIn_bind_of_ok hget, hrows] at h
    obtain ⟨rows, s₁, hfound, -⟩ := runIn_bind_eq_ok h
    cases (runIn_found_eq_ok hfound).1

/-- The leads selected are decoded from what the query gives of the stored rows, which the session holds from
then on, and then arranged. -/
theorem selectLeads_eq_ok {owner : String} {q : LeadQuery} {leads : List Lead} (halive : s.failure = none)
    (hheld : s.held.get .leads = []) (h : (selectLeads owner q).runIn around s = (.ok leads, s')) :
    ∃ rows found, s.database.rows .leads = .ok rows ∧
      ((q.selection owner).apply rows).mapM LeadRow.lead = .ok found ∧ leads = q.arranged found ∧
      s' = { s with held := s.held.set .leads ((q.selection owner).apply rows) } := by
  unfold selectLeads at h
  obtain ⟨answer, s₁, hselect, hrest⟩ := runIn_bind_eq_ok h
  have hselect := runIn_explained_eq_ok hselect
  cases hrefusal : q.refusal with
  | some f =>
    rw [hrefusal] at hselect
    cases hselect
  | none =>
    rw [hrefusal] at hselect
    obtain ⟨rows, hrows, rfl, hs₁⟩ := select_eq_ok halive hheld hselect
    obtain ⟨found, s₂, hfound, hlast⟩ := runIn_bind_eq_ok hrest
    obtain ⟨hdecoded, rfl⟩ := runIn_found_eq_ok hfound
    cases hlast
    exact ⟨rows, found, hrows, hdecoded, rfl, hs₁⟩

variable {τ ω : Type}

/-- The leads of an execution are selected from the stored ones. -/
theorem chosen_eq_ok {desk : Desk τ ω} {workflowId : String} {q : LeadQuery} {w : Workflow} {leads : List Lead}
    {db : Database} {issued : Nat}
    (h : (desk.chosen workflowId q).runIn around (.begin db issued) = (.ok (w, leads), s')) :
    ∃ rows found, db.rows .leads = .ok rows ∧
      ((q.selection desk.context.actor).apply rows).mapM LeadRow.lead = .ok found ∧ leads = q.arranged found := by
  unfold Desk.chosen at h
  obtain ⟨w', s₁, hworkflow, hrest⟩ := runIn_bind_eq_ok h
  obtain ⟨leads', s₂, hleads, hlast⟩ := runIn_bind_eq_ok hrest
  cases hlast
  -- reading the workflow has left the session without leads
  have hopen : s₁.failure = none ∧ s₁.held.get .leads = [] ∧ s₁.database = db := by
    unfold findWorkflow selectOne at hworkflow
    obtain ⟨found, s₃, hone, hdecoded⟩ := runIn_bind_eq_ok hworkflow
    obtain ⟨answer, s₄, hselect, hhead⟩ := runIn_bind_eq_ok hone
    obtain ⟨rows, -, -, rfl⟩ := select_eq_ok rfl (held_begin db issued .workflows) hselect
    cases hhead
    split at hdecoded
    · obtain ⟨-, rfl⟩ := runIn_found_eq_ok hdecoded
      exact ⟨rfl, rfl, rfl⟩
    · cases hdecoded
  obtain ⟨halive, hheld, rfl⟩ := hopen
  obtain ⟨rows, found, hrows, hfound, harranged, -⟩ := selectLeads_eq_ok halive hheld hleads
  exact ⟨rows, found, hrows, hfound, harranged⟩

end Reading

/-! ## The order of asking -/

namespace LeadQuery

variable {ids : List String}

/-- An id that is asked for stands at its place. -/
theorem getElem_placeIn {id : String} (h : id ∈ ids) :
    ∃ hlt : placeIn ids id < ids.length, ids[placeIn ids id] = id := by
  cases hi : ids.reverse.idxOf? id with
  | none => exact absurd (List.mem_reverse.mpr h) (List.idxOf?_eq_none_iff.mp hi)
  | some i =>
    have hplace : placeIn ids id = ids.length - 1 - i := by
      unfold placeIn
      rw [hi]
    obtain ⟨hlt, hget, -⟩ := List.idxOf?_eq_some_iff.mp hi
    rw [List.length_reverse] at hlt
    rw [List.getElem_reverse] at hget
    simp only [hplace]
    exact ⟨by omega, hget⟩

/-- Ids in ascending places are a part of what is asked for. -/
theorem sublist_of_placed {asked : List String} (hnodup : asked.Nodup) (hmem : ∀ id ∈ asked, id ∈ ids)
    (hsorted : asked.Pairwise fun a b => placeIn ids a ≤ placeIn ids b) : asked.Sublist ids := by
  have hascending : asked.Pairwise fun a b => placeIn ids a < placeIn ids b := by
    refine (hsorted.and hnodup).imp_of_mem fun {a b} ha hb ⟨hle, hne⟩ => lt_of_le_of_ne hle fun heq => hne ?_
    obtain ⟨_, hgetA⟩ := getElem_placeIn (hmem a ha)
    obtain ⟨_, hgetB⟩ := getElem_placeIn (hmem b hb)
    rw [← hgetA, ← hgetB]
    simp only [heq]
  obtain ⟨places, hplaces⟩ : ∃ places : List (Fin ids.length),
      List.Forall₂ (fun id (i : Fin ids.length) => placeIn ids id = i ∧ ids[i] = id) asked places := by
    clear hnodup hsorted hascending
    induction asked with
    | nil => exact ⟨[], .nil⟩
    | cons id asked ih =>
      obtain ⟨hid, hasked⟩ := List.forall_mem_cons.mp hmem
      obtain ⟨hlt, hget⟩ := getElem_placeIn hid
      obtain ⟨places, hplaces⟩ := ih hasked
      exact ⟨⟨placeIn ids id, hlt⟩ :: places, .cons ⟨rfl, hget⟩ hplaces⟩
  have hasked : asked = places.map (fun i => ids[i]) := by
    rw [← List.map_id asked]
    exact map_eq_map_of_forall₂ hplaces fun _ _ h => h.2.symm
  rw [hasked]
  refine List.map_getElem_sublist ?_
  have hvalues : asked.map (placeIn ids) = places.map Fin.val := map_eq_map_of_forall₂ hplaces fun _ _ h => h.1
  have hpairwise : (places.map Fin.val).Pairwise (· < ·) := by
    rw [← hvalues, List.pairwise_map]
    exact hascending
  rw [List.pairwise_map] at hpairwise
  exact hpairwise

end LeadQuery

/-! ## The leads selected -/

/-- The lead is the owner's, and has not been deleted. -/
def LeadRow.IsOf (owner : String) (r : LeadRow) : Prop := r.ownerId = owner ∧ r.isDeleted = false

/-- The leads of an owner that are asked for by id: each of them once, in the order of asking. -/
structure Named (owner : String) (ids : List String) (rows selected : List LeadRow) : Prop where
  mem : ∀ row, row ∈ selected ↔ row ∈ rows ∧ row.IsOf owner ∧ row.id ∈ ids
  once : (selected.map (·.id)).Nodup
  order : (selected.map (·.id)).Sublist ids

/-- The newest of the leads that qualify, as many as there are up to a limit. -/
def Newest (qualifies : LeadRow → Bool) (limit : Nat) (rows selected : List LeadRow) : Prop :=
  ∃ others, (selected ++ others).Perm (rows.filter qualifies) ∧
    (selected ++ others).Pairwise (fun a b => b.createdAt.instant ≤ a.createdAt.instant) ∧
    selected.length = min limit (rows.filter qualifies).length

theorem lead_id {r : LeadRow} {lead : Lead} (h : r.lead = .ok lead) : lead.id = r.id := by
  obtain ⟨knowledge, -, hlead⟩ := bind_eq_ok_iff.mp (show (looseFields r.knowledgeBase).bind _ = .ok lead from h)
  cases hlead
  rfl

theorem lead_knowledge {r : LeadRow} {lead : Lead} (h : r.lead = .ok lead) :
    looseFields r.knowledgeBase = .ok lead.knowledgeBase := by
  obtain ⟨knowledge, hloose, hlead⟩ :=
    bind_eq_ok_iff.mp (show (looseFields r.knowledgeBase).bind _ = .ok lead from h)
  cases hlead
  exact hloose

theorem isVisible_iff {owner : String} (howner : owner ≠ "") {r : LeadRow} :
    r.isVisible owner = true ↔ r.IsOf owner := by
  simp [LeadRow.isVisible, ownedBy, howner, LeadRow.IsOf]

/-- All leads that are wanted, the newest first. -/
def LeadQuery.allOf (q : LeadQuery) (owner : String) (rows : List LeadRow) : List LeadRow :=
  { q.selection owner with limit := -1 }.apply rows

section Selecting

variable {owner : String} {rows : List LeadRow} {found : List Lead} {q : LeadQuery}

theorem apply_selection {limit : Nat} (hlimit : q.limit = limit) :
    (q.selection owner).apply rows = (q.allOf owner rows).take limit := by
  rw [LeadQuery.selection, hlimit, Selection.apply_take]
  rfl

theorem allOf_perm : (q.allOf owner rows).Perm (rows.filter fun r => r.isVisible owner && q.admits r) :=
  Selection.apply_perm _ _ rows

theorem allOf_newest : (q.allOf owner rows).Pairwise fun a b => b.createdAt.instant ≤ a.createdAt.instant :=
  Selection.apply_newest (fun r : LeadRow => r.isVisible owner && q.admits r) (fun r => r.createdAt) rows

/-- Leads arranged in another order are decoded from their rows in that order. -/
theorem exists_rows_of_perm {selected : List LeadRow} {leads : List Lead}
    (h : selected.mapM LeadRow.lead = .ok found) (hperm : leads.Perm found) :
    ∃ selected', selected'.Perm selected ∧ List.Forall₂ (fun row lead => row.lead = .ok lead) selected' leads := by
  obtain ⟨selected', hmatched, hsame⟩ := List.perm_comp_forall₂ hperm (mapM_eq_ok_iff.mp h).flip
  exact ⟨selected', hsame, hmatched.flip⟩

/-- Of unique ids no more are found than are asked for. -/
theorem length_filter_named {ids : List String} (hunique : (rows.map (·.id)).Nodup) (keep : LeadRow → Bool)
    (hkeep : ∀ row, keep row = true → row.id ∈ ids) : (rows.filter keep).length ≤ ids.length := by
  have hnodup : ((rows.filter keep).map (·.id)).Nodup := hunique.sublist (List.filter_sublist.map _)
  have hsubset : (rows.filter keep).map (·.id) ⊆ ids := by
    intro id hid
    obtain ⟨row, hrow, rfl⟩ := List.mem_map.mp hid
    exact hkeep row (List.mem_filter.mp hrow).2
  simpa using (List.subperm_of_subset hnodup hsubset).length_le

/-- Leads that are asked for by id are found where there is room for as many as there are ids. -/
theorem selected_named {ids : List String} {limit : Nat} (howner : owner ≠ "")
    (hunique : (rows.map (·.id)).Nodup) (hlimit : ids.length ≤ limit)
    (hq : q = ⟨some ids, none, none, limit, none⟩)
    (hfound : ((q.selection owner).apply rows).mapM LeadRow.lead = .ok found) :
    ∃ selected, List.Forall₂ (fun row lead => row.lead = .ok lead) selected (q.arranged found) ∧
      Named owner ids rows selected := by
  have hwanted : ∀ row, (row.isVisible owner && q.admits row) = true ↔ row.IsOf owner ∧ row.id ∈ ids := by
    intro row
    rw [Bool.and_eq_true, isVisible_iff howner, hq]
    simp [LeadQuery.admits]
  have hroom : (q.allOf owner rows).length ≤ limit := by
    rw [allOf_perm.length_eq]
    exact (length_filter_named hunique _ fun row h => ((hwanted row).mp h).2).trans hlimit
  rw [apply_selection (congrArg LeadQuery.limit hq), List.take_of_length_le hroom] at hfound
  have harranged : q.arranged found =
      found.mergeSort fun a b => decide (LeadQuery.placeIn ids a.id ≤ LeadQuery.placeIn ids b.id) := by
    rw [hq]
    rfl
  obtain ⟨selected, hsame, hmatched⟩ := exists_rows_of_perm hfound (List.mergeSort_perm found _)
  have hkept := hsame.trans allOf_perm
  have honce : (selected.map (·.id)).Nodup :=
    (hkept.map _).nodup_iff.mpr (hunique.sublist (List.filter_sublist.map _))
  rw [harranged]
  refine ⟨selected, hmatched, fun row => ?_, honce, LeadQuery.sublist_of_placed honce ?_ ?_⟩
  · rw [hkept.mem_iff, List.mem_filter, hwanted]
  · intro id hid
    obtain ⟨row, hrow, rfl⟩ := List.mem_map.mp hid
    exact ((hwanted row).mp (List.mem_filter.mp (hkept.mem_iff.mp hrow)).2).2
  · rw [map_eq_map_of_forall₂ hmatched fun _ _ h => (lead_id h).symm, List.pairwise_map]
    refine (List.pairwise_mergeSort (fun a b c hab hbc => ?_) (fun a b => ?_) found).imp
      fun h => of_decide_eq_true h
    · simp only [decide_eq_true_eq] at *
      omega
    · simp only [Bool.or_eq_true, decide_eq_true_eq]
      omega

/-- Leads that are asked for by conditions are the newest of those that meet them. -/
theorem selected_newest {limit : Nat} (hids : q.ids = none) (hlimit : q.limit = limit)
    (hfound : ((q.selection owner).apply rows).mapM LeadRow.lead = .ok found) :
    ∃ selected, List.Forall₂ (fun row lead => row.lead = .ok lead) selected (q.arranged found) ∧
      Newest (fun row => row.isVisible owner && q.admits row) limit rows selected := by
  have harranged : q.arranged found = found := by
    unfold LeadQuery.arranged
    rw [hids]
  rw [apply_selection hlimit] at hfound
  refine ⟨(q.allOf owner rows).take limit, ?_, (q.allOf owner rows).drop limit, ?_, ?_, ?_⟩
  · rw [harranged]
    exact mapM_eq_ok_iff.mp hfound
  · rw [List.take_append_drop]
    exact allOf_perm
  · rw [List.take_append_drop]
    exact allOf_newest
  · rw [List.length_take, allOf_perm.length_eq]

end Selecting

end LeadFlow.Storage
