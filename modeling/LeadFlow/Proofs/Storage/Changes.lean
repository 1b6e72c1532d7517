import LeadFlow.Storage.Leads

set_option autoImplicit false

/-!
# Storage: what a change of a lead leaves behind

A session may go on with a row that differs from the stored one: a change that looks like what the
session holds already is not written.  `Session.Carries` says what both rows know of a lead, and
`patchLead_carries` what a patch does to them; `Session.Keeps` and `patchLead_keeps` say it where
the knowledge base is an object.
-/

namespace LeadFlow.Storage

open Execution

/-! ## Running work in a session -/

section Running

variable {α β : Type} {around : Surroundings} {s s' : Session}

theorem runIn_bind (p : Storage α) (f : α → Storage β) :
    (p >>= f).runIn around s =
      match p.runIn around s with
      | (.ok a, s') => (f a).runIn around s'
      | (.error e, s') => (.error e, s') := by
  unfold Storage.runIn
  simp only [bind, ReaderT.bind, ExceptT.bind, ExceptT.mk, StateT.bind]
  cases p around s with
  | mk x s' => cases x <;> rfl

/-- Work goes on where its first part has succeeded. -/
theorem runIn_bind_of_ok {p : Storage α} {a : α} (h : p.runIn around s = (.ok a, s'))
    (f : α → Storage β) : (p >>= f).runIn around s = (f a).runIn around s' := by
  rw [runIn_bind, h]

/-- The wording of faults does not matter where there is none. -/
theorem runIn_explained {text : String} {p : Storage α} {a : α} (h : p.runIn around s = (.ok a, s')) :
    (explained text p).runIn around s = (.ok a, s') := by
  unfold Storage.runIn at *
  simp only [explained, tryCatch, tryCatchThe, MonadExceptOf.tryCatch, ExceptT.tryCatch, ExceptT.mk,
    bind, StateT.bind, h]
  rfl

theorem runIn_usable (h : s.failure = none) : usable.runIn around s = (.ok (), s) := by
  have hget : (get : Storage Session).runIn around s = (.ok s, s) := rfl
  rw [usable, runIn_bind_of_ok hget, h]
  rfl

theorem runIn_remembered (t : TableName) (rs : List t.Row) :
    (remembered t rs).runIn around s =
      (.ok (rs.map fun r => (heldFor t (s.held.get t) r).getD r),
        { s with held := s.held.set t (s.held.get t ++
          rs.filter fun r => (heldFor t (s.held.get t) r).isNone) }) := rfl

end Running

/-! ## The lead of an id -/

/-- A row of the lead with an id that its owner sees, with a knowledge base. -/
structure LeadRow.Shows (owner id : String) (knowledge : Fields) (r : LeadRow) : Prop where
  id : r.id = id
  visible : r.isVisible owner = true
  knowledge : r.knowledgeBase = .object knowledge
  /-- the score can be stored -/
  score : ∃ n, storedNumber r.score = .ok n

/-- A session that can be used, with one row for the lead: what the session goes on with has one
knowledge base, and what is stored has another. -/
structure Session.Keeps (owner id : String) (held stored : Fields) (s : Session) : Prop where
  alive : s.failure = none
  rows : ∃ rows row, s.database.rows .leads = .ok rows ∧ rows.filter (fun r => r.id == id) = [row] ∧
    row.Shows owner id stored ∧ ((heldFor .leads (s.held.get .leads) row).getD row).Shows owner id held

/-- A row of the lead with an id that its owner sees, with any value for a knowledge base. -/
structure LeadRow.Carries (owner id : String) (knowledge : Value) (r : LeadRow) : Prop where
  id : r.id = id
  visible : r.isVisible owner = true
  knowledge : r.knowledgeBase = knowledge
  /-- the score can be stored -/
  score : ∃ n, storedNumber r.score = .ok n

theorem LeadRow.shows_iff {owner id : String} {knowledge : Fields} {r : LeadRow} :
    r.Shows owner id knowledge ↔ r.Carries owner id (.object knowledge) :=
  ⟨fun h => ⟨h.id, h.visible, h.knowledge, h.score⟩, fun h => ⟨h.id, h.visible, h.knowledge, h.score⟩⟩

/-- A session that can be used, with one row for the lead, and the values for a knowledge base that the
session goes on with and that are stored. -/
structure Session.Carries (owner id : String) (held stored : Value) (s : Session) : Prop where
  alive : s.failure = none
  rows : ∃ rows row, s.database.rows .leads = .ok rows ∧ rows.filter (fun r => r.id == id) = [row] ∧
    row.Carries owner id stored ∧ ((heldFor .leads (s.held.get .leads) row).getD row).Carries owner id held

theorem Session.keeps_iff {owner id : String} {held stored : Fields} {s : Session} :
    s.Keeps owner id held stored ↔ s.Carries owner id (.object held) (.object stored) := by
  constructor
  · rintro ⟨halive, rows, row, hrows, hrow, hstored, hheld⟩
    exact ⟨halive, rows, row, hrows, hrow, LeadRow.shows_iff.mp hstored, LeadRow.shows_iff.mp hheld⟩
  · rintro ⟨halive, rows, row, hrows, hrow, hstored, hheld⟩
    exact ⟨halive, rows, row, hrows, hrow, LeadRow.shows_iff.mpr hstored, LeadRow.shows_iff.mpr hheld⟩

section Changing

variable {owner id : String} {held stored : Value} {s : Session}

/-- The rows that answer a query are held from then on. -/
theorem heldFor_append (t : TableName) (held : List t.Row) (r : t.Row) :
    heldFor t (held ++ [r].filter fun r => (heldFor t held r).isNone) r =
      some ((heldFor t held r).getD r) := by
  unfold heldFor
  rw [List.find?_append]
  cases h : held.find? fun h => t.idOf h == t.idOf r <;> simp [h]

theorem runIn_select {around : Surroundings} {t : TableName} {wanted : Selection t.Row} {rows : List t.Row}
    (halive : s.failure = none) (hrows : s.database.rows t = .ok rows) :
    (select t wanted).runIn around s = (remembered t (wanted.apply rows)).runIn around s := by
  have hget : (get : Storage Session).runIn around s = (.ok s, s) := rfl
  have hfound : (found (s.database.rows t)).runIn around s = (.ok rows, s) := by rw [hrows]; rfl
  rw [select, runIn_bind_of_ok (runIn_usable halive), runIn_bind_of_ok hget, runIn_bind_of_ok hfound]

/-- Nothing can be queried in a database that is out of reach. -/
theorem runIn_select_unreachable (around : Surroundings) (t : TableName) (halive : s.failure = none)
    (hreach : s.database.reachable = false) :
    ∃ f, ∀ wanted, (select t wanted).runIn around s = (.error f, s) := by
  have hget : (get : Storage Session).runIn around s = (.ok s, s) := rfl
  obtain ⟨f, hrows⟩ : ∃ f, s.database.rows t = .error f := by
    rw [Database.rows, hreach]
    exact ⟨_, rfl⟩
  have hfound : (found (s.database.rows t)).runIn around s = (.error f, s) := by rw [hrows]; rfl
  refine ⟨f, fun wanted => ?_⟩
  rw [select, runIn_bind_of_ok (runIn_usable halive), runIn_bind_of_ok hget, runIn_bind, hfound]

/-- The lead is found as the session goes on with it, and the session holds it from then on. -/
theorem runIn_findLead (around : Surroundings) {rows : List LeadRow} {row : LeadRow}
    (halive : s.failure = none)
    (hrows : s.database.rows .leads = .ok rows)
    (hrow : rows.filter (fun r => r.id == id) = [row]) (hvisible : row.isVisible owner = true) :
    ∃ s₁, (findLead owner id).runIn around s =
        (.ok (some ((heldFor .leads (s.held.get .leads) row).getD row)), s₁) ∧
      s₁.failure = none ∧ s₁.database = s.database ∧
      heldFor .leads (s₁.held.get .leads) row =
        some ((heldFor .leads (s.held.get .leads) row).getD row) := by
  have hwanted : (Selection.only fun r : LeadRow => TableName.idOf .leads r == id &&
      r.isVisible owner).apply rows = [row] := by
    have hfilter : (rows.filter fun r => r.id == id && r.isVisible owner) = [row] := by
      simp only [Bool.and_comm _ (LeadRow.isVisible owner _)]
      rw [← List.filter_filter, hrow]
      simp [hvisible]
    exact hfilter
  refine ⟨{ s with held := s.held.set .leads (s.held.get .leads ++
    [row].filter fun r => (heldFor .leads (s.held.get .leads) r).isNone) }, ?_, halive, rfl, ?_⟩
  · unfold findLead selectOne
    rw [runIn_bind, runIn_select halive hrows, hwanted, runIn_remembered]
    rfl
  · rw [PerTable.get_set_self]
    exact heldFor_append .leads _ row

/-- Whether a row has the id is not changed by putting a row with that id in its place. -/
theorem replaced_id {r : LeadRow} (hid : r.id = id) :
    ((fun q : LeadRow => q.id == id) ∘ fun q => if TableName.idOf .leads q == id then r else q) =
      fun q => q.id == id := by
  funext q
  show ((if q.id == id then r else q).id == id) = (q.id == id)
  split
  · rename_i h
    simp [hid, h]
  · rfl

theorem filter_replaced {rows : List LeadRow} {row r : LeadRow}
    (hrow : rows.filter (fun r => r.id == id) = [row]) (hid : r.id = id) :
    (replaced .leads id r rows).filter (fun r => r.id == id) = [r] := by
  have hmem : row ∈ rows.filter fun r => r.id == id := by simp [hrow]
  have hrowId : row.id = id := by simpa using (List.mem_filter.mp hmem).2
  unfold replaced
  rw [List.filter_map, replaced_id hid, hrow]
  simp [TableName.idOf, TableName.stamp, hrowId]

theorem heldFor_replaced {held : List LeadRow} {row before after r : LeadRow}
    (hheld : heldFor .leads held row = some before) (hrow : row.id = id) (hid : after.id = id)
    (hr : r.id = id) : heldFor .leads (replaced .leads id after held) r = some after := by
  subst hr
  have hfind : held.find? (fun h => h.id == r.id) = some before := by
    rw [← hrow]
    exact hheld
  have hbefore : before.id = r.id := by simpa using List.find?_some hfind
  show (replaced .leads r.id after held).find? (fun h => h.id == r.id) = some after
  unfold replaced
  rw [List.find?_map, replaced_id hid, hfind]
  simp [TableName.idOf, TableName.stamp, hbefore]

/-- What is stored of a number can be stored again. -/
theorem storedNumber_stored {n m : Num} (h : storedNumber n = .ok m) : storedNumber m = .ok m := by
  unfold storedNumber at h
  cases hn : n.toFloat with
  | error f =>
    rw [hn] at h
    cases h
  | ok x =>
    rw [hn] at h
    cases h
    rfl

theorem reachable_of_rows {db : Database} {rows : List LeadRow} (h : db.rows .leads = .ok rows) :
    db.reachable = true := by
  unfold Database.rows at h
  split at h
  · assumption
  · cases h

/-- A row of the same id takes the place of the stored one and of the held one. -/
theorem runIn_overwrite (around : Surroundings) {rows : List LeadRow} {r : LeadRow} (kept : LeadRow)
    (hrows : s.database.rows .leads = .ok rows) (hid : r.id = id) :
    ∃ s', (overwrite .leads id r kept).runIn around s = (.ok (), s') ∧ s'.failure = s.failure ∧
      s'.database.rows .leads = .ok (replaced .leads id r rows) ∧
      s'.held.get .leads = replaced .leads id kept (s.held.get .leads) := by
  have hget : (get : Storage Session).runIn around s = (.ok s, s) := rfl
  have hwritten : (written (s.database.rows .leads)).runIn around s = (.ok rows, s) := by
    rw [hrows]
    rfl
  have hsameId : (TableName.idOf .leads r != id) = false := by
    simp [TableName.idOf, TableName.stamp, hid]
  refine ⟨{ s with
    database := s.database.withRows .leads (replaced .leads id r rows)
    held := s.held.set .leads (replaced .leads id kept (s.held.get .leads)) }, ?_, rfl, ?_, ?_⟩
  · unfold overwrite
    rw [runIn_bind_of_ok hget, runIn_bind_of_ok hwritten, hsameId]
    rfl
  · exact Database.rows_withRows_self _ _ _ (reachable_of_rows hrows)
  · rw [PerTable.get_set_self]

/-- A changed lead is written, unless it looks like what the session holds. -/
theorem runIn_writeLead (around : Surroundings) {rows : List LeadRow} {row before after : LeadRow}
    {knowledge : Value}
    (halive : s.failure = none) (hrows : s.database.rows .leads = .ok rows)
    (hrow : rows.filter (fun r => r.id == id) = [row]) (hstored : row.Carries owner id stored)
    (hheld : heldFor .leads (s.held.get .leads) row = some before) (hbefore : before.id = id)
    (hafter : after.Carries owner id knowledge) :
    ∃ s' stored' r, (writeLead before after).runIn around s = (.ok r, s') ∧
      s'.Carries owner id knowledge stored' ∧
      (stored' = knowledge ∨ stored' = stored ∧ after.same before = true) := by
  unfold writeLead
  split
  · rename_i hsame
    refine ⟨_, stored, after, rfl, ⟨halive, rows, row, hrows, hrow, hstored, ?_⟩, .inr ⟨rfl, hsame⟩⟩
    simp only [PerTable.get_set_self, hbefore, heldFor_replaced hheld hstored.id hafter.id hstored.id]
    exact hafter
  · have hread : (read : Storage Surroundings).runIn around s = (.ok around, s) := rfl
    obtain ⟨noted, hnoted⟩ : ∃ noted, (if after.updatedAt = before.updatedAt then
        { after with updatedAt := around.now } else after) = noted := ⟨_, rfl⟩
    have hcarries : noted.Carries owner id knowledge := by
      rw [← hnoted]
      split
      · exact ⟨hafter.id, hafter.visible, hafter.knowledge, hafter.score⟩
      · exact hafter
    obtain ⟨n, hn⟩ := hcarries.score
    have hscore : (written (storedNumber noted.score)).runIn around s = (.ok n, s) := by
      rw [hn]
      rfl
    obtain ⟨s', hwrite, hfailure, hrows', hheld'⟩ :=
      runIn_overwrite around noted hrows (show { noted with score := n }.id = id from hcarries.id)
    refine ⟨s', knowledge, noted, ?_, ?_, .inl rfl⟩
    · rw [runIn_bind_of_ok hread]
      dsimp only
      rw [hnoted, runIn_bind_of_ok hscore, hbefore, runIn_bind_of_ok hwrite]
      rfl
    · refine ⟨hfailure.trans halive, _, { noted with score := n }, hrows',
        filter_replaced hrow hcarries.id,
        ⟨hcarries.id, hcarries.visible, hcarries.knowledge, n, storedNumber_stored hn⟩, ?_⟩
      rw [hheld', heldFor_replaced hheld hstored.id hcarries.id (r := { noted with score := n }) hcarries.id]
      exact hcarries

/-- A patch of columns is applied to what the session goes on with.  It is written, unless the lead
looks the same afterwards. -/
theorem patchLead_carries (around : Surroundings) (patch : Fields) {knowledge : Value}
    (hs : s.Carries owner id held stored) (hdata : patchColumns patch ≠ [])
    (hassign : ∀ before : LeadRow, before.Carries owner id held →
      ∃ after : LeadRow, before.assignAll (patchColumns patch) = .ok after ∧
        after.Carries owner id knowledge) :
    ∃ s' stored', (patchLead owner id patch).runIn around s = (.ok ⟨true, .null⟩, s') ∧
      s'.Carries owner id knowledge stored' ∧
      (stored' = knowledge ∨ stored' = stored ∧ knowledge.same held = true) := by
  obtain ⟨halive, rows, row, hrows, hrow, hstored, hbefore⟩ := hs
  obtain ⟨s₁, hfind, halive₁, hdatabase, hheld⟩ :=
    runIn_findLead around halive hrows hrow hstored.visible
  obtain ⟨after, hafter, hcarries⟩ := hassign _ hbefore
  obtain ⟨s', stored', r, hwrite, hkeeps, hstored'⟩ :=
    runIn_writeLead around halive₁ (hdatabase ▸ hrows) hrow hstored hheld hbefore.id hcarries
  have hchange : (changeLead owner id (patchColumns patch)).runIn around s = (.ok (some r), s') := by
    unfold changeLead
    rw [runIn_bind_of_ok hfind]
    dsimp only
    rw [hafter, runIn_bind_of_ok (show (written (.ok after)).runIn around s₁ = (.ok after, s₁) from rfl),
      runIn_bind_of_ok hwrite]
    rfl
  refine ⟨s', stored', ?_, hkeeps, ?_⟩
  · unfold patchLead
    dsimp only
    rw [if_neg (by simpa using hdata), runIn_bind_of_ok (runIn_explained hchange)]
    rfl
  · obtain hstored' | ⟨hstored', hsame⟩ := hstored'
    · exact .inl hstored'
    · refine .inr ⟨hstored', ?_⟩
      have hknowledge : (after.knowledgeBase.same
          ((heldFor .leads (s.held.get .leads) row).getD row).knowledgeBase) = true := by
        simp only [LeadRow.same, Bool.and_eq_true] at hsame
        exact hsame.1.1.2
      rw [hcarries.knowledge, hbefore.knowledge] at hknowledge
      exact hknowledge

/-- Where the knowledge bases are objects. -/
theorem patchLead_keeps (around : Surroundings) (patch : Fields) {held stored knowledge : Fields}
    (hs : s.Keeps owner id held stored) (hdata : patchColumns patch ≠ [])
    (hassign : ∀ before : LeadRow, before.Shows owner id held →
      ∃ after : LeadRow, before.assignAll (patchColumns patch) = .ok after ∧
        after.Shows owner id knowledge) :
    ∃ s' stored', (patchLead owner id patch).runIn around s = (.ok ⟨true, .null⟩, s') ∧
      s'.Keeps owner id knowledge stored' ∧
      (stored' = knowledge ∨ stored' = stored ∧
        ((Value.object knowledge).same (.object held)) = true) := by
  simp only [LeadRow.shows_iff] at hassign
  obtain ⟨s', stored', hrun, hcarries, hstored'⟩ :=
    patchLead_carries around patch (Session.keeps_iff.mp hs) hdata hassign
  obtain rfl | ⟨rfl, hsame⟩ := hstored'
  · exact ⟨s', knowledge, hrun, Session.keeps_iff.mpr hcarries, .inl rfl⟩
  · exact ⟨s', stored, hrun, Session.keeps_iff.mpr hcarries, .inr ⟨rfl, hsame⟩⟩

end Changing

end LeadFlow.Storage
