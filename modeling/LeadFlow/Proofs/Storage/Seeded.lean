import LeadFlow.Proofs.Storage.Appending
import LeadFlow.Proofs.Storage.Balance
import LeadFlow.Storage.Seed

set_option autoImplicit false

/-!
# Storage: what seeding adds

Seeding only adds rows: a template for each category without a shared one, and for an owner without leads a few
leads and a workflow that decodes.  Once it has succeeded there is nothing left to seed, so seeding again adds
nothing and needs no new ids.  A fault takes back every row.  What it does not take back are the tables that were
missing, since they are made before the transaction.

Main statement: `Deployment.seeded_once`.
-/

namespace LeadFlow.Storage

open Calendar

/-! ## What is there, and what is missing -/

/-- The shared templates of a category. -/
def Database.sharedIn (db : Database) (category : String) : List TemplateRow :=
  (db.rowsOf .templates).filter (TemplateRow.isSharedIn category)

/-- The templates to be shared whose category has none yet. -/
def Database.unshared (db : Database) : List SharedTemplate :=
  sharedTemplates.filter fun t => (db.sharedIn t.category).isEmpty

/-- No category that is seeded has several shared templates. -/
def Database.SharesOnce (db : Database) : Prop :=
  ∀ t ∈ sharedTemplates, (db.sharedIn t.category).length ≤ 1

instance (db : Database) : Decidable db.SharesOnce :=
  inferInstanceAs (Decidable (∀ t ∈ sharedTemplates, _))

/-- The owner has a lead, maybe a deleted one. -/
def Database.HasLeadOf (db : Database) (owner : String) : Prop :=
  ∃ r ∈ db.rowsOf .leads, LeadRow.ownerId r = owner

/-- There is nothing to seed for the owner. -/
structure Database.Furnished (db : Database) (owner : String) : Prop where
  templates : ∀ t ∈ sharedTemplates, (db.sharedIn t.category).length = 1
  demo : owner = "" ∨ db.HasLeadOf owner

/-- The row of the workflow to try. -/
def demoRow (owner : String) (s : Stamp) : WorkflowRow where
  toStamp := s
  ownerId := owner
  teamId := none
  name := "New lead nurture"
  description := ""
  status := WorkflowStatus.active.word
  steps := .list demoSteps
  stats := .object Stats.zero.stored
  deletedAt := none
  isDeleted := false

/-- The leads and workflows that are added for an owner. -/
inductive DemoRows (owner : String) (db : Database) : List LeadRow → List WorkflowRow → Prop where
  /-- nobody is named, or the owner has a lead already -/
  | unwanted (h : owner = "" ∨ db.HasLeadOf owner) : DemoRows owner db [] []
  /-- the owner gets the leads to try things with, and a workflow that can be read -/
  | wanted {leads : List LeadRow} {s : Stamp} {w : Workflow} (howner : owner ≠ "")
      (hnone : ¬ db.HasLeadOf owner)
      (hleads : Stamped (DemoLead.row owner) demoLeads leads)
      (hworkflow : (demoRow owner s).workflow = .ok w) : DemoRows owner db leads [demoRow owner s]

/-- A database after seeding for an owner has all rows it had before, in their places, and the rows that were
missing. -/
structure Database.Seeded (owner : String) (before after : Database) : Prop where
  kept : ∀ t, before.rowsOf t <+: after.rowsOf t
  templates : ∃ added, after.rowsOf .templates = before.rowsOf .templates ++ added ∧
    Stamped SharedTemplate.row before.unshared added
  once : ∀ t ∈ sharedTemplates, (after.sharedIn t.category).length = 1
  demo : ∃ leads workflows, after.rowsOf .leads = before.rowsOf .leads ++ leads ∧
    after.rowsOf .workflows = before.rowsOf .workflows ++ workflows ∧ DemoRows owner before leads workflows
  others : ∀ t, t ≠ .templates → t ≠ .leads → t ≠ .workflows → after.rowsOf t = before.rowsOf t

section Rows

variable {before after : Database} {owner : String}

/-- Only the leads that are there decide who gets leads. -/
theorem DemoRows.of_leads {db db' : Database} {leads : List LeadRow} {workflows : List WorkflowRow}
    (h : DemoRows owner db' leads workflows) (hrows : db'.rowsOf .leads = db.rowsOf .leads) :
    DemoRows owner db leads workflows := by
  have hlead : db'.HasLeadOf owner ↔ db.HasLeadOf owner := by rw [Database.HasLeadOf, hrows, Database.HasLeadOf]
  cases h with
  | unwanted hdone => exact .unwanted (hdone.imp_right hlead.mp)
  | wanted howner hnone hleads hworkflow => exact .wanted howner (mt hlead.mpr hnone) hleads hworkflow

/-- Where there is nothing to seed no template is missing. -/
theorem Database.Furnished.unshared_eq_nil (h : before.Furnished owner) : before.unshared = [] := by
  refine List.filter_eq_nil_iff.mpr fun t ht hempty => ?_
  have hone := h.templates t ht
  rw [List.isEmpty_iff.mp hempty] at hone
  cases hone

theorem Database.Furnished.sharesOnce (h : before.Furnished owner) : before.SharesOnce :=
  fun t ht => (h.templates t ht).le

/-- Only the rows that are there decide what is missing. -/
theorem Database.Seeded.of_rowsOf {before' : Database} (h : before'.Seeded owner after)
    (hrows : ∀ t, before'.rowsOf t = before.rowsOf t) : before.Seeded owner after := by
  obtain ⟨leads, workflows, hleads, hworkflows, hdemo⟩ := h.demo
  refine ⟨fun t => hrows t ▸ h.kept t, ?_, h.once, ⟨leads, workflows, ?_, ?_, hdemo.of_leads (hrows _)⟩,
    fun t h₁ h₂ h₃ => ?_⟩
  · simpa only [Database.unshared, Database.sharedIn, hrows] using h.templates
  · rw [← hrows, hleads]
  · rw [← hrows, hworkflows]
  · rw [h.others t h₁ h₂ h₃, hrows]

/-- After seeding there is nothing left to seed. -/
theorem Database.Seeded.furnished (h : before.Seeded owner after) : after.Furnished owner := by
  refine ⟨h.once, ?_⟩
  obtain ⟨leads, workflows, hleads, -, hdemo⟩ := h.demo
  cases hdemo with
  | unwanted hdone =>
    refine hdone.imp_right fun ⟨r, hr, howner⟩ => ⟨r, ?_, howner⟩
    rw [hleads, List.append_nil]
    exact hr
  | wanted _ _ hmade _ =>
    obtain ⟨r, rest, ⟨s, hr⟩, -, hrest⟩ := List.forall₂_cons_left_iff.mp hmade
    refine .inr ⟨r, ?_, hr ▸ rfl⟩
    rw [hleads, hrest]
    exact List.mem_append_right _ List.mem_cons_self

/-- Where there is nothing to seed no row is added. -/
theorem Database.Seeded.same (h : before.Seeded owner after) (hdone : before.Furnished owner) (t : TableName) :
    after.rowsOf t = before.rowsOf t := by
  obtain ⟨templates, htemplates, hmade⟩ := h.templates
  obtain ⟨leads, workflows, hleads, hworkflows, hdemo⟩ := h.demo
  rw [hdone.unshared_eq_nil, Stamped, List.forall₂_nil_left_iff] at hmade
  cases hdemo with
  | unwanted _ =>
    cases t with
    | templates => rw [htemplates, hmade, List.append_nil]
    | leads => rw [hleads, List.append_nil]
    | workflows => rw [hworkflows, List.append_nil]
    | _ => exact h.others _ nofun nofun nofun
  | wanted howner hlead _ _ => exact absurd hdone.demo (not_or.mpr ⟨howner, hlead⟩)

/-- No two shared templates are of one category. -/
theorem countP_category : ∀ t ∈ sharedTemplates, sharedTemplates.countP (·.category == t.category) = 1 := by
  decide

/-- A row is a shared template of the category of the template it is made from. -/
theorem countP_stamped {ts : List SharedTemplate} {rs : List TemplateRow} {category : String}
    (h : Stamped SharedTemplate.row ts rs) :
    rs.countP (TemplateRow.isSharedIn category) = ts.countP (·.category == category) := by
  induction h with
  | nil => rfl
  | cons hfirst hrest ih =>
    obtain ⟨s, rfl⟩ := hfirst
    simp [List.countP_cons, ih, SharedTemplate.row, TemplateRow.isSharedIn]

/-- A category without a shared template gets one, and the others get none. -/
theorem length_sharedIn_added {added : List TemplateRow} (honce : before.SharesOnce)
    (hmade : Stamped SharedTemplate.row before.unshared added)
    {t : SharedTemplate} (ht : t ∈ sharedTemplates) :
    (before.sharedIn t.category).length + added.countP (TemplateRow.isSharedIn t.category) = 1 := by
  rw [countP_stamped hmade, Database.unshared, List.countP_filter]
  -- a category without a shared template has one among those to be shared, and only there
  by_cases hempty : before.sharedIn t.category = []
  · rw [← countP_category t ht, hempty, List.length_nil, Nat.zero_add]
    refine List.countP_congr fun u _ => ?_
    by_cases hsame : u.category = t.category <;> simp [hsame, hempty]
  · have hone : (before.sharedIn t.category).length = 1 :=
      Nat.le_antisymm (honce t ht) (List.length_pos_of_ne_nil hempty)
    rw [hone, List.countP_eq_zero.mpr]
    intro u _ hu
    simp only [Bool.and_eq_true, beq_iff_eq, List.isEmpty_iff] at hu
    exact hempty (hu.1 ▸ hu.2)

/-- The rows that are missing, added to a database. -/
theorem seeded_plus {templates : List TemplateRow} {leads : List LeadRow} {workflows : List WorkflowRow}
    (honce : before.SharesOnce) (hmade : Stamped SharedTemplate.row before.unshared templates)
    (hdemo : DemoRows owner before leads workflows) :
    before.Seeded owner (((before.plus .templates templates).plus .leads leads).plus .workflows workflows) := by
  obtain ⟨after, hafter⟩ : ∃ after,
      ((before.plus .templates templates).plus .leads leads).plus .workflows workflows = after := ⟨_, rfl⟩
  have htemplates : after.rowsOf .templates = before.rowsOf .templates ++ templates := by
    simp [← hafter, rowsOf_plus_of_ne]
  have hleads : after.rowsOf .leads = before.rowsOf .leads ++ leads := by
    simp [← hafter, rowsOf_plus_of_ne]
  have hworkflows : after.rowsOf .workflows = before.rowsOf .workflows ++ workflows := by
    simp [← hafter, rowsOf_plus_of_ne]
  have hothers : ∀ t, t ≠ .templates → t ≠ .leads → t ≠ .workflows → after.rowsOf t = before.rowsOf t := by
    intro t h₁ h₂ h₃
    rw [← hafter, rowsOf_plus_of_ne h₃, rowsOf_plus_of_ne h₂, rowsOf_plus_of_ne h₁]
  rw [hafter]
  refine ⟨fun t => ?_, ⟨templates, htemplates, hmade⟩, fun t ht => ?_,
    ⟨leads, workflows, hleads, hworkflows, hdemo⟩, hothers⟩
  · cases t with
    | templates => exact ⟨_, htemplates.symm⟩
    | leads => exact ⟨_, hleads.symm⟩
    | workflows => exact ⟨_, hworkflows.symm⟩
    | _ =>
      rw [hothers _ (by decide) (by decide) (by decide)]
  · rw [← length_sharedIn_added honce hmade ht, Database.sharedIn, htemplates, List.filter_append,
      List.length_append, List.countP_eq_length_filter]
    rfl

end Rows

/-! ## Seeding in a session -/

section Sessions

variable {rowId : Nat → String} {free excuse : Prop} {db : Database} {owner : String}

theorem reaches_hasShared (hdb : db.Whole) {category : String}
    (hseveral : ¬ (db.sharedIn category).length ≤ 1 → excuse) :
    Reaches rowId free excuse db (hasShared category) fun present after =>
      after = db ∧ present = !(db.sharedIn category).isEmpty ∧ (db.sharedIn category).length ≤ 1 := by
  refine Reaches.bind (reaches_select hdb _) ?_
  rintro rows after ⟨rfl, hlength⟩
  change rows.length = (after.sharedIn category).length at hlength
  rw [← hlength] at hseveral ⊢
  have hempty : (after.sharedIn category).isEmpty = rows.isEmpty := by
    rw [Bool.eq_iff_iff, List.isEmpty_iff_length_eq_zero, List.isEmpty_iff_length_eq_zero, hlength]
  rw [hempty]
  match rows with
  | [] => exact reaches_pure ⟨rfl, rfl, Nat.zero_le _⟩
  | [_] => exact reaches_pure ⟨rfl, rfl, Nat.le_refl _⟩
  | _ :: _ :: _ => exact reaches_throw (hseveral (by simp))

theorem reaches_missingTemplates (hdb : db.Whole) {ts : List SharedTemplate}
    (hseveral : ¬ (∀ t ∈ ts, (db.sharedIn t.category).length ≤ 1) → excuse) :
    Reaches rowId free excuse db (missingTemplates ts) fun missing after =>
      after = db ∧ missing = ts.filter (fun t => (db.sharedIn t.category).isEmpty) ∧
        ∀ t ∈ ts, (db.sharedIn t.category).length ≤ 1 := by
  induction ts with
  | nil => exact reaches_pure ⟨rfl, rfl, List.forall_mem_nil _⟩
  | cons t ts ih =>
    rw [List.forall_mem_cons] at hseveral
    refine Reaches.bind (reaches_hasShared hdb fun h => hseveral (mt And.left h)) ?_
    rintro present after ⟨rfl, rfl, hone⟩
    refine Reaches.bind (ih fun h => hseveral (mt And.right h)) ?_
    rintro rest after ⟨rfl, rfl, hall⟩
    refine reaches_pure ⟨rfl, ?_, List.forall_mem_cons.mpr ⟨hone, hall⟩⟩
    cases hempty : (after.sharedIn t.category).isEmpty <;> simp [hempty]

theorem reaches_hasLeads (hdb : db.Whole) :
    Reaches rowId free excuse db (hasLeads owner) fun present after =>
      after = db ∧ (present = true ↔ db.HasLeadOf owner) := by
  refine Reaches.bind (reaches_select hdb _) ?_
  rintro rows after ⟨rfl, hlength⟩
  refine reaches_pure ⟨rfl, ?_⟩
  have hfirst : rows.length = (((after.rowsOf .leads).filter fun r => LeadRow.ownerId r == owner).take 1).length :=
    hlength
  have hfound : rows ≠ [] ↔ (after.rowsOf .leads).filter (fun r => LeadRow.ownerId r == owner) ≠ [] := by
    rw [← List.length_pos_iff, ← List.length_pos_iff, hfirst, List.length_take]
    omega
  rw [Bool.not_eq_true', ← Bool.not_eq_true, List.isEmpty_iff]
  rw [← ne_eq, hfound, ne_eq, List.filter_eq_nil_iff]
  simp [Database.HasLeadOf]

/-- The workflow to try passes its check, and can be read when it is stored. -/
theorem reaches_createWorkflow_demo (hdb : db.Whole) (hrows : ¬ free → excuse) (howner : owner ≠ "") :
    Reaches rowId free excuse db (createWorkflow owner demoWorkflow) fun w after =>
      ∃ s, (demoRow owner s).workflow = .ok w ∧ after = db.plus .workflows [demoRow owner s] := by
  have hchecked : ∀ now, ∃ w, Workflow.ofDefinition now demoWorkflow.definition = .ok w := fun _ => ⟨_, rfl⟩
  have hdecodes : ∀ s, ∃ w, (demoRow owner s).workflow = .ok w := fun _ => ⟨_, rfl⟩
  have hcreate : create .workflows (ownerColumns owner ++ demoWorkflow.columns) =
      insert .workflows none (demoRow owner) := by
    rw [ownerColumns, if_neg howner]
    exact create_eq_insert rfl rfl fun _ => rfl
  unfold createWorkflow
  rw [hcreate]
  refine Reaches.bind reaches_read ?_
  rintro around after rfl
  obtain ⟨w, hw⟩ := hchecked around.now
  rw [hw]
  refine Reaches.bind (reaches_found rfl : Reaches rowId free excuse after _ fun _ mid => mid = after) ?_
  rintro - mid rfl
  refine Reaches.bind (reaches_insert hdb hrows fun _ => rfl) ?_
  rintro r after ⟨⟨s, rfl⟩, rfl⟩
  obtain ⟨w, hw⟩ := hdecodes s
  rw [hw]
  exact reaches_found ⟨s, hw, rfl⟩

theorem reaches_seedDemo (hdb : db.Whole) (howner : owner ≠ "")
    (hrows : ¬ db.HasLeadOf owner → ¬ free → excuse) :
    Reaches rowId free excuse db (seedDemo owner) fun _ after => ∃ leads workflows,
      after = (db.plus .leads leads).plus .workflows workflows ∧ DemoRows owner db leads workflows := by
  refine Reaches.bind (reaches_hasLeads hdb) ?_
  rintro present after ⟨rfl, hpresent⟩
  split
  next hlead =>
    refine reaches_pure ⟨[], [], ?_, .unwanted (.inr (hpresent.mp hlead))⟩
    rw [hdb.plus_nil, hdb.plus_nil]
  next hlead =>
    have hnone : ¬ after.HasLeadOf owner := mt hpresent.mpr hlead
    refine Reaches.bind (reaches_insertAll hdb (fun _ _ => rfl) fun _ => hrows hnone) ?_
    rintro - mid ⟨leads, hleads, rfl⟩
    refine Reaches.bind (reaches_createWorkflow_demo hdb.plus (hrows hnone) howner) ?_
    rintro w last ⟨s, hw, rfl⟩
    exact reaches_pure ⟨leads, [demoRow owner s], rfl, .wanted howner hnone hleads hw⟩

/-- Seeding succeeds unless a category has several shared templates, or a row is to be added and there is no
free id for it. -/
theorem reaches_seed (hdb : db.Whole) (hseveral : ¬ db.SharesOnce → excuse)
    (hrows : ¬ db.Furnished owner → ¬ free → excuse) :
    Reaches rowId free excuse db (seed owner) fun _ after =>
      after.Whole ∧ db.SharesOnce ∧ db.Seeded owner after := by
  refine Reaches.bind (reaches_missingTemplates hdb hseveral) ?_
  rintro missing after ⟨rfl, rfl, honce⟩
  have hunshared : after.unshared ≠ [] → ¬ free → excuse := fun hne =>
    hrows fun hdone => hne hdone.unshared_eq_nil
  refine Reaches.bind (reaches_insertAll hdb (fun _ _ => rfl) hunshared) ?_
  rintro - mid ⟨templates, htemplates, rfl⟩
  have hsame : (after.plus .templates templates).rowsOf .leads = after.rowsOf .leads := rowsOf_plus_of_ne nofun
  dsimp only
  split
  next hunnamed =>
    have hseeded := seeded_plus honce htemplates (.unwanted (.inl hunnamed))
    rw [hdb.plus.plus_nil, hdb.plus.plus_nil] at hseeded
    exact reaches_pure ⟨hdb.plus, honce, hseeded⟩
  next howner =>
    have hwanted : ¬ (after.plus .templates templates).HasLeadOf owner → ¬ free → excuse := by
      rw [Database.HasLeadOf, hsame]
      exact fun hnone => hrows fun hdone => hnone (hdone.demo.resolve_left howner)
    refine Reaches.bind (reaches_seedDemo hdb.plus howner hwanted) ?_
    rintro line last ⟨leads, workflows, rfl, hdemo⟩
    exact reaches_pure ⟨hdb.plus.plus.plus, honce, seeded_plus honce htemplates (hdemo.of_leads hsame)⟩

/-- Nothing is seeded in a database that cannot be reached. -/
theorem runIn_seed_unreachable (owner : String) (around : Surroundings) {s : Session} (halive : s.failure = none)
    (hreach : s.database.reachable = false) : ∃ f, (seed owner).runIn around s = (.error f, s) := by
  obtain ⟨f, hselect⟩ := runIn_select_unreachable around .templates halive hreach
  refine ⟨f, ?_⟩
  unfold seed sharedTemplates missingTemplates hasShared
  rw [runIn_bind, runIn_bind, runIn_bind, hselect]

end Sessions

/-! ## Seeding a deployment -/

namespace Deployment

variable {σ : Type} {d : Deployment σ} {rowId : Nat → String} {owner : String}

/-- What seeding comes to. -/
inductive Seeds (d : Deployment σ) (owner : String) : Outcome (List String) → Deployment σ → Prop where
  /-- no row is added or changed; tables that were missing may be there -/
  | faulted {f : Fault} {d' : Deployment σ} (rows : ∀ t, d'.database.rowsOf t = d.database.rowsOf t)
      (same : (∀ t, d.database.tables.get t ≠ none) → d'.database = d.database) : Seeds d owner (.error f) d'
  /-- the rows that were missing are added, and seeding once more, with any supply of ids, adds nothing -/
  | done {report : List String} {d' : Deployment σ} (seeded : d.database.Seeded owner d'.database)
      (again : ∀ (e : Deployment σ) (rowId : Nat → String), e.database = d'.database →
        ∃ report' e', e.seeded rowId owner = (.ok report', e') ∧ e'.database = d'.database) :
      Seeds d owner (.ok report) d'

/-- Seeding is a transaction on the database with all its tables. -/
theorem seeded_eq {o : Outcome (List String)} {after : Database} {issued : Nat}
    (h : Storage.transact (seed owner) ⟨d.now, rowId⟩ d.database.complete d.rowsIssued = (o, after, issued)) :
    d.seeded rowId owner = (o, { d with database := after, rowsIssued := issued }) :=
  congrArg (fun ran => (ran.1, { d with database := ran.2.1, rowsIssued := ran.2.2 })) h

/-- Seeding a database that can be reached succeeds, or has an excuse to fault. -/
theorem seeded_of_reachable (rowId : Nat → String) (free : Prop) {excuse : Prop}
    (hreach : d.database.reachable = true) (hseveral : ¬ d.database.SharesOnce → excuse)
    (hrows : ¬ d.database.Furnished owner → ¬ free → excuse)
    (hfree : free → d.database.Spares rowId d.rowsIssued) :
    (∃ report d', d.seeded rowId owner = (.ok report, d') ∧ d'.database.Whole ∧ d.database.SharesOnce ∧
        d.database.Seeded owner d'.database) ∨
      excuse ∧ ∃ f d', d.seeded rowId owner = (.error f, d') ∧ d'.database = d.database.complete := by
  have honce : d.database.complete.SharesOnce ↔ d.database.SharesOnce := by
    simp only [Database.SharesOnce, Database.sharedIn, rowsOf_complete]
  have hfurnished : d.database.Furnished owner → d.database.complete.Furnished owner := fun h =>
    ⟨by simpa only [Database.sharedIn, rowsOf_complete] using h.templates,
      by simpa only [Database.HasLeadOf, rowsOf_complete] using h.demo⟩
  have hreaches : Reaches rowId free excuse d.database.complete (seed owner) fun _ after =>
      after.Whole ∧ d.database.complete.SharesOnce ∧ d.database.complete.Seeded owner after :=
    reaches_seed (whole_complete hreach) (fun h => hseveral (mt honce.mpr h)) fun h => hrows (mt hfurnished h)
  obtain ⟨report, after, issued, hrun, hwhole, hshares, hseeded⟩ | ⟨hexcuse, f, issued, hrun⟩ :=
    transact_of_reaches hreaches (fun h => (hfree h).complete) d.now
  · exact .inl ⟨report, _, seeded_eq hrun, hwhole, honce.mp hshares, hseeded.of_rowsOf (rowsOf_complete _)⟩
  · exact .inr ⟨hexcuse, f, _, seeded_eq hrun, rfl⟩

/-- Where there is nothing to seed, seeding succeeds with any supply of ids, and changes nothing. -/
theorem seeded_of_furnished (hwhole : d.database.Whole) (hdone : d.database.Furnished owner)
    (rowId : Nat → String) :
    ∃ report d', d.seeded rowId owner = (.ok report, d') ∧ d'.database = d.database := by
  obtain ⟨report, d', hrun, hwhole', -, hseeded⟩ | ⟨hfalse, -⟩ :=
    seeded_of_reachable rowId False hwhole.reachable (fun hseveral => hseveral hdone.sharesOnce)
      (fun hmissing => absurd hdone hmissing) False.elim
  · exact ⟨report, d', hrun, hwhole'.eq_of_rowsOf hwhole (hseeded.same hdone)⟩
  · exact hfalse.elim

theorem seeded_of_unreachable (rowId : Nat → String) (owner : String) (hreach : d.database.reachable = false) :
    ∃ f d', d.seeded rowId owner = (.error f, d') ∧ d'.database = d.database := by
  have hcomplete : d.database.complete = d.database := complete_of_unreachable hreach
  obtain ⟨s, hs⟩ : ∃ s, Session.begin d.database d.rowsIssued = s := ⟨_, rfl⟩
  obtain ⟨f, hrun⟩ := runIn_seed_unreachable owner ⟨d.now, rowId⟩ (hs ▸ rfl : s.failure = none)
    (by rw [← hs]; exact hreach)
  have htransact : Storage.transact (seed owner) ⟨d.now, rowId⟩ d.database.complete d.rowsIssued =
      (.error f, d.database, s.issued) := by
    unfold Storage.transact
    rw [hcomplete, hs, hrun]
  exact ⟨f, _, seeded_eq htransact, rfl⟩

/-- Seeding succeeds or takes back every row.  Where it succeeds all rows are kept, each category has exactly one
shared template, and the owner has leads; it adds no more than that, and nothing when it is done once more.  With
free ids it succeeds just if the database can be reached and no category has several shared templates. -/
theorem seeded_once (d : Deployment σ) (rowId : Nat → String) (owner : String) :
    d.Seeds owner (d.seeded rowId owner).1 (d.seeded rowId owner).2 ∧
      (d.database.Spares rowId d.rowsIssued →
        ((∃ report, (d.seeded rowId owner).1 = .ok report) ↔
          d.database.reachable = true ∧ d.database.SharesOnce)) := by
  cases hreach : d.database.reachable with
  | false =>
    obtain ⟨f, d', hrun, hsame⟩ := seeded_of_unreachable rowId owner hreach
    rw [hrun]
    exact ⟨.faulted (fun t => by rw [hsame]) fun _ => hsame, fun _ => by simp⟩
  | true =>
    have hseveral : ¬ d.database.SharesOnce → ¬ (d.database.Spares rowId d.rowsIssued ∧ d.database.SharesOnce) :=
      mt And.right
    have hfew : ¬ d.database.Furnished owner → ¬ d.database.Spares rowId d.rowsIssued →
        ¬ (d.database.Spares rowId d.rowsIssued ∧ d.database.SharesOnce) := fun _ => mt And.left
    obtain ⟨report, d', hrun, hwhole, honce, hseeded⟩ | ⟨hexcuse, f, d', hrun, hsame⟩ :=
      seeded_of_reachable rowId (d.database.Spares rowId d.rowsIssued) hreach hseveral hfew id
    · rw [hrun]
      refine ⟨.done hseeded fun e rowId' hsame => ?_, fun _ => by simp [honce]⟩
      have hrun' := seeded_of_furnished (hsame ▸ hwhole) (hsame ▸ hseeded.furnished) rowId'
      rwa [hsame] at hrun'
    · rw [hrun]
      refine ⟨.faulted (fun t => by rw [hsame, rowsOf_complete]) fun htables => ?_, fun hspares => ?_⟩
      · rw [hsame, (whole_of_tables hreach htables).complete_eq]
      · simp [mt (And.intro hspares) hexcuse]

/-- A template in a category, shared if it has no owner. -/
def templateOf (owner? : Option String) (id category : String) : TemplateRow :=
  ⟨⟨id, ⟨0, none, false⟩, ⟨0, none, false⟩⟩, owner?, "Hello", category, "", "", false⟩

/-- A deployment with these templates, and with or without a table of leads. -/
def withTemplates (leadsTable : Bool) (templates : List TemplateRow) : Deployment Unit :=
  let db := Database.empty.withRows .templates templates
  { fresh 1772611200000000 1000 () with database := if leadsTable then db else db.drop .leads }

/-- Ids that do not start with the word of a supply leave all its ids free. -/
theorem spares_numbered {db : Database} {word : String}
    (hids : ∀ t, ∀ r ∈ db.rowsOf t, ¬ word.toList ++ ['-'] <+: (t.idOf r).toList) (issued : Nat) :
    db.Spares (numbered word) issued := by
  refine ⟨fun t n _ => ?_, fun m n _ hlater hsame => ?_⟩
  · exact lacks_iff_rowsOf.mpr fun r hr => (numbered_ne (hids t r hr) n).symm
  · exact hlater.ne (numbered_injective word hsame)

/-- An owner's template of a seeded category is no shared one, and a shared one of another category stays the
only one there; seeding twice is seeding once. -/
theorem seeded_once_ownTemplate :
    let d := withTemplates true
      [templateOf (some "user-1") "own-1" "welcome", templateOf none "shared-1" "nurture"]
    ∃ report d' report' d'', d.seeded (numbered "row") "user-1" = (.ok report, d') ∧
      d.database.Seeded "user-1" d'.database ∧
      d'.seeded (numbered "row") "user-1" = (.ok report', d'') ∧ d''.database = d'.database := by
  intro d
  have hspares : d.database.Spares (numbered "row") d.rowsIssued := by
    refine spares_numbered (fun t => ?_) _
    cases t <;> decide
  obtain ⟨hseeds, hsucceeds⟩ := seeded_once d (numbered "row") "user-1"
  obtain ⟨report, hreport⟩ := (hsucceeds hspares).mpr ⟨rfl, by decide⟩
  obtain ⟨⟨o, d'⟩, hrun⟩ : ∃ ran, d.seeded (numbered "row") "user-1" = ran := ⟨_, rfl⟩
  rw [hrun] at hseeds hreport
  cases hreport
  cases hseeds with
  | done hseeded hagain =>
    obtain ⟨report', d'', hrun', hsame⟩ := hagain d' (numbered "row") rfl
    exact ⟨report, d', report', d'', hrun, hseeded, hrun', hsame⟩

/-- The first id of the supply is taken by a template, and there is no table of leads. -/
def blocked : Deployment Unit := withTemplates false [templateOf (some "user-1") "row-1" "other"]

/-- There are two shared templates of one category, and no table of leads. -/
def doubled : Deployment Unit :=
  withTemplates false [templateOf none "shared-1" "welcome", templateOf none "shared-2" "welcome"]

/-- A fault may leave a table that was missing.  It may be due to an id that is taken, or, where all ids are
free, to several shared templates of one category. -/
theorem not_forall_fault_unchanged :
    (¬ ∀ (d : Deployment Unit) (rowId : Nat → String) (owner : String), d.database.SharesOnce →
        ∀ f d', d.seeded rowId owner = (.error f, d') → d'.database = d.database) ∧
      ¬ ∀ (d : Deployment Unit) (rowId : Nat → String) (owner : String), d.database.Spares rowId d.rowsIssued →
        ∀ f d', d.seeded rowId owner = (.error f, d') → d'.database = d.database := by
  constructor
  · intro hall
    obtain ⟨f, d', hfault, hleads⟩ : ∃ f d', blocked.seeded (numbered "row") "user-2" = (.error f, d') ∧
        d'.database.tables.leads = some [] := ⟨_, _, rfl, rfl⟩
    rw [hall blocked _ _ (by decide) f d' hfault] at hleads
    cases hleads
  · intro hall
    have hspares : doubled.database.Spares (numbered "row") doubled.rowsIssued := by
      refine spares_numbered (fun t => ?_) _
      cases t <;> decide
    obtain ⟨f, d', hfault, hleads⟩ : ∃ f d', doubled.seeded (numbered "row") "user-2" = (.error f, d') ∧
        d'.database.tables.leads = some [] := ⟨_, _, rfl, rfl⟩
    rw [hall doubled _ _ hspares f d' hfault] at hleads
    cases hleads

end Deployment

end LeadFlow.Storage
