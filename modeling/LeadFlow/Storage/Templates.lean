import LeadFlow.Storage.Leads

set_option autoImplicit false

/-!
# Storage: templates

A template is looked up by id or by category, among those of the owner and the shared ones.  One of
the owner's own comes before a shared one, and a default before others.
-/

namespace LeadFlow.Storage

open Execution

/-- The template answers to a name for an owner. -/
def TemplateRow.answersTo (owner name : String) (r : TemplateRow) : Bool :=
  (r.id == name || r.category == name) && (r.ownerId == some owner || r.ownerId == none)

/-- The place of a template among those that answer: own before shared, default before others. -/
def TemplateRow.rank (r : TemplateRow) : Nat :=
  (if r.ownerId.isSome then 0 else 2) + (if r.isDefault then 0 else 1)

/-- The template of a row. -/
def TemplateRow.template (r : TemplateRow) : Template := ⟨r.id, .str r.subject, .str r.body, r.name⟩

/-- The template for a name. -/
def findTemplate (owner name : String) : Storage (Option Template) := do
  let rs ← explained "Template lookup failed: " (select .templates
    ⟨TemplateRow.answersTo owner name, some fun a b => TemplateRow.rank a ≤ TemplateRow.rank b, 1⟩)
  return rs.head?.map TemplateRow.template

end LeadFlow.Storage
