import LeadFlow.Storage.Column

set_option autoImplicit false

/-!
# Storage: the audit log

Entries are only ever added.
-/

namespace LeadFlow.Storage

/-- Adds an entry; without an action it is that of an executed workflow, without details it has
none. -/
def appendAudit (actor : String) (action details : Option String) : Storage Unit :=
  explained "Audit write failed: " do
    let _ ← insert .audits none fun s =>
      ({ toStamp := s, actor := actor, action := action.getD AuditAction.executed.word
         details := details.getD "" } : AuditRow)

/-- The entries of an actor, newest first. -/
def recentAudits (actor : String) (limit : Int) : Storage (List AuditRow) :=
  select .audits ⟨fun r => AuditRow.actor r == actor, some (newestBy (·.createdAt)), limit⟩

end LeadFlow.Storage
