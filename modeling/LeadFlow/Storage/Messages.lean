import LeadFlow.Storage.Leads

set_option autoImplicit false

/-!
# Storage: queued messages

Messages for later are queued, one for each lead that has an address; the others are reported.
-/

namespace LeadFlow.Storage

open Calendar Execution

/-- The row of a message. -/
def messageRow (owner : String) (content : Content) (due : Moment) (lead : Lead) (s : Stamp) : MessageRow where
  toStamp := s
  ownerId := owner
  leadId := lead.id
  address := lead.email
  subject := content.subject.display
  body := content.body.display
  dueAt := due.toUtc
  status := MessageStatus.pending.word
  error := none

/-- The lead has an address. -/
def hasAddress (lead : Lead) : Bool := lead.email != ""

/-- What is reported of a lead without an address. -/
def noAddress (lead : Lead) : String :=
  (if lead.name = "" then lead.id else lead.name) ++ ": no email address"

/-- Queues a message for each lead. -/
def queueMessages (owner : String) (leads : List Lead) (content : Content) (due : Moment) : Storage Queued := do
  let reached := leads.filter hasAddress
  explained "Scheduling failed: " (insertAll .messages (reached.map (messageRow owner content due)))
  let unreached := leads.filter fun l => !hasAddress l
  return ⟨.ofNat reached.length, .list (unreached.map fun l => .str (noAddress l))⟩

end LeadFlow.Storage
