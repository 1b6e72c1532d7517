import LeadFlow.Analytics.Log
import LeadFlow.Analytics.Nodes
import LeadFlow.Analytics.Summary
import LeadFlow.Message.SendTime
import LeadFlow.Storage.Runs

set_option autoImplicit false

/-!
# Service: views of stored runs

What an actor can see of the runs stored so far.  Each view is one piece of work in a session: it
fetches runs, the latest first and never more than needed, and folds them.
-/

namespace LeadFlow.Service

open Analytics Storage

/-- The entries of the log, of one workflow unless its id is empty. -/
def logView (actor workflowId : String) (limit : Int) : Storage (List LogEntry) := do
  let runs ← listRuns actor workflowId limit
  found (executionLog runs limit)

/-- The figures of each node of a workflow over so many runs. -/
def nodesView (actor workflowId : String) (window : Int) : Storage (List NodeMetric) := do
  let _ ← findWorkflow actor workflowId
  let runs ← listRuns actor workflowId window
  found (nodePerformance runs window)

/-- The triggers of a workflow over so many runs, by the clock of the zone with a name. -/
def triggersView (actor workflowId zoneName : String) (window : Int) : Storage TriggerReport := do
  let w ← findWorkflow actor workflowId
  let runs ← listRuns actor workflowId window
  let zone ← found (Message.zoneNamed zoneName)
  found (triggerReport w runs zone (← read).now)

/-- How many runs a summary covers. -/
def summaryLimit : Int := 5000

/-- The totals over the workflows and runs of an actor. -/
def summaryView (actor : String) : Storage Summary := do
  let ws ← listWorkflows actor listingLimit
  let runs ← listRuns actor "" summaryLimit
  return summary ws runs

end LeadFlow.Service
