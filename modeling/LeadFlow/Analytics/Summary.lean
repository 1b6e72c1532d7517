import LeadFlow.Analytics.Triggers

set_option autoImplicit false

/-!
# Analytics: summary

Totals over an actor's workflows and their runs.
-/

namespace LeadFlow.Analytics

/-- Totals over workflows and runs. -/
structure Summary where
  workflows : Nat
  active : Nat
  executions : Nat
  leadsProcessed : Int
  successRate : Int
  deriving Repr, DecidableEq

/-- The totals. -/
def summary (workflows : List Workflow) (runs : List Run) : Summary where
  workflows := workflows.length
  active := workflows.countP (·.status == .active)
  executions := runs.length
  leadsProcessed := (workflows.map (·.stats.leadsProcessed)).foldr (· + ·) 0
  successRate := percent (successes runs) runs.length

/-- The totals as fields. -/
def Summary.toFields (s : Summary) : Fields :=
  [("total_workflows", .ofNat s.workflows), ("active_workflows", .ofNat s.active),
    ("total_executions", .ofNat s.executions), ("total_leads_processed", .int s.leadsProcessed),
    ("success_rate", .int s.successRate)]

end LeadFlow.Analytics
