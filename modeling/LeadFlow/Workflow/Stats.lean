import LeadFlow.Decode.Basic

set_option autoImplicit false

/-!
# Workflow: statistics

Running statistics of a workflow: how many leads it has processed, the share of them that ended in
success as a percentage, the hours saved, and a return on investment that is carried along.  The
kind of number is a parameter, so that the rules can be read with doubles or with exact numbers.
-/

namespace LeadFlow

/-- Running statistics over numbers `α`. -/
structure StatsOf (α : Type) where
  leadsProcessed : Int
  conversionRate : α
  timeSavedHrs : α
  roi : α
  deriving Repr, DecidableEq

/-- Running statistics over doubles. -/
abbrev Stats := StatsOf Float

namespace Stats

/-- Nothing processed yet. -/
def zero : Stats := ⟨0, 0, 0, 0⟩

/-- Decodes the fields of statistics. -/
def ofFields (fs : Fields) : Decode.Checked Stats :=
  StatsOf.mk <$> Decode.defaulted fs "leadsProcessed" "leads_processed" 0 Decode.whole
    <*> Decode.defaulted fs "conversionRate" "conversion_rate" 0 Decode.number
    <*> Decode.defaulted fs "timeSavedHrs" "time_saved_hrs" 0 Decode.number
    <*> Decode.defaulted fs "roi" "roi" 0 Decode.number

/-- Decodes statistics. -/
def decode (v : Value) : Decode.Checked Stats :=
  (Decode.record (.model "WorkflowStats") v).andThen ofFields

/-- The statistics as fields with underscored names. -/
def toFields (s : Stats) : Fields :=
  [("leads_processed", .int s.leadsProcessed), ("conversion_rate", .float s.conversionRate),
    ("time_saved_hrs", .float s.timeSavedHrs), ("roi", .float s.roi)]

/-- The statistics as they are stored. -/
def stored (s : Stats) : Fields :=
  [("leadsProcessed", .int s.leadsProcessed), ("conversionRate", .float s.conversionRate),
    ("timeSavedHrs", .float s.timeSavedHrs), ("roi", .float s.roi)]

end Stats

end LeadFlow
