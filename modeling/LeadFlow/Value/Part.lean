import LeadFlow.Value.Basic

set_option autoImplicit false

/-!
# Value: parts of an object

Lenient access to the parts of an object: a part that is absent, or of another kind than asked for,
counts as a default.
-/

namespace LeadFlow.Fields

/-- A part; null if it is absent. -/
def part (fs : Fields) (key : String) : Value := (fs.get? key).getD .null

/-- A text part. -/
def textPart (fs : Fields) (key : String) (default : String := "") : String :=
  ((part fs key).text?).getD default

/-- A list part. -/
def listPart (fs : Fields) (key : String) : List Value :=
  match part fs key with
  | .list xs => xs
  | _ => []

/-- The fields of a value; none if it is no object. -/
def fieldsOf (v : Value) : Fields := v.fields?.getD []

/-- An object part. -/
def fieldsPart (fs : Fields) (key : String) : Fields := fieldsOf (part fs key)

/-- A number part. -/
def numPart (fs : Fields) (key : String) (default : Num) : Num :=
  (Num.ofValue? (part fs key)).getD default

/-- A whole number part. -/
def wholePart (fs : Fields) (key : String) (default : Int) : Int :=
  match numPart fs key (.int default) with
  | .int n => n
  | .float _ => default

end LeadFlow.Fields
