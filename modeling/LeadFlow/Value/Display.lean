import LeadFlow.Decimal.Notation
import LeadFlow.Decimal.Rounding
import LeadFlow.Text.Quoted
import LeadFlow.Value.Basic

set_option autoImplicit false

/-!
# Value: how values are shown

`display` shows a value as text: a string is its own text, everything else is spelled out, with
strings inside lists and objects in quotes.  `copy` shows a value the way it should appear in a
message: nothing for null, whole doubles without a point, and the first item of a list.
-/

namespace LeadFlow.Value

mutual
/-- A value inside a list or an object. -/
def inspect : Value → String
  | null => "None"
  | bool b => if b then "True" else "False"
  | int n => toString n
  | float x => Decimal.text x
  | str s => Text.quoted s
  | list xs => "[" ++ ", ".intercalate (inspectItems xs) ++ "]"
  | object fs => "\x7b" ++ ", ".intercalate (inspectFields fs) ++ "\x7d"

/-- The items of a list. -/
def inspectItems : List Value → List String
  | [] => []
  | x :: xs => inspect x :: inspectItems xs

/-- The fields of an object. -/
def inspectFields : List (String × Value) → List String
  | [] => []
  | (k, v) :: fs => (Text.quoted k ++ ": " ++ inspect v) :: inspectFields fs
end

/-- The text of a value. -/
def display : Value → String
  | str s => s
  | v => inspect v

/-- The value as it appears in a message. -/
def copy : Value → String
  | null => ""
  | bool b => if b then "true" else "false"
  | float x =>
    if Decimal.isWhole x then
      match Decimal.truncate x with
      | .ok n => toString n
      | .error _ => Decimal.text x
    else Decimal.text x
  | list [] => ""
  | list (x :: _) => copy x
  | v => display v

end LeadFlow.Value

/-- The number as it appears in a message. -/
def LeadFlow.Num.copy (n : LeadFlow.Num) : String := n.toValue.copy
