set_option autoImplicit false

/-!
# Text: searching and joining

Substring search and cutting, on lists of characters, with the entry points on `String`.
-/

namespace LeadFlow.Text

/-- The rest of `cs` after `p`, if it starts with it. -/
def after? : List Char → List Char → Option (List Char)
  | [], cs => some cs
  | _ :: _, [] => none
  | p :: ps, c :: cs => if p = c then after? ps cs else none

/-- Cuts `cs` before and after the first occurrence of `p`. -/
def cutAt? (p : List Char) : List Char → Option (List Char × List Char)
  | [] => (after? p []).map fun r => ([], r)
  | c :: cs =>
    match after? p (c :: cs) with
    | some r => some ([], r)
    | none => (cutAt? p cs).map fun (a, b) => (c :: a, b)

/-- The part occurs in the text. -/
def hasPart (part text : List Char) : Bool := (cutAt? part text).isSome

theorem after?_append (p r : List Char) : after? p (p ++ r) = some r := by
  induction p with
  | nil => cases r <;> rfl
  | cons c p ih => simpa [after?] using ih

theorem hasPart_of_after? {p r : List Char} {cs : List Char} (h : after? p cs = some r) :
    hasPart p cs = true := by
  cases cs <;> simp [hasPart, cutAt?, h]

theorem hasPart_append (a p b : List Char) : hasPart p (a ++ (p ++ b)) = true := by
  induction a with
  | nil => exact hasPart_of_after? (after?_append p b)
  | cons c a ih =>
    cases h : after? p (c :: (a ++ (p ++ b))) with
    | some r => exact hasPart_of_after? h
    | none => simpa [hasPart, cutAt?, h] using ih

/-- `part` occurs in `text`. -/
def contains (text part : String) : Bool := hasPart part.toList text.toList

theorem contains_append_right (text part : String) : contains (text ++ part) part = true := by
  simpa [contains] using hasPart_append text.toList part.toList []

/-- The text up to the first occurrence of `mark`, or all of it. -/
def before (text mark : String) : String :=
  match cutAt? mark.toList text.toList with
  | some (a, _) => .ofList a
  | none => text

/-- The first `n` characters. -/
def take (n : Nat) (s : String) : String := .ofList (s.toList.take n)

/-- Cuts characters at every occurrence of a separator. -/
def splitChars (sep : Char) (cur : List Char) : List Char → List (List Char)
  | [] => [cur.reverse]
  | c :: cs => if c = sep then cur.reverse :: splitChars sep [] cs else splitChars sep (c :: cur) cs

/-- The pieces between separators; a text without one is its only piece. -/
def split (sep : Char) (s : String) : List String := (splitChars sep [] s.toList).map .ofList

end LeadFlow.Text
