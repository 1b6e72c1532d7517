import LeadFlow.Text.Casing

set_option autoImplicit false

/-!
# Text: camel case

The camel-case spelling of a key, as used when a field is looked up by either spelling.  A key
that already is in camel case stays as it is.
-/

namespace LeadFlow.Text

/-- A digit is followed directly by a lower-case letter. -/
def digitBeforeLower : List Char → Bool
  | a :: b :: cs => (a.isDigit && b.isLower) || digitBeforeLower (b :: cs)
  | _ => false

/-- Starts with a lower-case letter, goes on with letters and digits, and has no lower-case letter
right after a digit.  One line end after all that is allowed. -/
def isCamel (cs : List Char) : Bool :=
  let body := if cs.getLast? == some '\n' then cs.dropLast else cs
  (body.head?.map Char.isLower).getD false && body.all Char.isAlphanum && !digitBeforeLower body

/-- Drops each underscore between a letter or digit and a capital or digit. -/
def joinWords (before : Bool) : List Char → List Char
  | [] => []
  | c :: cs =>
    if c == '_' && before && ((cs.head?.map fun d => d.isDigit || d.isUpper).getD false) then
      joinWords false cs
    else c :: joinWords c.isAlphanum cs

/-- Lowers the first letter, after any underscores, if it is a capital. -/
def lowerHead : List Char → List Char
  | '_' :: cs => '_' :: lowerHead cs
  | c :: cs => (if c.isUpper then c.toLower else c) :: cs
  | [] => []

/-- Camel-case spelling of a list of characters. -/
def camelChars (cs : List Char) : List Char :=
  if isCamel cs then cs else lowerHead (joinWords false (titleFrom [] cs))

/-- Camel-case spelling of a key. -/
def camelCase (key : String) : String := .ofList (camelChars key.toList)

end LeadFlow.Text
