import LeadFlow.Decimal.Numeral
import LeadFlow.Decimal.Rounding
import LeadFlow.Decode.Issue
import LeadFlow.Text.Search

set_option autoImplicit false

/-!
# Decode: numbers written as text

A whole number has a plain form: a minus or nothing, then zero alone or digits that start with
another one.  A text in any other form is cleaned first, of blanks at its ends, a plus, zeros in
front, a fraction of zeros and single underscores; what is left must be plain.  A double is read
without the blanks at its ends, or else without its underscores.
-/

namespace LeadFlow.Decode

open Decimal (asciiDigit)

/-- The most characters of a whole number written as text, its minus included. -/
def wholeLimit : Nat := Decimal.mostDigits

/-- A minus or nothing, and the rest. -/
def minus : List Char → Bool × List Char
  | '-' :: cs => (true, cs)
  | cs => (false, cs)

/-- A whole number in plain form.  A run of digits beyond the limit is refused for its size, whatever
follows it. -/
def plainWhole (cs : List Char) : Except Cause Int :=
  let (negative, body) := minus cs
  let (digits, rest) := body.span Char.isDigit
  match digits with
  | [] => .error .wholeText
  | '0' :: more => if more.isEmpty && rest.isEmpty then .ok 0 else .error .wholeText
  | _ =>
    if wholeLimit < digits.length + negative.toNat then .error .wholeSize
    else if rest.isEmpty then .ok (Decimal.signed negative (Decimal.digitRun asciiDigit 0 0 digits).1)
    else .error .wholeText

/-- The characters without their underscores, which must stand singly and inside. -/
def withoutUnderscores? (cs : List Char) : Option (List Char) :=
  if cs.head? = some '_' || cs.getLast? = some '_' || Text.hasPart ['_', '_'] cs then none
  else some (cs.filter (· ≠ '_'))

/-- Goes past further zeros and underscores; `last` is the character just passed, which stays if no
digit follows. -/
def pastZeros (last : Char) : List Char → Option (List Char)
  | [] => some [last]
  | c :: cs =>
    if c = '0' || c = '_' then pastZeros c cs
    else if c.isDigit then some (c :: cs)
    else if c = '.' then some (last :: c :: cs)
    else none

/-- The characters without the zeros in front, if a digit comes first. -/
def withoutZeros? : List Char → Option (List Char)
  | [] => none
  | c :: cs => if c = '0' then pastZeros c cs else if c.isDigit then some (c :: cs) else none

/-- The characters before a fraction of zeros, or all of them. -/
def dropZeroFraction (cs : List Char) : List Char :=
  match Text.cutAt? ['.'] cs with
  | some (whole, fraction) =>
    if !fraction.isEmpty && fraction.all (fun c => c = '0' || c = '_') then whole else cs
  | none => cs

/-- The text with all that may surround the plain form taken away. -/
def cleanWhole? (cs : List Char) : Option (List Char) :=
  let cs := Text.trimChars Text.isSpace cs
  let unsigned := match cs with
    | '+' :: '-' :: _ => none
    | '+' :: rest => some (false, rest)
    | cs => some (minus cs)
  unsigned.bind fun (negative, body) =>
    (withoutZeros? body).map fun body =>
      let body := dropZeroFraction body
      let body := (withoutUnderscores? body).getD body
      if negative then '-' :: body else body

/-- A whole number written as text. -/
def wholeOfText (s : String) : Except Cause Int :=
  match plainWhole s.toList with
  | .error .wholeText =>
    match cleanWhole? s.toList with
    | some cs => plainWhole cs
    | none => .error .wholeText
  | r => r

/-- A numeral without underscores. -/
def plainNumber? (cs : List Char) : Option Float :=
  if cs.contains '_' then none
  else (Decimal.readNumeral asciiDigit cs).map Decimal.Numeral.toFloat

/-- A double written as text. -/
def numberOfText? (s : String) : Option Float :=
  match plainNumber? (Text.trimChars Text.isSpace s.toList) with
  | some x => some x
  | none => (withoutUnderscores? s.toList).bind plainNumber?

end LeadFlow.Decode
