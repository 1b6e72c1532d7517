set_option autoImplicit false

/-!
# Text: placement

What is put in the place of a placeholder is made to fit: cut off, filled up with spaces on one of
the sides, or, if it is a number, with zeros between its sign and its digits.
-/

namespace LeadFlow.Text

/-- How a placeholder wants its value. -/
structure Placement where
  /-- spaces go to the right -/
  left : Bool := false
  /-- numbers that are not negative have a sign, too -/
  plus : Bool := false
  /-- numbers that are not negative have a space for a sign -/
  blank : Bool := false
  /-- numbers show their base, doubles their point -/
  alternate : Bool := false
  /-- numbers are filled up with zeros -/
  zero : Bool := false
  width? : Option Nat := none
  precision? : Option Nat := none
  deriving DecidableEq, Repr

/-- What a value is shown as. -/
inductive Shown where
  /-- a text of any length -/
  | words (cs : List Char)
  /-- a single character -/
  | symbol (c : Char)
  /-- a number: whether it is negative, the mark of its base, and its digits -/
  | number (negative : Bool) (mark digits : List Char)
  deriving DecidableEq, Repr

namespace Placement

/-- The most characters that there is room for. -/
def mostRoom : Nat := 2000000000

/-- There is room for the width. -/
def widthFits (p : Placement) : Bool := p.width?.getD 0 ≤ mostRoom

/-- There is room for digits to the precision. -/
def digitsFit (p : Placement) : Bool := p.precision?.getD 0 ≤ mostRoom

/-- The sign of a number. -/
def sign (p : Placement) (negative : Bool) : List Char :=
  if negative then ['-'] else if p.plus then ['+'] else if p.blank then [' '] else []

/-- Fills up with spaces. -/
def pad (p : Placement) (cs : List Char) : List Char :=
  let spaces := List.replicate (p.width?.getD 0 - cs.length) ' '
  if p.left then cs ++ spaces else spaces ++ cs

/-- Makes what is shown fit. -/
def fit (p : Placement) (s : Shown) : List Char :=
  match s with
  | .words cs => p.pad (cs.take (p.precision?.getD cs.length))
  | .symbol c => p.pad [c]
  | .number negative mark digits =>
    let front := p.sign negative ++ mark
    let zeros :=
      if p.zero && !p.left then p.width?.getD 0 - (front.length + digits.length) else 0
    p.pad (front ++ List.replicate zeros '0' ++ digits)

end Placement

end LeadFlow.Text
