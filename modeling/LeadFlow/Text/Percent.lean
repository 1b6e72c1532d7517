import LeadFlow.Text.Digit
import LeadFlow.Text.Utf8

set_option autoImplicit false

/-!
# Text: percent escapes

In an address a percent sign and two hexadecimal digits stand for a byte.  A percent sign that is
not followed by two such digits stands for itself.  Escaping leaves alone what is escaped already.
-/

namespace LeadFlow.Text

/-- The byte of two hexadecimal digits. -/
def hexByte? (high low : Char) : Option Nat := do
  return (← hexDigit? high) * 16 + (← hexDigit? low)

/-- The bytes that characters with escapes stand for. -/
def unescapedBytes : List Char → List Nat
  | [] => []
  | '%' :: high :: low :: cs =>
    match hexByte? high low with
    | some b => b :: unescapedBytes cs
    | none => 0x25 :: unescapedBytes (high :: low :: cs)
  | c :: cs => bytesOfChar c ++ unescapedBytes cs

/-- The text that a text with escapes stands for. -/
def unescaped (s : String) : String := .ofList (charsOfBytes (unescapedBytes s.toList))

/-- A character that never needs an escape. -/
def isUnreserved (c : Char) : Bool := c.isAlphanum || c == '-' || c == '.' || c == '_' || c == '~'

/-- The escape of a byte. -/
def byteEscape (b : Nat) : List Char :=
  ['%', (Nat.digitChar (b / 16)).toUpper, (Nat.digitChar (b % 16)).toUpper]

/-- A character, escaped unless it is safe. -/
def escapedChar (safe : Char → Bool) (c : Char) : List Char :=
  if isUnreserved c || safe c then [c] else (bytesOfChar c).flatMap byteEscape

/-- Characters, escaped unless they are safe or make an escape. -/
def escapedChars (safe : Char → Bool) : List Char → List Char
  | [] => []
  | '%' :: high :: low :: cs =>
    match hexByte? high low with
    | some _ => '%' :: high :: low :: escapedChars safe cs
    | none => escapedChar safe '%' ++ escapedChars safe (high :: low :: cs)
  | c :: cs => escapedChar safe c ++ escapedChars safe cs

/-- A text with escapes for all that is not safe. -/
def escaped (safe : Char → Bool) (s : String) : String := .ofList (escapedChars safe s.toList)

end LeadFlow.Text
