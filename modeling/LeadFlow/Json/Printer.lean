import LeadFlow.Decimal.Notation
import LeadFlow.Text.Quoted
import LeadFlow.Value.Basic

set_option autoImplicit false

/-!
# Json: writing

Writes a value as JSON text.  In the spaced style a comma and a space stand between items and a colon
and a space after a key, and everything beyond ASCII is a `\u` escape, in pairs beyond the basic
plane; the dense style has no spaces and keeps characters as they are.
-/

namespace LeadFlow.Json

/-- Decisions of a JSON layout. -/
structure Style where
  comma : List Char
  colon : List Char
  /-- characters beyond ASCII are escaped -/
  ascii : Bool
  deriving DecidableEq, Repr

/-- Spaces after commas and colons, ASCII only. -/
def Style.spaced : Style := ⟨[',', ' '], [':', ' '], true⟩

/-- No spaces, any character. -/
def Style.dense : Style := ⟨[','], [':'], false⟩

/-- A 16-bit unit as an escape. -/
def unitEscape (n : Nat) : List Char := '\\' :: 'u' :: Text.hex 4 n

/-- A character inside a string. -/
def stringChar (style : Style) (c : Char) : List Char :=
  match c with
  | '"' => ['\\', '"']
  | '\\' => ['\\', '\\']
  | '\n' => ['\\', 'n']
  | '\r' => ['\\', 'r']
  | '\t' => ['\\', 't']
  | '\x08' => ['\\', 'b']
  | '\x0c' => ['\\', 'f']
  | c =>
    if 0x20 ≤ c.toNat && (c.toNat < 0x7f || !style.ascii) then [c]
    else if c.toNat < 0x10000 then unitEscape c.toNat
    else
      unitEscape (0xd800 + (c.toNat - 0x10000) / 0x400) ++
        unitEscape (0xdc00 + (c.toNat - 0x10000) % 0x400)

/-- A string with its quotes. -/
def stringChars (style : Style) (s : String) : List Char :=
  '"' :: s.toList.flatMap (stringChar style) ++ ['"']

/-- A double. -/
def floatChars (x : Float) : List Char :=
  if x.isNaN then "NaN".toList
  else if x.isInf then (if Decimal.isNegative x then "-Infinity".toList else "Infinity".toList)
  else (Decimal.text x).toList

mutual
/-- The text of a value. -/
def chars (style : Style) : Value → List Char
  | .null => "null".toList
  | .bool b => if b then "true".toList else "false".toList
  | .int n => (toString n).toList
  | .float x => floatChars x
  | .str s => stringChars style s
  | .list xs => '[' :: itemChars style xs ++ [']']
  | .object fs => '\x7b' :: fieldChars style fs ++ ['\x7d']

/-- The items of a list. -/
def itemChars (style : Style) : List Value → List Char
  | [] => []
  | [x] => chars style x
  | x :: xs => chars style x ++ style.comma ++ itemChars style xs

/-- The fields of an object. -/
def fieldChars (style : Style) : List (String × Value) → List Char
  | [] => []
  | [(k, v)] => stringChars style k ++ style.colon ++ chars style v
  | (k, v) :: fs => stringChars style k ++ style.colon ++ chars style v ++ style.comma ++ fieldChars style fs
end

/-- The text of a value in the spaced style. -/
def print (v : Value) : String := .ofList (chars .spaced v)

/-- The text of a value in the dense style. -/
def printDense (v : Value) : String := .ofList (chars .dense v)

end LeadFlow.Json
