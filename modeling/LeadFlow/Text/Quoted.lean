import LeadFlow.Text.Printable

set_option autoImplicit false

/-!
# Text: quoted text

Text inside a displayed list or object stands in quotes: single ones, unless it holds a single
quote and no double quote.  The backslash, the quote in use, line ends and tabs are escaped by
name, and characters that do not print by their code point.
-/

namespace LeadFlow.Text

/-- The last `width` hexadecimal digits of a number, with leading zeros. -/
def hex (width n : Nat) : List Char :=
  let ds := Nat.toDigits 16 n
  List.replicate (width - ds.length) '0' ++ ds

/-- The quote for a text. -/
def quoteFor (cs : List Char) : Char :=
  if cs.contains '\'' && !cs.contains '"' then '"' else '\''

/-- A character inside quotes. -/
def quotedChar (q c : Char) : List Char :=
  if c = q || c = '\\' then ['\\', c]
  else if c = '\n' then ['\\', 'n']
  else if c = '\r' then ['\\', 'r']
  else if c = '\t' then ['\\', 't']
  else if isPrintable c then [c]
  else if c.toNat ≤ 0xff then '\\' :: 'x' :: hex 2 c.toNat
  else if c.toNat ≤ 0xffff then '\\' :: 'u' :: hex 4 c.toNat
  else '\\' :: 'U' :: hex 8 c.toNat

/-- The text in quotes. -/
def quoted (s : String) : String :=
  let q := quoteFor s.toList
  .ofList (q :: s.toList.flatMap (quotedChar q) ++ [q])

end LeadFlow.Text
