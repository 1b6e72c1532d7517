import LeadFlow.Fault

set_option autoImplicit false

/-!
# Http: values of headers

The value of a header is ASCII.  Any other character is a fault, which tells the first run of such
characters.
-/

namespace LeadFlow.Http

/-- Hexadecimal digits, at least so many. -/
def hexDigits (width n : Nat) : String :=
  let ds := Nat.toDigits 16 n
  .ofList (List.replicate (width - ds.length) '0' ++ ds)

/-- A character as an escape. -/
def charEscape (c : Char) : String :=
  let n := c.toNat
  if n < 0x100 then "\\x" ++ hexDigits 2 n
  else if n < 0x10000 then "\\u" ++ hexDigits 4 n
  else "\\U" ++ hexDigits 8 n

/-- The fault of a text that is not ASCII. -/
def asciiFault? (s : String) : Option Fault :=
  let (before, rest) := s.toList.span (·.toNat < 0x80)
  let place := before.length
  let shown :=
    match rest.takeWhile (0x80 ≤ ·.toNat) with
    | [] => none
    | [c] => some s!"character '{charEscape c}' in position {place}"
    | run => some s!"characters in position {place}-{place + run.length - 1}"
  shown.map fun what =>
    .of .unicodeEncode s!"'ascii' codec can't encode {what}: ordinal not in range(128)"

/-- The values of headers, unless one is not ASCII. -/
def checkedHeaders (headers : List (String × String)) : Outcome (List (String × String)) :=
  match headers.findSome? fun h => asciiFault? h.2 with
  | some f => .error f
  | none => .ok headers

end LeadFlow.Http
