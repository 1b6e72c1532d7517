import LeadFlow.Text.Utf8

set_option autoImplicit false

/-!
# Text: the encoding of a document

A document comes as bytes in UTF-8, or in units of two or four bytes, the high byte of a unit first or
last.  Which one it is shows in the first bytes: as a document starts with two characters of ASCII,
wider units have zeros there.  Bytes that fill no unit at the end, and units that are no code point,
are refused.
-/

namespace LeadFlow.Text

/-- Which byte of a unit comes first. -/
inductive ByteOrder where
  | high
  | low
  deriving DecidableEq, Repr

/-- How characters are made of bytes. -/
inductive Encoding where
  | utf8
  | utf16 (first : ByteOrder)
  | utf32 (first : ByteOrder)
  deriving DecidableEq, Repr

/-- The name of a byte order. -/
def ByteOrder.mark : ByteOrder → String
  | high => "be"
  | low => "le"

/-- The name. -/
def Encoding.name : Encoding → String
  | utf8 => "utf-8"
  | utf16 o => "utf-16-" ++ o.mark
  | utf32 o => "utf-32-" ++ o.mark

/-- The encoding that the first bytes of a document show. -/
def Encoding.ofBytes : List Nat → Encoding
  | 0 :: 0 :: _ :: _ :: _ => .utf32 .high
  | 0 :: _ :: _ :: _ :: _ => .utf16 .high
  | _ :: 0 :: 0 :: 0 :: _ => .utf32 .low
  | _ :: 0 :: _ :: _ :: _ => .utf16 .low
  | [0, _] => .utf16 .high
  | [_, 0] => .utf16 .low
  | _ => .utf8

/-- What is wrong with some bytes. -/
inductive ByteCause where
  | truncated
  | beyondUnicode
  deriving DecidableEq, Repr

/-- The wording. -/
def ByteCause.message : ByteCause → String
  | truncated => "truncated data"
  | beyondUnicode => "code point not in range(0x110000)"

/-- Bytes that make no character: their place, and why. -/
structure ByteRefusal where
  encoding : Encoding
  offset : Nat
  bytes : List Nat
  cause : ByteCause
  deriving DecidableEq, Repr

/-- A byte as two hexadecimal digits. -/
def hexByte (b : Nat) : String := .ofList [Nat.digitChar (b / 16), Nat.digitChar (b % 16)]

/-- The wording. -/
def ByteRefusal.message (r : ByteRefusal) : String :=
  let place := match r.bytes with
    | [b] => s!"byte 0x{hexByte b} in position {r.offset}"
    | bs => s!"bytes in position {r.offset}-{r.offset + bs.length - 1}"
  s!"'{r.encoding.name}' codec can't decode {place}: {r.cause.message}"

/-- A code point, or the replacement character for half of a surrogate pair. -/
def scalar (n : Nat) : Char := if 0xd800 ≤ n && n ≤ 0xdfff then replacement else Char.ofNat n

/-- A code point from the halves of a surrogate pair, if they are such. -/
def joined? (hi lo : Nat) : Option Char :=
  if 0xd800 ≤ hi && hi ≤ 0xdbff && 0xdc00 ≤ lo && lo ≤ 0xdfff then
    some (Char.ofNat (0x10000 + (hi - 0xd800) * 0x400 + (lo - 0xdc00)))
  else none

/-- The characters of units of two bytes; `hi` is the unit before. -/
def charsOfUnits : Option Nat → List Nat → List Char
  | none, [] => []
  | some hi, [] => [scalar hi]
  | none, u :: us => charsOfUnits (some u) us
  | some hi, u :: us =>
    match joined? hi u with
    | some c => c :: charsOfUnits none us
    | none => scalar hi :: charsOfUnits (some u) us

/-- Units of two bytes, from byte `at` on. -/
def units16 (first : ByteOrder) (at_ : Nat) : List Nat → Except ByteRefusal (List Nat)
  | [] => .ok []
  | [a] => .error ⟨.utf16 first, at_, [a], .truncated⟩
  | a :: b :: rest =>
    (units16 first (at_ + 2) rest).map ((match first with
      | .high => a * 256 + b
      | .low => b * 256 + a) :: ·)

/-- The characters of units of four bytes, from byte `at` on. -/
def chars32 (first : ByteOrder) (at_ : Nat) : List Nat → Except ByteRefusal (List Char)
  | [] => .ok []
  | a :: b :: c :: d :: rest =>
    let n := match first with
      | .high => ((a * 256 + b) * 256 + c) * 256 + d
      | .low => ((d * 256 + c) * 256 + b) * 256 + a
    if n < 0x110000 then (chars32 first (at_ + 4) rest).map (scalar n :: ·)
    else .error ⟨.utf32 first, at_, [a, b, c, d], .beyondUnicode⟩
  | short => .error ⟨.utf32 first, at_, short, .truncated⟩

/-- The characters of a document whose bytes are those of a text.  The mark that a document in UTF-8
may start with is none of them. -/
def documentChars (s : String) : Except ByteRefusal (List Char) :=
  let bytes := s.toList.flatMap bytesOfChar
  match Encoding.ofBytes bytes with
  | .utf8 =>
    .ok (match s.toList with
      | '\ufeff' :: rest => rest
      | cs => cs)
  | .utf16 first => (units16 first 0 bytes).map (charsOfUnits none)
  | .utf32 first => chars32 first 0 bytes

end LeadFlow.Text
