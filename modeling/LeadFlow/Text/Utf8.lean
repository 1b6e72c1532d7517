set_option autoImplicit false

/-!
# Text: characters from bytes

Bytes are read as UTF-8.  A byte that starts no character, or a start whose character is cut short,
counts as one replacement character, and reading goes on behind it.
-/

namespace LeadFlow.Text

/-- What stands for bytes that make no character. -/
def replacement : Char := Char.ofNat 0xfffd

/-- What a first byte says: its own bits, how many bytes follow, and the bounds of the next one. -/
structure Opening where
  bits : Nat
  following : Nat
  low : Nat
  high : Nat
  deriving DecidableEq, Repr

/-- Reads a first byte; nothing if no character starts with it. -/
def Opening.ofByte? (b : Nat) : Option Opening :=
  if b < 0x80 then some ⟨b, 0, 0x80, 0xbf⟩
  else if 0xc2 ≤ b ∧ b ≤ 0xdf then some ⟨b - 0xc0, 1, 0x80, 0xbf⟩
  else if b = 0xe0 then some ⟨0, 2, 0xa0, 0xbf⟩
  else if b = 0xed then some ⟨0xd, 2, 0x80, 0x9f⟩
  else if 0xe1 ≤ b ∧ b ≤ 0xef then some ⟨b - 0xe0, 2, 0x80, 0xbf⟩
  else if b = 0xf0 then some ⟨0, 3, 0x90, 0xbf⟩
  else if 0xf1 ≤ b ∧ b ≤ 0xf3 then some ⟨b - 0xf0, 3, 0x80, 0xbf⟩
  else if b = 0xf4 then some ⟨4, 3, 0x80, 0x8f⟩
  else none

/-- Adds so many following bytes to the bits: the code point, or nothing if one is missing, and how
many bytes were taken. -/
def follow : Nat → Nat → Nat → Nat → List Nat → Option Nat × Nat
  | 0, _, _, bits, _ => (some bits, 0)
  | n + 1, low, high, bits, b :: bs =>
    if low ≤ b ∧ b ≤ high then
      let (point, taken) := follow n 0x80 0xbf (bits * 64 + (b - 0x80)) bs
      (point, taken + 1)
    else (none, 0)
  | _ + 1, _, _, _, [] => (none, 0)

/-- The character that a first byte and the bytes behind it make, and how many of those it takes. -/
def charAt (b : Nat) (behind : List Nat) : Char × Nat :=
  match Opening.ofByte? b with
  | none => (replacement, 0)
  | some o =>
    let (point, taken) := follow o.following o.low o.high o.bits behind
    ((point.map Char.ofNat).getD replacement, taken)

/-- The characters of bytes. -/
def charsOfBytes : List Nat → List Char
  | [] => []
  | b :: bs =>
    let (c, taken) := charAt b bs
    c :: charsOfBytes (bs.drop taken)
termination_by bs => bs.length
decreasing_by simp only [List.length_cons, List.length_drop]; omega

/-- The bytes of a character. -/
def bytesOfChar (c : Char) : List Nat :=
  let n := c.toNat
  if n < 0x80 then [n]
  else if n < 0x800 then [0xc0 + n / 64, 0x80 + n % 64]
  else if n < 0x10000 then [0xe0 + n / 4096, 0x80 + n / 64 % 64, 0x80 + n % 64]
  else [0xf0 + n / 262144, 0x80 + n / 4096 % 64, 0x80 + n / 64 % 64, 0x80 + n % 64]

end LeadFlow.Text
