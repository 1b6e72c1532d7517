set_option autoImplicit false

/-!
# Text: punycode

A text is written in ASCII: its own ASCII characters come first, then the others as numbers.  The others
are taken in the order of their code points, and each number says how many states of an insertion, of
place and code point, lie between one and the next.  Numbers have digits of base 36 whose thresholds
adapt to the numbers written so far.
-/

namespace LeadFlow.Text.Punycode

/-- A digit of base 36: letters, then figures. -/
def digit (n : Nat) : Char := if n < 26 then Char.ofNat (0x61 + n) else Char.ofNat (0x30 + (n - 26))

/-- The threshold of the digit at position `k`, counted in steps of 36. -/
def threshold (k bias : Nat) : Nat := if k ≤ bias then 1 else if bias + 26 ≤ k then 26 else k - bias

theorem threshold_pos (k bias : Nat) : 0 < threshold k bias := by
  unfold threshold
  split
  · omega
  · split <;> omega

/-- Divides by 35 until little is left, counting steps of 36. -/
def scaled (delta k : Nat) : Nat × Nat := if 455 < delta then scaled (delta / 35) (k + 36) else (delta, k)
termination_by delta
decreasing_by exact Nat.div_lt_self (by omega) (by omega)

/-- The bias after a number, for `count` characters written. -/
def adapted (delta count : Nat) (first : Bool) : Nat :=
  let delta := if first then delta / 700 else delta / 2
  let (delta, k) := scaled (delta + delta / count) 0
  k + 36 * delta / (delta + 38)

/-- The digits of a number, the lowest first, from position `k` on. -/
def digits (bias k n : Nat) : List Char :=
  let t := threshold k bias
  if n < t then [digit n]
  else digit (t + (n - t) % (36 - t)) :: digits bias (k + 36) ((n - t) / (36 - t))
termination_by n
decreasing_by
  have := threshold_pos k bias
  exact Nat.lt_of_le_of_lt (Nat.div_le_self _ _) (by omega)

/-- How far the writing has come. -/
structure State where
  /-- the characters written, last first -/
  written : List Char
  delta : Nat
  bias : Nat
  /-- how many characters of the text are written -/
  count : Nat

/-- Passes a character of the text while those with code point `point` are written. -/
def State.pass (plain point : Nat) (s : State) (c : Char) : State :=
  if c.toNat < point then { s with delta := s.delta + 1 }
  else if c.toNat = point then
    { written := (digits s.bias 36 s.delta).reverse ++ s.written
      delta := 0
      bias := adapted s.delta (s.count + 1) (s.count == plain)
      count := s.count + 1 }
  else s

/-- Writes the characters with the given code points, which are in order; `next` is the least code point
not yet passed. -/
def writeFrom (text : List Char) (plain : Nat) : List Nat → Nat → State → State
  | [], _, s => s
  | point :: rest, next, s =>
    let s := { s with delta := s.delta + (point - next) * (s.count + 1) }
    let s := text.foldl (State.pass plain point) s
    writeFrom text plain rest (point + 1) { s with delta := s.delta + 1 }

/-- Puts a number into a list in order that does not hold it. -/
def insertPoint (n : Nat) : List Nat → List Nat
  | [] => [n]
  | m :: ms => if n < m then n :: m :: ms else if n = m then m :: ms else m :: insertPoint n ms

/-- The text in ASCII. -/
def encode (text : List Char) : List Char :=
  let plain := text.filter (·.toNat < 0x80)
  let points := (text.filter (0x80 ≤ ·.toNat)).foldr (fun c ps => insertPoint c.toNat ps) []
  let last := writeFrom text plain.length points 0x80 ⟨[], 0, 72, plain.length⟩
  plain ++ (if plain.isEmpty then [] else ['-']) ++ last.written.reverse

end LeadFlow.Text.Punycode
