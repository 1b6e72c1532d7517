import LeadFlow.Decimal.Shortest

set_option autoImplicit false

/-!
# Decimal: how doubles are written

Two layouts of the same digits: `text` writes the shortest digits that read back, always with a
point or an exponent; `compact` writes at most six significant digits and no trailing zeros.
-/

namespace LeadFlow.Decimal

/-- Decisions of a number layout. -/
structure Layout where
  /-- first digit at this position or further right: exponent form -/
  small : Int
  /-- first digit at this position or further left: exponent form -/
  large : Int
  /-- whole numbers get `.0` -/
  point : Bool
  deriving DecidableEq, Repr

/-- Shortest form: positional from `0.0001` to below `10 ^ 16`, a point always shown. -/
def Layout.full : Layout := ⟨-5, 16, true⟩

/-- Compact form: positional from `0.0001` to below `10 ^ 6`, no point in whole numbers. -/
def Layout.compact : Layout := ⟨-5, 6, false⟩

/-- Decimal digits of a natural number. -/
def digitChars (n : Nat) : List Char := Nat.toDigits 10 n

/-- The exponent, with its sign and at least two digits. -/
def exponentChars (k : Int) : List Char :=
  let ds := digitChars k.natAbs
  ['e', if k < 0 then '-' else '+'] ++ (if ds.length < 2 then '0' :: ds else ds)

/-- Digits `ds` whose first digit stands at position `k`, in exponent form. -/
def scientific (ds : List Char) (k : Int) : List Char :=
  match ds with
  | [] => []
  | [d] => d :: exponentChars k
  | d :: rest => d :: '.' :: rest ++ exponentChars k

/-- Digits `ds` whose first digit stands at position `k`, in positional form. -/
def positional (ds : List Char) (k : Int) (point : Bool) : List Char :=
  if k < 0 then '0' :: '.' :: List.replicate ((-k).toNat - 1) '0' ++ ds
  else
    let n := k.toNat + 1
    if ds.length ≤ n then
      ds ++ List.replicate (n - ds.length) '0' ++ (if point then ['.', '0'] else [])
    else ds.take n ++ '.' :: ds.drop n

/-- A positive decimal in a layout. -/
def Digits.layOut (l : Layout) (d : Digits) : List Char :=
  let ds := digitChars d.digits
  let k := d.exponent + ds.length - 1
  if k ≤ l.small || l.large ≤ k then scientific ds k else positional ds k l.point

/-- Writes a double: sign, then the digits chosen by `pick` in the layout. -/
def write (l : Layout) (pick : Nat → Int → Digits) (x : Float) : String :=
  let b := Binary.ofFloat x
  let sign : List Char := if b.negative then ['-'] else []
  match b.size with
  | .nan => "nan"
  | .infinite => .ofList (sign ++ ['i', 'n', 'f'])
  | .finite 0 _ => .ofList (sign ++ positional ['0'] 0 l.point)
  | .finite m e => .ofList (sign ++ (pick m e).layOut l)

/-- The shortest text that reads back. -/
def text (x : Float) : String := write .full shortest x

/-- At most six significant digits. -/
def compact (x : Float) : String :=
  write .compact (fun m e => let (a, b) := ((Size.finite m e).ratio?).getD (m, 1); significant 6 a b) x

end LeadFlow.Decimal
