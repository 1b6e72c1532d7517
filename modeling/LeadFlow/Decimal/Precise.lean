import LeadFlow.Decimal.Notation

set_option autoImplicit false

/-!
# Decimal: doubles to a precision

A double written with as many decimals, or significant digits, as asked for.  The digits are those
of the exact value, rounded once, a half to the even digit.
-/

namespace LeadFlow.Decimal

/-- How the digits are laid out. -/
inductive Form where
  /-- all digits before the point -/
  | fixed
  /-- one digit before the point, and a power of ten -/
  | scientific
  /-- as many significant digits as asked for, in the shorter of the two ways -/
  | general
  deriving DecidableEq, Repr

/-- Digits around a point; `always` says whether the point stands before nothing, too. -/
def pointed (always : Bool) (whole decimals : List Char) : List Char :=
  if decimals.isEmpty && !always then whole else whole ++ '.' :: decimals

/-- At least so many characters, with zeros before them. -/
def zerosBefore (n : Nat) (ds : List Char) : List Char := List.replicate (n - ds.length) '0' ++ ds

/-- At least so many characters, with zeros after them. -/
def zerosAfter (n : Nat) (ds : List Char) : List Char := ds ++ List.replicate (n - ds.length) '0'

/-- A fraction with so many decimals. -/
def fixedChars (always : Bool) (places a b : Nat) : List Char :=
  let ds := zerosBefore (places + 1) (digitChars (roundDiv (a * Nat.pow 10 places) b))
  let whole := ds.length - places
  pointed always (ds.take whole) (ds.drop whole)

/-- The significant digits of a fraction, `n` at most, and the position of the first of them. -/
def leadingChars (n a b : Nat) : List Char × Int :=
  if a = 0 then (['0'], 0)
  else
    let d := significant n a b
    let ds := digitChars d.digits
    (ds, d.exponent + ds.length - 1)

/-- Digits whose first stands at position `k`, with a power of ten. -/
def scientificChars (always : Bool) (ds : List Char) (k : Int) : List Char :=
  pointed always (ds.take 1) (ds.drop 1) ++ exponentChars k

/-- Digits whose first stands at position `k`, without a power of ten. -/
def positionalChars (always : Bool) (ds : List Char) (k : Int) : List Char :=
  if k < 0 then pointed always ['0'] (List.replicate ((-k).toNat - 1) '0' ++ ds)
  else
    let n := k.toNat + 1
    let ds := zerosAfter n ds
    pointed always (ds.take n) (ds.drop n)

/-- A fraction in a form; `always` keeps the point and the zeros at the end. -/
def Form.chars (form : Form) (always : Bool) (precision a b : Nat) : List Char :=
  match form with
  | .fixed => fixedChars always precision a b
  | .scientific =>
    let (ds, k) := leadingChars (precision + 1) a b
    scientificChars always (zerosAfter (precision + 1) ds) k
  | .general =>
    let n := max precision 1
    let (ds, k) := leadingChars n a b
    let ds := if always then zerosAfter n ds else ds
    if k < -4 || (n : Int) ≤ k then scientificChars always ds k else positionalChars always ds k

/-- The size of a double in a form, without its sign. -/
def Form.size (form : Form) (always : Bool) (precision : Nat) (s : Size) : List Char :=
  match s with
  | .nan => ['n', 'a', 'n']
  | .infinite => ['i', 'n', 'f']
  | .finite m e =>
    let (a, b) := ((Size.finite m e).ratio?).getD (m, 1)
    form.chars always precision a b

end LeadFlow.Decimal
