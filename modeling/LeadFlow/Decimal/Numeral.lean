import LeadFlow.Decimal.Binary
import LeadFlow.Text.Blank
import LeadFlow.Text.Digit

set_option autoImplicit false

/-!
# Decimal: reading numerals

Numerals are read from characters: a sign, digits with single underscores between them, a fraction,
an exponent, or a word for infinity or not-a-number.  Readers take the digits of a script through a
function, so that the same grammar serves ASCII digits and the digits of every script.
-/

namespace LeadFlow.Decimal

/-- What a numeral says. -/
inductive Numeral where
  /-- `± digits * 10 ^ exponent` -/
  | decimal (negative : Bool) (digits : Nat) (exponent : Int)
  | infinity (negative : Bool)
  | nan (negative : Bool)
  deriving DecidableEq, Repr, Inhabited

/-- A run of digits with single underscores between digits, continued from the value `acc` of
`count` digits; gives the value, the number of digits and the rest. -/
def digitRun (digit : Char → Option Nat) (acc count : Nat) : List Char → Nat × Nat × List Char
  | [] => (acc, count, [])
  | '_' :: c :: cs =>
    match digit c with
    | some d =>
      if count = 0 then (acc, count, '_' :: c :: cs)
      else digitRun digit (10 * acc + d) (count + 1) cs
    | none => (acc, count, '_' :: c :: cs)
  | c :: cs =>
    match digit c with
    | some d => digitRun digit (10 * acc + d) (count + 1) cs
    | none => (acc, count, c :: cs)

/-- An optional sign; true for minus. -/
def sign : List Char → Bool × List Char
  | '-' :: cs => (true, cs)
  | '+' :: cs => (false, cs)
  | cs => (false, cs)

/-- An optional exponent part. -/
def exponentPart (digit : Char → Option Nat) (cs : List Char) : Option (Int × List Char) :=
  match cs with
  | c :: rest =>
    if c = 'e' || c = 'E' then
      let (neg, rest) := sign rest
      let (n, count, rest) := digitRun digit 0 0 rest
      if count = 0 then none else some (if neg then -(n : Int) else n, rest)
    else some (0, cs)
  | [] => some (0, [])

/-- An unsigned decimal that fills all of `cs`. -/
def unsignedDecimal (digit : Char → Option Nat) (cs : List Char) : Option (Nat × Int) :=
  let (whole, n, rest) := digitRun digit 0 0 cs
  let (digits, places, rest) :=
    match rest with
    | '.' :: rest =>
      let (f, m, rest') := digitRun digit 0 0 rest
      (whole * Nat.pow 10 m + f, m, rest')
    | _ => (whole, 0, rest)
  if n + places = 0 then none
  else match exponentPart digit rest with
    | some (e, []) => some (digits, e - places)
    | _ => none

/-- Reads a numeral that fills all of `cs`. -/
def readNumeral (digit : Char → Option Nat) (cs : List Char) : Option Numeral :=
  let (neg, body) := sign cs
  let word := body.map Char.toLower
  if word = "inf".toList || word = "infinity".toList then some (.infinity neg)
  else if word = "nan".toList then some (.nan neg)
  else (unsignedDecimal digit body).map fun (d, e) => .decimal neg d e

/-- Reads a whole number: sign and digits. -/
def readWhole (digit : Char → Option Nat) (cs : List Char) : Option Int :=
  let (neg, body) := sign cs
  match digitRun digit 0 0 body with
  | (n, count, []) => if count = 0 then none else some (if neg then -(n : Int) else n)
  | _ => none

/-- The value of an ASCII digit. -/
def asciiDigit (c : Char) : Option Nat := if c.isDigit then some (c.toNat - 0x30) else none

/-- The double nearest to `± digits * 10 ^ exponent`; beyond the largest double it is infinite,
far below the smallest it is zero. -/
def ofDecimal (negative : Bool) (digits : Nat) (exponent : Int) : Float :=
  if digits = 0 then ofRatio negative 0 1
  else
    let top := exponent + (digits.log2 : Int) * 30103 / 100000
    if 400 < top then ofRatio negative (Nat.pow 2 1100) 1
    else if top < -400 then ofRatio negative 0 1
    else if 0 ≤ exponent then ofRatio negative (digits * Nat.pow 10 exponent.toNat) 1
    else ofRatio negative digits (Nat.pow 10 (-exponent).toNat)

/-- The double that a numeral denotes. -/
def Numeral.toFloat : Numeral → Float
  | .decimal neg d e => ofDecimal neg d e
  | .infinity neg => .ofBits (if neg then 0xfff0000000000000 else 0x7ff0000000000000)
  | .nan _ => .ofBits 0x7ff8000000000000

/-- Reads a double from text, white space at the ends ignored, digits of any script allowed. -/
def floatOfText? (s : String) : Option Float :=
  (readNumeral Text.digitValue? (Text.trimChars Text.isSpace s.toList)).map Numeral.toFloat

/-- The most digits of a whole number that is read. -/
def mostDigits : Nat := 4300

/-- The wording of a number that is too long. -/
def tooManyDigits (count : Nat) : String :=
  s!"Exceeds the limit ({mostDigits} digits) for integer string conversion: value has {count} digits; " ++
    "use sys.set_int_max_str_digits() to increase the limit"

/-- Why a text is no whole number. -/
inductive WholeRefusal where
  | form
  /-- so many digits, whatever follows them -/
  | digits (count : Nat)
  deriving DecidableEq, Repr

/-- Reads a whole number from text, white space at the ends ignored, digits of any script allowed. -/
def intOfText (s : String) : Except WholeRefusal Int :=
  let (negative, body) := sign (Text.trimChars Text.isSpace s.toList)
  let (n, count, rest) := digitRun Text.digitValue? 0 0 body
  if count = 0 || rest.head? = some '_' then .error .form
  else if mostDigits < count then .error (.digits count)
  else if rest.isEmpty then .ok (if negative then -(n : Int) else n)
  else .error .form

end LeadFlow.Decimal
