import LeadFlow.Decimal.Precise
import LeadFlow.Text.Placement
import LeadFlow.Value.Arithmetic
import LeadFlow.Value.Display

set_option autoImplicit false

/-!
# Text: placeholders

A template with placeholders is filled with a list of values, each placeholder taking the next one,
or from an object, each placeholder naming a field in brackets.  Between its percent sign and the
letter that says how to show the value, a placeholder may have flags, a width and a precision; a
star takes either from the list.  Placeholders and values of a list have to be equally many.

The template is read character by character: `Filling` is what is known after some of them.
-/

namespace LeadFlow.Text

/-! ## Values in placeholders -/

/-- Characters beyond the first 128 by their code points. -/
def asciiChar (c : Char) : List Char :=
  let n := c.toNat
  if n < 0x80 then [c]
  else if n ≤ 0xff then '\\' :: 'x' :: hex 2 n
  else if n ≤ 0xffff then '\\' :: 'u' :: hex 4 n
  else '\\' :: 'U' :: hex 8 n

/-- A character as a hexadecimal number without leading zeros. -/
def hexOf (c : Char) : String := .ofList (Nat.toDigits 16 c.toNat)

/-- The base that a letter stands for. -/
def baseOf (kind : Char) : Nat :=
  if kind = 'o' then 8 else if kind = 'x' || kind = 'X' then 16 else 10

/-- The mark of a base. -/
def baseMark (kind : Char) : List Char := if baseOf kind = 10 then [] else ['0', kind]

/-- Capital letters, if the letter that asks for it is one. -/
def inCaseOf (kind : Char) (cs : List Char) : List Char :=
  if kind.isUpper then cs.map Char.toUpper else cs

/-- The most digits of a whole number that can be asked for. -/
def mostDigits : Nat := 2147483644

/-- A whole number. -/
def shownWhole (p : Placement) (kind : Char) (n : Int) : Outcome Shown := do
  let digits := p.precision?.getD 0
  if mostDigits < digits then throw (.of .overflow "precision too large")
  if !p.digitsFit then throw (.of .memory "")
  return .number (n < 0) (if p.alternate then baseMark kind else [])
    (inCaseOf kind (Decimal.zerosBefore digits (Nat.toDigits (baseOf kind) n.natAbs)))

/-- The whole number that a value is shown as; only base ten takes doubles. -/
def wholeFor (kind : Char) (v : Value) : Outcome Int :=
  match Num.ofValue? v with
  | some (.int n) => .ok n
  | some (.float x) =>
    if baseOf kind = 10 then truncateWhole x
    else .error (.of .type s!"%{kind} format: an integer is required, not float")
  | none =>
    .error (.of .type (if baseOf kind = 10
      then s!"%{kind} format: a real number is required, not {v.kindName}"
      else s!"%{kind} format: an integer is required, not {v.kindName}"))

/-- A double, with six digits unless the placeholder says otherwise. -/
def shownReal (p : Placement) (kind : Char) (form : Decimal.Form) (v : Value) : Outcome Shown := do
  match Num.ofValue? v with
  | none => .error (.of .type s!"must be real number, not {v.kindName}")
  | some n =>
    let b := Decimal.Binary.ofFloat (← n.toFloat)
    if !p.digitsFit then throw (.of .memory "")
    return .number (b.negative && b.size != .nan) []
      (inCaseOf kind (form.size p.alternate (p.precision?.getD 6) b.size))

/-- A character, by itself or by its code point. -/
def shownSymbol (v : Value) : Outcome Shown :=
  let unfit : Outcome Shown := .error (.of .type "%c requires int or char")
  match v with
  | .str s =>
    match s.toList with
    | [c] => .ok (.symbol c)
    | _ => unfit
  | v =>
    match Num.ofValue? v with
    | some (.int n) =>
      if n < 0 || 0x110000 ≤ n then .error (.of .overflow "%c arg not in range(0x110000)")
      else .ok (.symbol (Char.ofNat n.toNat))
    | _ => unfit

/-- A value as the letter at a place of the template wants it. -/
def shown (p : Placement) (place : Nat) (kind : Char) (v : Value) : Outcome Shown :=
  match kind with
  | 's' => .ok (.words v.display.toList)
  | 'r' => .ok (.words v.inspect.toList)
  | 'a' => .ok (.words (v.inspect.toList.flatMap asciiChar))
  | 'd' | 'i' | 'u' | 'o' | 'x' | 'X' => do shownWhole p kind (← wholeFor kind v)
  | 'e' | 'E' => shownReal p kind .scientific v
  | 'f' | 'F' => shownReal p kind .fixed v
  | 'g' | 'G' => shownReal p kind .general v
  | 'c' => shownSymbol v
  | _ =>
    let visible := if 31 ≤ kind.toNat && kind.toNat < 127 then kind else '?'
    .error (.of .value s!"unsupported format character '{visible}' (0x{hexOf kind}) at index {place}")

/-! ## Reading a template -/

/-- Where in a template a character stands. -/
inductive Phase where
  | text
  /-- after the percent sign -/
  | opened
  /-- in the name of a field, so many brackets deep; what was read, last character first -/
  | key (depth : Nat) (read : List Char)
  | flags
  | width
  | widthTaken
  | point
  | precision
  | precisionTaken
  /-- after a letter that says how large a number is, which has no effect -/
  | sized
  deriving DecidableEq, Repr

/-- What is known after some characters of a template. -/
structure Filling where
  /-- the object that fields are taken from -/
  names : Option Fields
  /-- values not yet taken -/
  waiting : List Value
  /-- how many characters were read -/
  place : Nat := 0
  phase : Phase := .text
  placement : Placement := {}
  done : String := ""

namespace Filling

/-- The greatest width and precision that can be written down. -/
def mostWidth : Nat := 9223372036854775807

/-- The greatest precision that can be written down or taken. -/
def mostPrecision : Nat := 2147483647

/-- Takes the next value. -/
def take (f : Filling) : Outcome (Value × Filling) :=
  match f.waiting with
  | [] => .error (.of .type "not enough arguments for format string")
  | v :: vs => .ok (v, { f with waiting := vs })

/-- Takes a whole number for a star. -/
def takeWhole (f : Filling) (most : Nat) (kind : String) : Outcome (Int × Filling) := do
  let (v, f) ← f.take
  match Num.ofValue? v with
  | some (.int n) =>
    if (most : Int) < n || n < -(most : Int) - 1 then
      .error (.of .overflow s!"Python int too large to convert to C {kind}")
    else return (n, f)
  | _ => .error (.of .type "* wants int")

/-- Puts characters after what is done, and goes on with text. -/
def put (f : Filling) (cs : List Char) : Filling :=
  { f with phase := .text, done := cs.foldl String.push f.done }

/-- The letter that ends a placeholder. -/
def convert (f : Filling) (c : Char) : Outcome Filling := do
  let (v, f) ← f.take
  let s ← shown f.placement f.place c v
  if !f.placement.widthFits then throw (.of .memory "")
  return f.put (f.placement.fit s)

/-- A letter for the size of a number, or what follows it. -/
def size (f : Filling) (c : Char) : Outcome Filling :=
  if c = 'h' || c = 'l' || c = 'L' then .ok { f with phase := .sized } else f.convert c

/-- The point before a precision, or what follows it. -/
def point (f : Filling) (c : Char) : Outcome Filling :=
  if c = '.' then .ok { f with phase := .point, placement := { f.placement with precision? := some 0 } }
  else f.size c

/-- One more digit of a number that may not pass `most`. -/
def digit (most n : Nat) (c : Char) (name : String) : Outcome Nat :=
  let d := c.toNat - 48
  if (most - d) / 10 < n then .error (.of .value s!"{name} too big") else .ok (n * 10 + d)

/-- The start of a width, or what follows it. -/
def width (f : Filling) (c : Char) : Outcome Filling :=
  if c = '*' then do
    let (n, f) ← f.takeWhole mostWidth "ssize_t"
    return { f with
      phase := .widthTaken
      placement := { f.placement with width? := some n.natAbs, left := f.placement.left || n < 0 } }
  else if c.isDigit then
    .ok { f with phase := .width, placement := { f.placement with width? := some (c.toNat - 48) } }
  else f.point c

/-- A flag, or what follows the flags. -/
def flag (f : Filling) (c : Char) : Outcome Filling :=
  let set (p : Placement) : Outcome Filling := .ok { f with phase := .flags, placement := p }
  match c with
  | '-' => set { f.placement with left := true }
  | '+' => set { f.placement with plus := true }
  | ' ' => set { f.placement with blank := true }
  | '#' => set { f.placement with alternate := true }
  | '0' => set { f.placement with zero := true }
  | c => f.width c

/-- One more digit of a width, or what follows it. -/
def moreWidth (f : Filling) (c : Char) : Outcome Filling := do
  if c.isDigit then
    let n ← digit mostWidth (f.placement.width?.getD 0) c "width"
    return { f with placement := { f.placement with width? := some n } }
  else f.point c

/-- One more digit of a precision, or what follows it. -/
def morePrecision (f : Filling) (c : Char) : Outcome Filling := do
  if c.isDigit then
    let n ← digit mostPrecision (f.placement.precision?.getD 0) c "precision"
    return { f with phase := .precision, placement := { f.placement with precision? := some n } }
  else f.size c

/-- The start of a precision. -/
def precision (f : Filling) (c : Char) : Outcome Filling :=
  if c = '*' then do
    let (n, f) ← f.takeWhole mostPrecision "int"
    return { f with
      phase := .precisionTaken, placement := { f.placement with precision? := some n.toNat } }
  else f.morePrecision c

/-- Takes the field of the object, in the place of all other values. -/
def named (f : Filling) (key : String) : Outcome Filling :=
  match (f.names.getD []).get? key with
  | some v => .ok { f with phase := .flags, waiting := [v] }
  | none => .error (.of .key key)

/-- One more character of the name of a field. -/
def name (f : Filling) (depth : Nat) (read : List Char) (c : Char) : Outcome Filling :=
  if c = ')' && depth = 1 then f.named (.ofList read.reverse)
  else
    let depth := if c = ')' then depth - 1 else if c = '(' then depth + 1 else depth
    .ok { f with phase := .key depth (c :: read) }

/-- The character after a percent sign. -/
def enter (f : Filling) (c : Char) : Outcome Filling :=
  if c = '%' then .ok (f.put ['%'])
  else if c = '(' then
    if f.names.isSome then .ok { f with phase := .key 1 [] }
    else .error (.of .type "format requires a mapping")
  else f.flag c

/-- Reads a character. -/
def step (f : Filling) (c : Char) : Outcome Filling := do
  let f ← match f.phase with
    | .text => pure (if c = '%' then { f with phase := .opened, placement := {} } else f.put [c])
    | .opened => f.enter c
    | .key depth read => f.name depth read c
    | .flags => f.flag c
    | .width => f.moreWidth c
    | .widthTaken => f.point c
    | .point => f.precision c
    | .precision => f.morePrecision c
    | .precisionTaken => f.size c
    | .sized => f.convert c
  return { f with place := f.place + 1 }

/-- The filled template. -/
def result (f : Filling) : Outcome String :=
  match f.phase with
  | .text =>
    if f.names.isNone && !f.waiting.isEmpty then
      .error (.of .type "not all arguments converted during string formatting")
    else .ok f.done
  | .key .. => .error (.of .value "incomplete format key")
  | _ => .error (.of .value "incomplete format")

/-- Before the first character: a single object that is not empty stands for its fields. -/
def start : List Value → Filling
  | [.object (f :: fs)] => { names := some (f :: fs), waiting := [.object (f :: fs)] }
  | vs => { names := none, waiting := vs }

end Filling

/-- Fills a template; without values it stays as it is. -/
def place (template : String) (values : List Value) : Outcome String :=
  if values.isEmpty then .ok template
  else do (← template.toList.foldlM Filling.step (Filling.start values)).result

end LeadFlow.Text
