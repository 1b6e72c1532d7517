import LeadFlow.Decimal.Numeral
import LeadFlow.Text.Digit
import LeadFlow.Text.Encoding
import LeadFlow.Value.Basic

set_option autoImplicit false

/-!
# Json: reading

A reader for JSON text.  It accepts the words `NaN`, `Infinity` and `-Infinity` as numbers, keeps
whole numbers and doubles apart, and lets the last of several equal keys win.  A refusal says what
was expected and where.  Every step returns the rest of the input, so that the place of a refusal
is the number of characters read before it.  Whole numbers of very many digits and values nested
very deep are refused.
-/

namespace LeadFlow.Json

/-- What holds other values. -/
inductive Nest where
  | list
  | object
  deriving DecidableEq, Repr

/-- The name of the form. -/
def Nest.text : Nest → String
  | list => "array"
  | object => "object"

/-- What is wrong with a text. -/
inductive Cause where
  | value
  | key
  | colon
  | comma
  | unterminated
  | control
  | escape
  | unicodeEscape
  | extra
  /-- a whole number of so many digits -/
  | digits (count : Nat)
  /-- one value too many around another -/
  | depth (nest : Nest)
  deriving DecidableEq, Repr

/-- How many values may lie around another. -/
def mostDepth : Nat := 980

/-- The wording of a cause. -/
def Cause.message : Cause → String
  | value => "Expecting value"
  | key => "Expecting property name enclosed in double quotes"
  | colon => "Expecting ':' delimiter"
  | comma => "Expecting ',' delimiter"
  | unterminated => "Unterminated string starting at"
  | control => "Invalid control character at"
  | escape => "Invalid \\escape"
  | unicodeEscape => "Invalid \\uXXXX escape"
  | extra => "Extra data"
  | digits count => Decimal.tooManyDigits count
  | depth nest =>
    "maximum recursion depth exceeded while decoding a JSON " ++ nest.text ++ " from a unicode string"

/-- The cause breaks the form, and not a limit. -/
def Cause.isForm : Cause → Bool
  | digits _ | depth _ => false
  | _ => true

/-- A refusal inside the reader: the cause and the input from its place on. -/
abbrev Stop := Cause × List Char

/-- A step of the reader: what was read, and the rest. -/
abbrev Step (α : Type) := Except Stop (α × List Char)

/-- Space, tab, line feed and carriage return. -/
def isSpace (c : Char) : Bool := c == ' ' || c == '\t' || c == '\n' || c == '\r'

/-- The input after its leading spaces. -/
def skip (cs : List Char) : List Char := cs.dropWhile isSpace

/-- The rest after a word. -/
def word? : List Char → List Char → Option (List Char)
  | [], cs => some cs
  | w :: ws, c :: cs => if w = c then word? ws cs else none
  | _ :: _, [] => none

/-! ## Numbers -/

/-- Splits a run of ASCII digits off. -/
def digits (cs : List Char) : List Char × List Char := cs.span Char.isDigit

/-- The whole part of a number: a zero, or digits that do not start with one. -/
def wholePart (cs : List Char) : Option (List Char × List Char) :=
  match cs with
  | '0' :: rest => some (['0'], rest)
  | c :: _ => if c.isDigit then some (digits cs) else none
  | [] => none

/-- A fraction, if a point and a digit follow. -/
def fractionPart (cs : List Char) : List Char × List Char :=
  match cs with
  | '.' :: rest =>
    match digits rest with
    | ([], _) => ([], cs)
    | r => r
  | _ => ([], cs)

/-- An exponent, if its mark and a digit follow. -/
def exponentPart (cs : List Char) : Option (Int × List Char) :=
  match cs with
  | c :: rest =>
    if c = 'e' || c = 'E' then
      let (neg, rest) := Decimal.sign rest
      match digits rest with
      | ([], _) => none
      | (ds, rest) =>
        let n := (Decimal.digitRun Decimal.asciiDigit 0 0 ds).1
        some (if neg then -(n : Int) else n, rest)
    else none
  | [] => none

/-- A number: a whole number unless it has a fraction or an exponent. -/
def number (negative : Bool) (cs : List Char) : Except Cause (Value × List Char) :=
  match wholePart cs with
  | none => .error .value
  | some (whole, rest) =>
    let (fraction, rest) := fractionPart rest
    let valueOf (ds : List Char) : Nat := (Decimal.digitRun Decimal.asciiDigit 0 0 ds).1
    match exponentPart rest with
    | some (e, rest) =>
      .ok (.float (Decimal.ofDecimal negative (valueOf (whole ++ fraction)) (e - fraction.length)), rest)
    | none =>
      if !fraction.isEmpty then
        .ok (.float (Decimal.ofDecimal negative (valueOf (whole ++ fraction)) (-(fraction.length : Int))), rest)
      else if Decimal.mostDigits < whole.length then .error (.digits whole.length)
      else .ok (.int (if negative then -(valueOf whole : Int) else valueOf whole), rest)

/-- A number or one of the words for a number. -/
def numeral (cs : List Char) : Step Value :=
  match cs with
  | '-' :: rest =>
    match word? "Infinity".toList rest with
    | some rest => .ok (.float (.ofBits 0xfff0000000000000), rest)
    | none => (number true rest).mapError fun cause => (cause, cs)
  | _ => (number false cs).mapError fun cause => (cause, cs)

/-! ## Strings -/

/-- Four hexadecimal digits. -/
def hexFour? : List Char → Option (Nat × List Char)
  | a :: b :: c :: d :: rest => do
    let a ← Text.hexDigit? a
    let b ← Text.hexDigit? b
    let c ← Text.hexDigit? c
    let d ← Text.hexDigit? d
    some (((a * 16 + b) * 16 + c) * 16 + d, rest)
  | _ => none

/-- The character of an escape by name. -/
def escaped? (c : Char) : Option Char :=
  match c with
  | '"' => some '"'
  | '\\' => some '\\'
  | '/' => some '/'
  | 'b' => some '\x08'
  | 'f' => some '\x0c'
  | 'n' => some '\n'
  | 'r' => some '\r'
  | 't' => some '\t'
  | _ => none

/-- The code point of an escape, after its `u`.  Digits at the end of the input are no escape. -/
def escapedUnit? (cs : List Char) : Option (Nat × List Char) :=
  (hexFour? cs).filter fun r => !r.2.isEmpty

/-- An escape by code point, after its `u`, where `fromMark` starts; two escapes may make one
character. -/
def unicodeEscape (fromMark : List Char) (cs : List Char) : Step Char :=
  match escapedUnit? cs with
  | none => .error (.unicodeEscape, fromMark)
  | some (hi, rest) =>
    let lone := (Text.scalar hi, rest)
    match rest with
    | '\\' :: 'u' :: rest' =>
      .ok (((escapedUnit? rest').bind fun (lo, rest'') =>
        (Text.joined? hi lo).map fun c => (c, rest'')).getD lone)
    | _ => .ok lone

/-- The rest of a string after its opening quote; `start` is the input from that quote on, `acc`
holds the characters read, last first. -/
def stringTail (start : List Char) : Nat → List Char → List Char → Step String
  | 0, _, _ => .error (.unterminated, start)
  | fuel + 1, acc, cs =>
    match cs with
    | [] => .error (.unterminated, start)
    | '"' :: rest => .ok (.ofList acc.reverse, rest)
    | '\\' :: rest =>
      match rest with
      | [] => .error (.unterminated, start)
      | 'u' :: rest' =>
        match unicodeEscape rest rest' with
        | .ok (c, rest'') => stringTail start fuel (c :: acc) rest''
        | .error e => .error e
      | c :: rest' =>
        match escaped? c with
        | some d => stringTail start fuel (d :: acc) rest'
        | none => .error (.escape, cs)
    | c :: rest =>
      if c.toNat < 0x20 then .error (.control, cs) else stringTail start fuel (c :: acc) rest

/-- A string, the input standing at its opening quote. -/
def string (cs : List Char) : Step String := stringTail cs cs.length [] cs.tail

/-! ## Values -/

mutual
/-- A value; the input stands at its first character.  `depth` more values may nest. -/
def value : Nat → Nat → List Char → Step Value
  | 0, _, cs => .error (.value, cs)
  | fuel + 1, depth, cs =>
    match cs with
    | [] => .error (.value, [])
    | '"' :: _ => (string cs).map fun (s, rest) => (.str s, rest)
    | '[' :: rest =>
      match depth, skip rest with
      | 0, _ => .error (.depth .list, cs)
      | _, ']' :: rest => .ok (.list [], rest)
      | depth + 1, rest => (items fuel depth rest).map fun (xs, rest) => (.list xs, rest)
    | '\x7b' :: rest =>
      match depth, skip rest with
      | 0, _ => .error (.depth .object, cs)
      | _, '\x7d' :: rest => .ok (.object [], rest)
      | depth + 1, rest => (members fuel depth [] rest).map fun (fs, rest) => (.object fs, rest)
    | c :: _ =>
      match word? "null".toList cs, word? "true".toList cs, word? "false".toList cs,
          word? "NaN".toList cs, word? "Infinity".toList cs with
      | some rest, _, _, _, _ => .ok (.null, rest)
      | _, some rest, _, _, _ => .ok (.bool true, rest)
      | _, _, some rest, _, _ => .ok (.bool false, rest)
      | _, _, _, some rest, _ => .ok (.float (.ofBits 0x7ff8000000000000), rest)
      | _, _, _, _, some rest => .ok (.float (.ofBits 0x7ff0000000000000), rest)
      | _, _, _, _, _ => if c = '-' || c.isDigit then numeral cs else .error (.value, cs)

/-- The items of a list that is not empty, up to its closing bracket. -/
def items : Nat → Nat → List Char → Step (List Value)
  | 0, _, cs => .error (.value, cs)
  | fuel + 1, depth, cs =>
    match value fuel depth cs with
    | .error e => .error e
    | .ok (v, rest) =>
      match skip rest with
      | ']' :: rest => .ok ([v], rest)
      | ',' :: rest => (items fuel depth (skip rest)).map fun (xs, rest) => (v :: xs, rest)
      | rest => .error (.comma, rest)

/-- The fields of an object that is not empty, up to its closing brace, added to `acc`. -/
def members : Nat → Nat → Fields → List Char → Step Fields
  | 0, _, _, cs => .error (.key, cs)
  | fuel + 1, depth, acc, cs =>
    match cs with
    | '"' :: _ =>
      match string cs with
      | .error e => .error e
      | .ok (k, rest) =>
        match skip rest with
        | ':' :: rest =>
          match value fuel depth (skip rest) with
          | .error e => .error e
          | .ok (v, rest) =>
            match skip rest with
            | '\x7d' :: rest => .ok (acc.put k v, rest)
            | ',' :: rest => members fuel depth (acc.put k v) (skip rest)
            | rest => .error (.comma, rest)
        | rest => .error (.colon, rest)
    | _ => .error (.key, cs)
end

/-- Enough steps for any text of this length. -/
def fuelFor (cs : List Char) : Nat := 2 * cs.length + 2

/-- Why and where a text is no JSON; `offset` counts characters. -/
structure Refusal where
  cause : Cause
  offset : Nat
  deriving DecidableEq, Repr

/-- The value of a whole text, given as characters. -/
def readChars (cs : List Char) : Except Stop Value :=
  match value (fuelFor cs) mostDepth (skip cs) with
  | .error e => .error e
  | .ok (v, rest) =>
    match skip rest with
    | [] => .ok v
    | rest => .error (.extra, rest)

/-- The value of a whole text. -/
def read (s : String) : Except Refusal Value :=
  let cs := s.toList
  match readChars cs with
  | .ok v => .ok v
  | .error (cause, rest) => .error ⟨cause, cs.length - rest.length⟩

/-- The wording of a refusal, with line, column and offset where the form is broken. -/
def Refusal.message (r : Refusal) (s : String) : String :=
  if !r.cause.isForm then r.cause.message else
  let seen := s.toList.take r.offset
  let line := seen.count '\n' + 1
  let column := (seen.reverse.takeWhile (· != '\n')).length + 1
  s!"{r.cause.message}: line {line} column {column} (char {r.offset})"

end LeadFlow.Json
