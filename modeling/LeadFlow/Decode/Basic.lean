import LeadFlow.Decode.Numeral
import LeadFlow.Fault

set_option autoImplicit false

/-!
# Decode: reading typed data from values

A decoder turns a value into typed data or lists every issue it finds, in the order of the fields.
Decoding is lenient: numbers may come as text, whole numbers as doubles without a fraction, truth
values as words.  A fault in a rule of its own ends decoding at once.
-/

namespace LeadFlow.Decode

/-- The result of decoding: data, or issues, or a fault. -/
inductive Checked (α : Type) where
  | ok (a : α)
  | issues (is : List Issue)
  | fault (f : Fault)

namespace Checked

variable {α β : Type}

/-- Applies a function inside. -/
def map (f : α → β) : Checked α → Checked β
  | ok a => ok (f a)
  | issues is => issues is
  | fault e => fault e

/-- Applies a decoded function; issues of both sides are kept, a fault ends all. -/
def seq (f : Checked (α → β)) (x : Checked α) : Checked β :=
  match f, x with
  | fault e, _ => fault e
  | _, fault e => fault e
  | ok g, ok a => ok (g a)
  | ok _, issues is => issues is
  | issues is, ok _ => issues is
  | issues is, issues js => issues (is ++ js)

/-- Goes on with the data, if there is any. -/
def andThen (x : Checked α) (f : α → Checked β) : Checked β :=
  match x with
  | ok a => f a
  | issues is => issues is
  | fault e => fault e

/-- Issues seen from one step further out. -/
def under (p : Place) : Checked α → Checked α
  | ok a => ok a
  | issues is => issues (is.map (Issue.under p))
  | fault e => fault e

instance : Applicative Checked where
  pure := ok
  map := map
  seq f x := seq f (x ())

/-- The data, or a fault that lists the issues. -/
def toOutcome (x : Checked α) (describe : List Issue → Fault) : Outcome α :=
  match x with
  | ok a => .ok a
  | issues is => .error (describe is)
  | fault e => .error e

end Checked

/-- A decoder. -/
abbrev Decoder (α : Type) := Value → Checked α

/-- A single issue at this place. -/
def refuse {α : Type} (cause : Cause) (v : Value) : Checked α := .issues [⟨[], cause, v⟩]

/-- A list of issues as a fault. -/
def malformed (is : List Issue) : Fault := .of .malformed (issuesText is)

/-! ## Scalars -/

/-- Any value. -/
def any : Decoder Value := .ok

/-- A text. -/
def text : Decoder String
  | .str s => .ok s
  | v => refuse .text v

/-- Nothing for null, else as the inner decoder. -/
def optional {α : Type} (d : Decoder α) : Decoder (Option α)
  | .null => .ok none
  | v => (d v).map some

/-- A whole number. -/
def whole : Decoder Int
  | .int n => .ok n
  | .bool b => .ok (if b then 1 else 0)
  | .float x =>
    match Decimal.truncate x with
    | .error _ => refuse .finite (.float x)
    | .ok n =>
      if !Decimal.isWhole x then refuse .wholeFraction (.float x)
      else if n ≤ -9223372036854775808 || 9223372036854775807 < n then refuse .wholeSize (.float x)
      else .ok n
  | .str s =>
    match wholeOfText s with
    | .ok n => .ok n
    | .error cause => refuse cause (.str s)
  | v => refuse .whole v

/-- A whole number between two bounds. -/
def wholeBetween (low high : Int) : Decoder Int := fun v =>
  (whole v).andThen fun n =>
    if n < low then refuse (.atLeast low) v else if high < n then refuse (.atMost high) v else .ok n

/-- A double. -/
def number : Decoder Float
  | .int n =>
    match Decimal.ofInt? n with
    | some x => .ok x
    | none => refuse .number (.int n)
  | .bool b => .ok (if b then 1 else 0)
  | .float x => .ok x
  | .str s =>
    match numberOfText? s with
    | some x => .ok x
    | none => refuse .numberText (.str s)
  | v => refuse .number v

/-- A number that stays whole if it is: values keep their kind, texts are read as whole numbers
first. -/
def wholeOrNumber : Decoder Num
  | .int n => .ok (.int n)
  | .float x => .ok (.float x)
  | v =>
    match whole v, number v with
    | .ok n, _ => .ok (.int n)
    | _, .ok x => .ok (.float x)
    | .issues is, .issues js =>
      .issues (is.map (Issue.under (.key "int")) ++ js.map (Issue.under (.key "float")))
    | .fault e, _ => .fault e
    | _, .fault e => .fault e

/-- Words for false. -/
def falseWords : List String := ["0", "off", "f", "false", "n", "no"]

/-- Words for true. -/
def trueWords : List String := ["1", "on", "t", "true", "y", "yes"]

/-- A truth value: the values themselves, zero and one, and some words in any case. -/
def truth : Decoder Bool
  | .bool b => .ok b
  | .int n =>
    if n = 0 then .ok false else if n = 1 then .ok true
    else if n < -9223372036854775808 || 9223372036854775807 < n then refuse .truth (.int n)
    else refuse .truthText (.int n)
  | .float x =>
    if x == 0 then .ok false else if x == 1 then .ok true
    else match whole (.float x) with
      | .ok _ => refuse .truthText (.float x)
      | _ => refuse .truth (.float x)
  | .str s =>
    let w := s.map Char.toLower
    if falseWords.contains w then .ok false
    else if trueWords.contains w then .ok true
    else refuse .truthText (.str s)
  | v => refuse .truth v

/-- One of a list of words, each standing for a member. -/
def choice {α : Type} (members : List (String × α)) : Decoder α
  | v =>
    match v.text?.bind fun s => List.lookup s members with
    | some a => .ok a
    | none => refuse (.choice (members.map (·.1))) v

/-! ## Lists and objects -/

/-- Every item by the inner decoder, places counted from `i`. -/
def itemsFrom {α : Type} (d : Decoder α) : Nat → List Value → Checked (List α)
  | _, [] => .ok []
  | i, v :: vs => (((d v).under (.index i)).map List.cons).seq (itemsFrom d (i + 1) vs)

/-- A list. -/
def list {α : Type} (d : Decoder α) : Decoder (List α)
  | .list vs => itemsFrom d 0 vs
  | v => refuse .list v

/-- A free-form object. -/
def object : Decoder Fields
  | .object fs => .ok fs
  | v => refuse .object v

/-- The fields of an object that is to be decoded further; the cause says what was expected. -/
def record (cause : Cause) : Decoder Fields
  | .object fs => .ok fs
  | v => refuse cause v

/-- A field that has to be there, under its own name or a second one; issues name the first. -/
def required {α : Type} (fs : Fields) (name second : String) (d : Decoder α) : Checked α :=
  match fs.first? [name, second] with
  | some (_, v) => (d v).under (.key name)
  | none => (refuse .missing (.object fs)).under (.key name)

/-- A field with a default, under its own name or a second one; issues name the first. -/
def defaulted {α : Type} (fs : Fields) (name second : String) (default : α) (d : Decoder α) : Checked α :=
  match fs.first? [name, second] with
  | some (_, v) => (d v).under (.key name)
  | none => .ok default

/-- A field with a default under any of several names; issues name the one that was found. -/
def anyNamed {α : Type} (fs : Fields) (names : List String) (default : α) (d : Decoder α) : Checked α :=
  match fs.first? names with
  | some (k, v) => (d v).under (.key k)
  | none => .ok default

/-- The fields left over when each listed field has taken the first of its names. -/
def leftOver (fs : Fields) (taken : List (String × String)) : Fields :=
  fs.without (taken.filterMap fun (name, second) => (fs.first? [name, second]).map (·.1))

end LeadFlow.Decode
