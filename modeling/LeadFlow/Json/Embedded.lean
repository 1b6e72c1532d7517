import LeadFlow.Json.Document
import LeadFlow.Text.Search

set_option autoImplicit false

/-!
# Json: values inside prose

A reply may be JSON, or hold JSON between fences, or hold an object somewhere in its text.  `embedded`
tries these in turn; the object is the first balanced stretch of braces, where braces inside strings
do not count.  A number that is too long or values nested too deep end the search.
-/

namespace LeadFlow.Json

/-- Where a scan for the end of an object stands. -/
structure Scan where
  depth : Nat
  inString : Bool
  escaped : Bool
  deriving DecidableEq, Repr

/-- The scan after a character that does not end the object. -/
def Scan.after (s : Scan) (c : Char) : Scan :=
  if s.escaped then { s with escaped := false }
  else if c = '\\' then { s with escaped := true }
  else if c = '"' then { s with inString := !s.inString }
  else if s.inString then s
  else if c = '\x7b' then { s with depth := s.depth + 1 }
  else if c = '\x7d' then { s with depth := s.depth - 1 }
  else s

/-- The character ends the object. -/
def Scan.ends (s : Scan) (c : Char) : Bool :=
  !s.escaped && !s.inString && c == '\x7d' && s.depth == 1

/-- The characters up to the end of the object. -/
def balanced? : Scan → List Char → Option (List Char)
  | _, [] => none
  | s, c :: cs => if s.ends c then some [c] else (balanced? (s.after c) cs).map (c :: ·)

/-- The first balanced object, from its opening brace on. -/
def objectIn? (cs : List Char) : Option (List Char) := balanced? ⟨0, false, false⟩ (cs.dropWhile (· != '\x7b'))

/-- The mark of a fence. -/
def fence : List Char := ['\x60', '\x60', '\x60']

/-- The text after the name of the language, if it is there. -/
def dropTag (cs : List Char) : List Char :=
  match Text.after? "json".toList cs, Text.after? "JSON".toList cs with
  | some rest, _ => rest
  | none, some rest => rest
  | none, none => cs

/-- The text between the first fence and the next. -/
def fenced? (cs : List Char) : Option (List Char) := do
  let (_, rest) ← Text.cutAt? fence cs
  let (inner, _) ← Text.cutAt? fence (dropTag rest)
  some (Text.trimChars Text.isBlank inner)

/-- The value of a whole text, if it is one; a broken limit is a fault. -/
def value? (cs : List Char) : Outcome (Option Value) :=
  match read (.ofList cs) with
  | .ok v => .ok (some v)
  | .error r => if r.cause.isForm then .ok none else .error (r.fault (.ofList cs))

/-- The first value among texts. -/
def firstValue? : List (List Char) → Outcome (Option Value)
  | [] => .ok none
  | cs :: rest => do
    match ← value? cs with
    | some v => return some v
    | none => firstValue? rest

/-- The value in a reply. -/
def embedded (s : String) : Outcome Value := do
  let clean := Text.trimChars Text.isBlank s.toList
  if clean.isEmpty then .error (.of .value "Empty response")
  else
    match ← firstValue? (clean :: (fenced? clean).toList ++ (objectIn? clean).toList) with
    | some v => return v
    | none =>
      .error (.of .value s!"Could not extract JSON from response: {String.ofList (clean.take 200)}")

/-- The value in a reply, which should be a text; an empty value of any kind is an empty text. -/
def embeddedIn (reply : Value) : Outcome Value :=
  match reply with
  | .str s => embedded s
  | v => if v.isTruthy then .error (.lacks v.kindName "strip") else embedded ""

end LeadFlow.Json
