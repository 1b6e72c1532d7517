import LeadFlow.Calendar.Digits

set_option autoImplicit false

/-!
# Calendar: timestamps

A stricter form than that of ISO: `YYYY-MM-DD`, alone or followed by `T`, a blank or an underscore
and a time `HH:MM`, `HH:MM:SS` or with a fraction, and an offset `Z`, `±HH:MM` or `±HHMM`.  The form
has a year 0, which the calendar has not.
-/

namespace LeadFlow.Calendar.Timestamp

/-- Year, month and day. -/
def dashedDate (cs : List Char) : Option (Date × List Char) := do
  let (y, cs) ← fixedDigits 4 0 cs
  let cs ← mark '-' cs
  let (m, cs) ← fixedDigits 2 0 cs
  let cs ← mark '-' cs
  let (d, cs) ← fixedDigits 2 0 cs
  some (⟨y, m, d⟩, cs)

/-- A fraction of a second, in microseconds; digits beyond the sixth are dropped. -/
def fraction (cs : List Char) : Option (Nat × List Char) :=
  match cs with
  | c :: rest =>
    if c = '.' || c = ',' then
      let (ds, rest) := rest.span Char.isDigit
      if ds.isEmpty then none
      else
        let six := (ds ++ List.replicate 6 '0').take 6
        (fixedDigits 6 0 six).map fun (n, _) => (n, rest)
    else some (0, cs)
  | [] => some (0, [])

/-- Hours, minutes, seconds and a fraction; the seconds may be missing. -/
def time (cs : List Char) : Option (TimeOfDay × List Char) := do
  let (h, cs) ← fixedDigits 2 0 cs
  let cs ← mark ':' cs
  let (m, cs) ← fixedDigits 2 0 cs
  match mark ':' cs with
  | none => some (⟨h, m, 0, 0⟩, cs)
  | some rest =>
    let (s, rest) ← fixedDigits 2 0 rest
    let (f, rest) ← fraction rest
    some (⟨h, m, s, f⟩, rest)

/-- Hours and minutes of an offset, the colon optional, in microseconds. -/
def offset (cs : List Char) : Option Int := do
  let (h, cs) ← fixedDigits 2 0 cs
  let (m, cs) ← fixedDigits 2 0 ((mark ':' cs).getD cs)
  if 23 < h || 59 < m || !cs.isEmpty then none else some (TimeOfDay.micros ⟨h, m, 0, 0⟩)

/-- A zone, or none at the end of the text.  The minus sign may be that of mathematics. -/
def zone (cs : List Char) : Option (Option Zone) :=
  match cs with
  | [] => some none
  | ['Z'] | ['z'] => some (some .utc)
  | '+' :: rest => (offset rest).map fun o => some (.ofOffset o)
  | '-' :: rest | '−' :: rest => (offset rest).map fun o => some (.ofOffset (-o))
  | _ => none

/-- The character may stand between date and time. -/
def isSeparator (c : Char) : Bool := c == 'T' || c == 't' || c == ' ' || c == '_'

/-- What a timestamp says. -/
structure Parts where
  date : Date
  time : TimeOfDay
  zone : Option Zone

/-- The moment, unless it is of year 0. -/
def Parts.moment? (p : Parts) : Option Moment :=
  if p.date.year = 0 then none else some ⟨wallOf p.date p.time, p.zone, false⟩

/-- Reads a timestamp. -/
def read? (cs : List Char) : Option Parts := do
  let (d, rest) ← dashedDate cs
  let (t, z) ←
    match rest with
    | [] => some (TimeOfDay.midnight, none)
    | sep :: rest => do
      if !isSeparator sep then none
      else
        let (t, rest) ← time rest
        some (t, ← zone rest)
  if (checkWithinYear d t).isSome then none else some ⟨d, t, z⟩

end LeadFlow.Calendar.Timestamp
