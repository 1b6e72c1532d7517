import LeadFlow.Calendar.Digits

set_option autoImplicit false

/-!
# Calendar: moments in ISO form

The date is `YYYY-MM-DD` or a week and a day, `YYYY-Www-D`, in both with or without dashes; the day
of a week may be missing and is then Monday.  One character of any kind separates the time, which is
hours, minutes and seconds, with colons or without, the later ones optional, and a fraction of the
last.  An offset follows, `Z` or a sign and a time.  Text of another shape and numbers out of range
are told apart.
-/

namespace LeadFlow.Calendar

/-- Why a text is no moment. -/
inductive IsoRefusal where
  | shape
  /-- an offset of a day or more, in microseconds -/
  | offset (micros : Int)
  | range (r : RangeRefusal)
  deriving DecidableEq, Repr

/-! ## Dates -/

/-- The date of a day of a week; day 1 is Monday, and week 1 is the first with four days of the
year.  The calendar has no weeks of year 0: their days are in no month. -/
def ofWeek? (y week weekday : Nat) : Option Date :=
  let first := daysBeforeYear y
  let before := weekdayOf first
  let isLong := y ≠ 0 && (before == 3 || (before == 2 && isLeap y))
  let monday := first + (if 3 < before then 7 else 0) - before
  if week = 0 || 53 < week || (week == 53 && !isLong) || weekday = 0 || 7 < weekday then none
  else if y = 0 then some ⟨1, 0, 1⟩
  else some (.ofNumber (monday + (week - 1) * 7 + (weekday - 1)))

/-- The day of a week, which may be missing. -/
def isoWeekday (dashed : Bool) (cs : List Char) : Option Nat :=
  match cs with
  | [] => some 1
  | _ => do
    let cs ← if dashed then mark '-' cs else some cs
    match ← fixedDigits 1 0 cs with
    | (d, []) => some d
    | _ => none

/-- Week and day of a year. -/
def isoWeek (y : Nat) (dashed : Bool) (cs : List Char) : Option Date := do
  let (week, cs) ← fixedDigits 2 0 cs
  ofWeek? y week (← isoWeekday dashed cs)

/-- Month and day of a year. -/
def isoMonth (y : Nat) (dashed : Bool) (cs : List Char) : Option Date := do
  let (m, cs) ← fixedDigits 2 0 cs
  let cs ← if dashed then mark '-' cs else some cs
  match ← fixedDigits 2 0 cs with
  | (d, []) => some ⟨y, m, d⟩
  | _ => none

/-- A date that takes all characters. -/
def isoDate (cs : List Char) : Option Date := do
  let (y, cs) ← fixedDigits 4 0 cs
  let dashed := cs.head? == some '-'
  match if dashed then cs.tail else cs with
  | 'W' :: cs => isoWeek y dashed cs
  | cs => isoMonth y dashed cs

/-- How many characters the date takes.  After a week a dash may come before the day or before the
time: two digits behind it are the time.  Without dashes the number of digits decides. -/
def dateLength (cs : List Char) : Nat :=
  let isDash (i : Nat) : Bool := cs[i]? == some '-'
  if cs.length ≤ 7 then 7
  else if isDash 4 then
    if cs[5]? = some 'W' then
      if isDash 8 && !(cs[10]?.any Char.isDigit) then 10 else 8
    else 10
  else if cs[4]? = some 'W' then
    let run := ((cs.drop 7).takeWhile Char.isDigit).length
    if run < 2 then 7 + run else if run % 2 = 1 then 7 else 8
  else 8

/-! ## Times -/

/-- A fraction of a second in microseconds; digits beyond the sixth are dropped.  Says whether
anything is left over. -/
def isoFraction (cs : List Char) : Option (Nat × Bool) := do
  let six := cs.take 6
  if six.isEmpty then none
  else
    let (n, _) ← fixedDigits six.length 0 six
    some (n * Nat.pow 10 (6 - six.length), !(cs.drop 6).all Char.isDigit)

/-- Up to so many numbers of two digits, the first with or without a colon behind it and the others
alike, and a fraction.  Says whether anything is left over, which is one character at most unless it
follows a fraction. -/
def isoNumbers : Nat → Option Bool → List Char → Option (List Nat × Nat × Bool)
  | 0, _, cs => do
    let (f, left) ← isoFraction cs
    some ([], f, left)
  | n + 1, colons?, cs => do
    let (v, rest) ← fixedDigits 2 0 cs
    match rest with
    | [] => some ([v], 0, false)
    | [c] => if c.toNat < 0x80 then some ([v], 0, true) else none
    | c :: more =>
      let colons := colons?.getD (c == ':')
      if c = '.' || c = ',' then
        let (f, left) ← isoFraction more
        some ([v], f, left)
      else if colons && c != ':' then none
      else
        let (vs, f, left) ← isoNumbers n (some colons) (if colons then more else rest)
        some (v :: vs, f, left)

/-- A time of day.  Says whether anything is left over. -/
def isoTime (cs : List Char) : Option (TimeOfDay × Bool) := do
  let (vs, f, left) ← isoNumbers 3 none cs
  some (⟨vs[0]?.getD 0, vs[1]?.getD 0, vs[2]?.getD 0, f⟩, left)

/-- An offset in microseconds, after its sign. -/
def isoOffset (negative : Bool) (cs : List Char) : Option Int :=
  match isoTime cs with
  | some (t, false) => some (if negative then -(t.micros : Int) else t.micros)
  | _ => none

/-- The character starts an offset. -/
def startsOffset (c : Char) : Bool := c == '+' || c == '-' || c == 'Z'

/-- A time and perhaps an offset. -/
def isoClock (cs : List Char) : Option (TimeOfDay × Option Int) := do
  let (t, left) ← isoTime (cs.takeWhile fun c => !startsOffset c)
  match cs.dropWhile fun c => !startsOffset c with
  | [] => if left then none else some (t, none)
  | ['Z'] => some (t, some 0)
  | '+' :: rest => (isoOffset false rest).map fun o => (t, some o)
  | '-' :: rest => (isoOffset true rest).map fun o => (t, some o)
  | _ => none

/-! ## Moments -/

/-- The moment of a date, a time and perhaps an offset. -/
def Moment.assembled (d : Date) (t : TimeOfDay) (offset : Option Int) : Except IsoRefusal Moment :=
  match offset.filter (86400 * 1000000 ≤ ·.natAbs), checkRanges d t with
  | some o, _ => .error (.offset o)
  | none, some r => .error (.range r)
  | none, none => .ok ⟨wallOf d t, offset.map Zone.ofOffset, false⟩

/-- Reads a moment. -/
def Moment.read (s : String) : Except IsoRefusal Moment :=
  let cs := s.toList
  let n := dateLength cs
  match isoDate (cs.take n), cs.drop n with
  | none, _ => .error .shape
  | some d, [] => Moment.assembled d .midnight none
  | some d, _ :: rest =>
    match isoClock rest with
    | none => .error .shape
    | some (t, offset) => Moment.assembled d t offset

end LeadFlow.Calendar
