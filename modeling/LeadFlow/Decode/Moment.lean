import LeadFlow.Calendar.Timestamp
import LeadFlow.Decode.Basic

set_option autoImplicit false

/-!
# Decode: moments

A moment comes as text, a timestamp or a count of seconds, or as a number of seconds since 1970.
Counts beyond twenty thousand million are milliseconds; counts reach from year 0 to 9999, but the
calendar has no year 0.  A timestamp without an offset gives a moment without a zone, a count one in
UTC.
-/

namespace LeadFlow.Decode

open Calendar

/-- The start of 1970. -/
def epoch : Int := wallOf ⟨1970, 1, 1⟩ .midnight

/-- The start of year 0, the first that a count reaches. -/
def countStart : Int := -366 * day

/-- The moment some microseconds after 1970. -/
def sinceEpoch (micros : Int) : Except MomentCause Moment :=
  if Moment.inRange (epoch + micros) then .ok (.ofInstant (epoch + micros))
  else if epoch + micros < countStart then .error .tooEarly
  else if epoch + micros < 0 then .error .yearZero
  else .error .tooLate

/-- Counts beyond this size are milliseconds. -/
def watershed : Nat := 20000000000

/-- The microseconds of a whole count and some microseconds more. -/
def countOf (count micros : Int) : Int :=
  (if watershed < count.natAbs then count * 1000 else count * second) + micros

/-- The microseconds of the fraction `num / den` of a second, a half upwards. -/
def fractionMicros (num den : Nat) : Int :=
  match Decimal.roundAway (Decimal.ofRatio false num den * 1000000) with
  | .ok n => n
  | .error _ => 0

/-- The moment of a count with a fraction.  Milliseconds are turned into seconds first; the fraction
counts from the whole part below. -/
def ofCount (x : Float) : Except MomentCause Moment :=
  match Decimal.ratio? (if Float.ofNat watershed < x.abs then x / 1000 else x) with
  | some (n, d) => sinceEpoch (countOf (n / d) (fractionMicros (n % d).toNat d))
  | none =>
    .error (if x.isNaN then .notANumber else if Decimal.isNegative x then .tooEarly else .tooLate)

/-- A whole count that fills the text: a sign and digits, of less than 64 bits. -/
def wholeCount? (cs : List Char) : Option Int :=
  if cs.contains '_' then none
  else match Decimal.readWhole Decimal.asciiDigit cs with
    | some n => if n.natAbs < Nat.pow 2 63 then some n else none
    | none => none

/-- A count with a decimal point that fills the text; digits stand before the point or behind it. -/
def pointCount? (cs : List Char) : Option Float :=
  match cs.span fun c => c ≠ '.' with
  | (whole, '.' :: places) =>
    if ([[], ['-'], ['+']].contains whole || (wholeCount? whole).isSome) && places.all Char.isDigit then
      (Decimal.readNumeral Decimal.asciiDigit cs).map Decimal.Numeral.toFloat
    else none
  | _ => none

/-- Why a text is no date.  A date takes ten bytes. -/
def dateCause (s : String) : DateCause :=
  if s.utf8ByteSize < 10 then .tooShort
  else match fixedDigits 4 0 s.toList with
    | none => .year
    | some (y, cs) =>
      match mark '-' cs with
      | none => .separator
      | some cs =>
        match fixedDigits 2 0 cs with
        | none => .month
        | some (m, cs) =>
          match mark '-' cs with
          | none => .separator
          | some cs =>
            match fixedDigits 2 0 cs with
            | none => .dayOfMonth
            | some (d, _) =>
              if m = 0 || 12 < m then .monthRange
              else if d = 0 || daysInMonth y m < d then .dayRange
              else .extra

/-- A text that is no timestamp, read as a count or refused.  A whole count out of reach says so; any
other text is refused as a date. -/
def momentOfCountText (s : String) : Checked Moment :=
  let whole? := (wholeCount? s.toList).map fun n => sinceEpoch (countOf n 0)
  match whole? <|> (pointCount? s.toList).map ofCount with
  | some (.ok m) => .ok m
  | some (.error .yearZero) => refuse (.noMoment .yearZero) (.str s)
  | some (.error cause) =>
    refuse (.momentText (if whole?.isSome then .count cause else dateCause s)) (.str s)
  | none => refuse (.momentText (dateCause s)) (.str s)

/-- A moment, or the refusal of what was read. -/
def momentOr (v : Value) : Except MomentCause Moment → Checked Moment
  | .ok m => .ok m
  | .error cause => refuse (.noMoment cause) v

/-- A moment.  A whole number beyond the largest double is no count. -/
def moment : Decoder Moment
  | .str s =>
    match Timestamp.read? s.toList with
    | some parts => momentOr (.str s) (parts.moment?.elim (.error .yearZero) .ok)
    | none => momentOfCountText s
  | .int n =>
    if (Decimal.ofInt? n).isSome then momentOr (.int n) (sinceEpoch (countOf n 0))
    else refuse .moment (.int n)
  | .float x => momentOr (.float x) (ofCount x)
  | v => refuse .moment v

end LeadFlow.Decode
