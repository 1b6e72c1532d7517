import LeadFlow.Json.Embedded
import LeadFlow.Proofs.Text.Occurrence
import Mathlib

set_option autoImplicit false

/-!
# Json: the extent of a token

What the reader takes for a word, a numeral, a string or spaces is a text of its own: read with less
behind it, it is the same.  A scan that only counts braces and minds strings goes over such a text without
noticing it: braces inside of a string do not count (`Neutral`).  Backticks stand inside of strings only,
and a string ends before its line does.

Main statements: `numeral_takes`, `string_takes`, `skip_takes`.
-/

namespace LeadFlow.Json

/-! ## Scans -/

/-- A scan goes over the characters from one state to another, and the object does not end there. -/
def Scan.Passes (s t : Scan) (cs : List Char) : Prop :=
  ∀ rest, balanced? s (cs ++ rest) = (balanced? t rest).map (cs ++ ·)

namespace Scan.Passes

variable {s t u : Scan} {cs ds : List Char}

theorem nil (s : Scan) : s.Passes s [] := by
  intro rest
  simp

theorem append (hcs : s.Passes t cs) (hds : t.Passes u ds) : s.Passes u (cs ++ ds) := by
  intro rest
  rw [List.append_assoc, hcs, hds, Option.map_map]
  congr 1
  funext x
  simp

/-- One step of a scan. -/
theorem cons {c : Char} (hends : s.ends c = false) (hcs : (s.after c).Passes t cs) :
    s.Passes t (c :: cs) := by
  intro rest
  rw [List.cons_append, balanced?, hends, hcs]
  simp [Option.map_map, Function.comp_def]

end Scan.Passes

/-- Whether a backtick stands in the text with no quote behind it, after one that may have stood before;
nothing if a line ends behind such a backtick. -/
def openTick? : Bool → List Char → Option Bool
  | tick, [] => some tick
  | tick, c :: cs =>
    if c = '\n' ∧ tick = true then none
    else openTick? (c == '\x60' || (tick && c != '"')) cs

theorem openTick?_append (tick : Bool) (cs ds : List Char) :
    openTick? tick (cs ++ ds) = (openTick? tick cs).bind fun t => openTick? t ds := by
  induction cs generalizing tick with
  | nil => rfl
  | cons c cs ih =>
    rw [List.cons_append, openTick?, openTick?]
    split
    · rfl
    · exact ih _

theorem openTick?_of_line {cs : List Char} (h : '\n' ∉ cs) (tick : Bool) : (openTick? tick cs).isSome = true := by
  induction cs generalizing tick with
  | nil => rfl
  | cons c cs ih =>
    obtain ⟨hc, hcs⟩ := List.ne_and_not_mem_of_not_mem_cons h
    rw [openTick?, if_neg fun hline => hc hline.1.symm]
    exact ih hcs _

/-- A scan inside of an object goes over the characters and stands as before, and a quote stands between
a backtick and the end of its line. -/
structure Neutral (cs : List Char) : Prop where
  passes : ∀ depth, Scan.Passes ⟨depth + 1, false, false⟩ ⟨depth + 1, false, false⟩ cs
  ticks : openTick? false cs = some false

/-- A scan inside of a string goes over the characters of a line and stays there. -/
structure Quiet (cs : List Char) : Prop where
  passes : ∀ depth, Scan.Passes ⟨depth, true, false⟩ ⟨depth, true, false⟩ cs
  line : '\n' ∉ cs

theorem neutral_nil : Neutral [] := ⟨fun _ => .nil _, rfl⟩

theorem quiet_nil : Quiet [] := ⟨fun _ => .nil _, List.not_mem_nil⟩

theorem Neutral.append {cs ds : List Char} (hcs : Neutral cs) (hds : Neutral ds) : Neutral (cs ++ ds) where
  passes := fun depth => (hcs.passes depth).append (hds.passes depth)
  ticks := by rw [openTick?_append, hcs.ticks, Option.bind_some, hds.ticks]

theorem Quiet.append {cs ds : List Char} (hcs : Quiet cs) (hds : Quiet ds) : Quiet (cs ++ ds) where
  passes := fun depth => (hcs.passes depth).append (hds.passes depth)
  line := by
    rw [List.mem_append, not_or]
    exact ⟨hcs.line, hds.line⟩

/-- A character that is no brace and no backtick and starts neither a string nor an escape. -/
theorem Neutral.cons {c : Char} {cs : List Char} (hquote : c ≠ '"') (hescape : c ≠ '\\')
    (hopen : c ≠ '\x7b') (hclose : c ≠ '\x7d') (htick : c ≠ '\x60') (h : Neutral cs) :
    Neutral (c :: cs) where
  passes := by
    intro depth
    refine .cons (by simp [Scan.ends, hclose]) ?_
    simpa [Scan.after, hquote, hescape, hopen, hclose] using h.passes depth
  ticks := by
    rw [openTick?, if_neg (by simp), beq_eq_false_iff_ne.mpr htick]
    exact h.ticks

/-- A character that neither ends the string nor starts an escape. -/
theorem Quiet.cons {c : Char} {cs : List Char} (hquote : c ≠ '"') (hescape : c ≠ '\\') (hline : c ≠ '\n')
    (h : Quiet cs) : Quiet (c :: cs) where
  passes := by
    intro depth
    refine .cons (by simp [Scan.ends]) ?_
    simpa [Scan.after, hquote, hescape] using h.passes depth
  line := List.not_mem_cons_of_ne_of_not_mem hline.symm h.line

/-- A character behind a backslash. -/
theorem Quiet.escape {c : Char} {cs : List Char} (hline : c ≠ '\n') (h : Quiet cs) :
    Quiet ('\\' :: c :: cs) where
  passes := by
    intro depth
    exact .cons rfl (.cons rfl (h.passes depth))
  line := List.not_mem_cons_of_ne_of_not_mem (by decide)
    (List.not_mem_cons_of_ne_of_not_mem hline.symm h.line)

/-- A string, its quotes included. -/
theorem Quiet.quoted {cs : List Char} (h : Quiet cs) : Neutral ('"' :: (cs ++ ['"'])) where
  passes := by
    intro depth
    exact .cons rfl ((h.passes _).append (.cons rfl (.nil _)))
  ticks := by
    obtain ⟨tick, htick⟩ := Option.isSome_iff_exists.mp (openTick?_of_line h.line false)
    rw [openTick?, if_neg (by simp), openTick?_append]
    simp [htick, openTick?]

/-- An object inside of another, its braces included. -/
theorem Neutral.braced {cs : List Char} (h : Neutral cs) : Neutral ('\x7b' :: (cs ++ ['\x7d'])) where
  passes := by
    intro depth
    exact .cons rfl ((h.passes _).append (.cons (by simp [Scan.ends]) (.nil _)))
  ticks := by
    rw [openTick?, if_neg (by simp), openTick?_append]
    simp [h.ticks, openTick?]

/-- The scan for the end of an object stops at its own closing brace. -/
theorem Neutral.balanced?_braced {cs : List Char} (h : Neutral cs) (rest : List Char) :
    balanced? ⟨0, false, false⟩ ('\x7b' :: (cs ++ '\x7d' :: rest)) = some ('\x7b' :: (cs ++ ['\x7d'])) := by
  have hopen : Scan.Passes ⟨0, false, false⟩ ⟨1, false, false⟩ ['\x7b'] := .cons rfl (.nil _)
  have hscan := hopen.append (h.passes 0) ('\x7d' :: rest)
  simpa [balanced?, Scan.ends] using hscan

/-! ## Plain characters -/

/-- A character as in words and numerals: no blank, quote, backslash, brace or backtick. -/
def isPlain (c : Char) : Bool :=
  c != '"' && c != '\\' && c != '\x7b' && c != '\x7d' && c != '\x60' && !Text.isBlank c

/-- The text starts and ends with a character that is no blank. -/
structure IsSolid (cs : List Char) : Prop where
  first : ∃ c rest, cs = c :: rest ∧ Text.isBlank c = false
  last : ∃ front c, cs = front ++ [c] ∧ Text.isBlank c = false

theorem isPlain_iff {c : Char} : isPlain c = true ↔
    c ≠ '"' ∧ c ≠ '\\' ∧ c ≠ '\x7b' ∧ c ≠ '\x7d' ∧ c ≠ '\x60' ∧ Text.isBlank c = false := by
  simp [isPlain, and_assoc]

theorem neutral_of_plain {cs : List Char} (h : cs.all isPlain = true) : Neutral cs := by
  induction cs with
  | nil => exact neutral_nil
  | cons c cs ih =>
    rw [List.all_cons, Bool.and_eq_true] at h
    obtain ⟨hquote, hescape, hopen, hclose, htick, -⟩ := isPlain_iff.mp h.1
    exact .cons hquote hescape hopen hclose htick (ih h.2)

theorem isSolid_of_plain {cs : List Char} (hne : cs ≠ []) (h : cs.all isPlain = true) : IsSolid cs := by
  rw [List.all_eq_true] at h
  constructor
  · obtain ⟨c, rest, rfl⟩ := List.exists_cons_of_ne_nil hne
    exact ⟨c, rest, rfl, (isPlain_iff.mp (h c (by simp))).2.2.2.2.2⟩
  · obtain rfl | ⟨front, c, rfl⟩ := List.eq_nil_or_concat cs
    · exact absurd rfl hne
    · exact ⟨front, c, by simp, (isPlain_iff.mp (h c (by simp))).2.2.2.2.2⟩

theorem isPlain_of_isDigit {c : Char} (h : c.isDigit = true) : isPlain c = true := by
  have hcode : 48 ≤ c.toNat ∧ c.toNat ≤ 57 := by
    simpa [Char.isDigit, UInt32.le_iff_toNat_le] using h
  refine isPlain_iff.mpr ⟨?_, ?_, ?_, ?_, ?_, ?_⟩
  · rintro rfl; simp at hcode
  · rintro rfl; simp at hcode
  · rintro rfl; simp at hcode
  · rintro rfl; simp at hcode
  · rintro rfl; simp at hcode
  · simp only [Text.isBlank, Text.isSpace, Bool.or_eq_false_iff, Bool.and_eq_false_iff,
      decide_eq_false_iff_not, beq_eq_false_iff_ne]
    omega

/-! ## Words -/

theorem word?_eq_after? (w cs : List Char) : word? w cs = Text.after? w cs := by
  induction w generalizing cs with
  | nil => rfl
  | cons c w ih =>
    cases cs with
    | nil => rfl
    | cons d cs => rw [word?, Text.after?, ih]

theorem word?_eq_some_iff {w cs rest : List Char} : word? w cs = some rest ↔ cs = w ++ rest := by
  rw [word?_eq_after?, Text.after?_eq_some_iff]

/-- A word that does not stand at the front of a text does not stand at the front of less of it. -/
theorem word?_eq_none_of_less {w cs x : List Char} (h : word? w cs = none) (hx : x <+: cs) :
    word? w x = none := by
  obtain ⟨z, rfl⟩ := hx
  cases hw : word? w x with
  | none => rfl
  | some rest =>
    rw [word?_eq_some_iff.mp hw, List.append_assoc, word?_eq_some_iff.mpr rfl] at h
    cases h

/-! ## Numerals -/

/-- The number starts with `body`, which is plain, and would with less behind it. -/
structure TakesPlain {α : Type} (step : List Char → α) (result : List Char → α)
    (body rest : List Char) : Prop where
  plain : body.all isPlain = true
  less : ∀ x, x <+: rest → step (body ++ x) = result x

theorem digits_takes {cs ds rest : List Char} (h : digits cs = (ds, rest)) :
    cs = ds ++ rest ∧ TakesPlain digits (ds, ·) ds rest := by
  rw [digits, List.span_eq_takeWhile_dropWhile] at h
  obtain ⟨rfl, rfl⟩ := Prod.mk.inj h
  have hall : ∀ c ∈ cs.takeWhile Char.isDigit, c.isDigit = true := fun c hc => List.mem_takeWhile_imp hc
  refine ⟨by simp, List.all_eq_true.mpr fun c hc => isPlain_of_isDigit (hall c hc), ?_⟩
  intro x hx
  rw [digits, List.span_eq_takeWhile_dropWhile, List.takeWhile_append_of_pos hall,
    List.dropWhile_append_of_pos hall]
  cases x with
  | nil => simp
  | cons c x =>
    obtain ⟨z, hz⟩ := hx
    have hhead := List.head?_dropWhile_not Char.isDigit cs
    rw [← hz] at hhead
    simp [show c.isDigit = false by simpa using hhead]

/-- No digits stand at the front of less of a text. -/
theorem digits_eq_nil_of_less {cs rest x : List Char} (h : digits cs = ([], rest)) (hx : x <+: cs) :
    digits x = ([], x) := by
  obtain ⟨rfl, hless⟩ := digits_takes h
  exact hless.less x hx

theorem sign_takes {cs rest : List Char} {negative : Bool} (h : Decimal.sign cs = (negative, rest)) :
    ∃ body, cs = body ++ rest ∧ TakesPlain Decimal.sign (negative, ·) body rest := by
  unfold Decimal.sign at h
  split at h
  · obtain ⟨rfl, rfl⟩ := Prod.mk.inj h
    exact ⟨['-'], rfl, by decide, fun x _ => rfl⟩
  · obtain ⟨rfl, rfl⟩ := Prod.mk.inj h
    exact ⟨['+'], rfl, by decide, fun x _ => rfl⟩
  · rename_i hminus hplus
    obtain ⟨rfl, rfl⟩ := Prod.mk.inj h
    refine ⟨[], rfl, rfl, ?_⟩
    rintro x ⟨z, rfl⟩
    rw [List.nil_append]
    unfold Decimal.sign
    split
    · exact absurd rfl (hminus _)
    · exact absurd rfl (hplus _)
    · rfl

theorem wholePart_takes {cs ds rest : List Char} (h : wholePart cs = some (ds, rest)) :
    ds ≠ [] ∧ cs = ds ++ rest ∧ TakesPlain wholePart (fun x => some (ds, x)) ds rest := by
  unfold wholePart at h
  split at h
  · obtain ⟨rfl, rfl⟩ := Prod.mk.inj (Option.some.inj h)
    exact ⟨by simp, rfl, by decide, fun x _ => rfl⟩
  · rename_i c cs hzero
    split at h
    · rename_i hdigit
      obtain ⟨hcs, hless⟩ := digits_takes (Option.some.inj h)
      cases ds with
      | nil =>
        obtain rfl : c :: cs = rest := hcs
        simp [digits, List.span_eq_takeWhile_dropWhile, hdigit] at h
      | cons d ds =>
        obtain ⟨rfl, rfl⟩ := List.cons.inj hcs
        refine ⟨by simp, rfl, hless.plain, ?_⟩
        intro x hx
        unfold wholePart
        split
        · rename_i heq
          exact absurd (List.cons.inj heq).1 hzero
        · rename_i heq
          obtain ⟨rfl, rfl⟩ := List.cons.inj heq
          rw [if_pos hdigit]
          exact congrArg some (hless.less x hx)
        · rename_i heq
          cases heq
    · cases h
  · cases h

theorem fractionPart_takes {cs ds rest : List Char} (h : fractionPart cs = (ds, rest)) :
    ∃ body, cs = body ++ rest ∧ TakesPlain fractionPart (ds, ·) body rest := by
  unfold fractionPart at h
  split at h
  · rename_i behind
    split at h
    · rename_i rest' hdigits
      obtain ⟨rfl, rfl⟩ := Prod.mk.inj h
      refine ⟨[], rfl, rfl, ?_⟩
      rintro x hx
      rw [List.nil_append]
      obtain rfl | ⟨y, rfl, hy⟩ := List.prefix_cons_iff.mp hx
      · rfl
      · simp [fractionPart, digits_eq_nil_of_less hdigits hy]
    · rename_i hsome
      obtain ⟨rfl, hless⟩ := digits_takes h
      refine ⟨'.' :: ds, rfl, ?_, ?_⟩
      · rw [List.all_cons, hless.plain]
        decide
      · intro x hx
        have hdigits := hless.less x hx
        cases ds with
        | nil => exact absurd h (hsome _)
        | cons d ds => simp only [List.cons_append, fractionPart] at hdigits ⊢; rw [hdigits]
  · rename_i hpoint
    obtain ⟨rfl, rfl⟩ := Prod.mk.inj h
    refine ⟨[], rfl, rfl, ?_⟩
    rintro x ⟨z, rfl⟩
    rw [List.nil_append]
    unfold fractionPart
    split
    · exact absurd rfl (hpoint _)
    · rfl

/-- An exponent whose mark, sign and digits are known. -/
theorem exponentPart_of_mark {c : Char} {cs behind ds rest : List Char} {negative : Bool}
    (hmark : (decide (c = 'e') || decide (c = 'E')) = true)
    (hsign : Decimal.sign cs = (negative, behind)) (hdigits : digits behind = (ds, rest)) :
    exponentPart (c :: cs) =
      if ds = [] then none
      else
        let n := (Decimal.digitRun Decimal.asciiDigit 0 0 ds).1
        some (if negative then -(n : Int) else n, rest) := by
  simp only [exponentPart, hsign, hdigits]
  rw [if_pos hmark]
  cases ds <;> simp

theorem exponentPart_takes {cs rest : List Char} {e : Int} (h : exponentPart cs = some (e, rest)) :
    ∃ body, cs = body ++ rest ∧ TakesPlain exponentPart (fun x => some (e, x)) body rest := by
  cases cs with
  | nil => cases h
  | cons c cs =>
    cases hmark : (decide (c = 'e') || decide (c = 'E')) with
    | false => simp [exponentPart, hmark] at h
    | true =>
      obtain ⟨⟨negative, behind⟩, hsign⟩ : ∃ y, Decimal.sign cs = y := ⟨_, rfl⟩
      obtain ⟨⟨ds, rest'⟩, hdigits⟩ : ∃ y, digits behind = y := ⟨_, rfl⟩
      rw [exponentPart_of_mark hmark hsign hdigits] at h
      split at h
      · cases h
      · rename_i hds
        obtain ⟨rfl, rfl⟩ := Prod.mk.inj (Option.some.inj h)
        obtain ⟨front, rfl, hfront⟩ := sign_takes hsign
        obtain ⟨rfl, hless⟩ := digits_takes hdigits
        refine ⟨c :: (front ++ ds), by simp, ?_, ?_⟩
        · rw [List.all_cons, List.all_append, hfront.plain, hless.plain]
          obtain rfl | rfl : c = 'e' ∨ c = 'E' := by simpa using hmark
          · decide
          · decide
        · intro x hx
          have hsign' := hfront.less (ds ++ x) ((List.prefix_append_right_inj ds).mpr hx)
          rw [List.cons_append, List.append_assoc,
            exponentPart_of_mark hmark hsign' (hless.less x hx), if_neg hds]

theorem sign_append {cs : List Char} (hne : cs ≠ []) (z : List Char) :
    Decimal.sign (cs ++ z) = ((Decimal.sign cs).1, (Decimal.sign cs).2 ++ z) := by
  obtain ⟨c, cs, rfl⟩ := List.exists_cons_of_ne_nil hne
  by_cases hminus : c = '-'
  · subst hminus; rfl
  by_cases hplus : c = '+'
  · subst hplus; rfl
  simp [Decimal.sign, hminus, hplus]

/-- No exponent stands at the front of less of a text. -/
theorem exponentPart_eq_none_of_less {cs x : List Char} (h : exponentPart cs = none) (hx : x <+: cs) :
    exponentPart x = none := by
  cases x with
  | nil => rfl
  | cons c x =>
    obtain ⟨z, rfl⟩ := hx
    cases hmark : (decide (c = 'e') || decide (c = 'E')) with
    | false => simp [exponentPart, hmark]
    | true =>
      cases x with
      | nil => exact exponentPart_of_mark hmark rfl rfl
      | cons d x =>
        obtain ⟨⟨negative, behind⟩, hsign⟩ : ∃ y, Decimal.sign (d :: x) = y := ⟨_, rfl⟩
        obtain ⟨⟨ds, rest⟩, hdigits⟩ : ∃ y, digits (behind ++ z) = y := ⟨_, rfl⟩
        have hmore := sign_append (List.cons_ne_nil d x) z
        rw [hsign] at hmore
        rw [List.cons_append, exponentPart_of_mark hmark hmore hdigits] at h
        split at h
        · rename_i hds
          subst hds
          rw [exponentPart_of_mark hmark hsign
            (digits_eq_nil_of_less hdigits (List.prefix_append behind z)), if_pos rfl]
        · cases h

/-- A number takes plain characters, and no others with less behind it. -/
theorem number_takes {negative : Bool} {cs rest : List Char} {v : Value}
    (h : number negative cs = .ok (v, rest)) :
    ∃ body, body ≠ [] ∧ cs = body ++ rest ∧
      TakesPlain (number negative) (fun x => .ok (v, x)) body rest := by
  cases hwhole : wholePart cs with
  | none => simp [number, hwhole] at h
  | some y =>
    obtain ⟨whole, rest₁⟩ := y
    obtain ⟨⟨fraction, rest₂⟩, hfraction⟩ : ∃ y, fractionPart rest₁ = y := ⟨_, rfl⟩
    obtain ⟨hne, rfl, hless₁⟩ := wholePart_takes hwhole
    obtain ⟨middle, rfl, hless₂⟩ := fractionPart_takes hfraction
    simp only [number, hwhole, hfraction] at h
    cases hexponent : exponentPart rest₂ with
    | some y =>
      obtain ⟨e, rest₃⟩ := y
      obtain ⟨last, rfl, hless₃⟩ := exponentPart_takes hexponent
      simp only [hexponent] at h
      obtain ⟨rfl, rfl⟩ := Prod.mk.inj (Except.ok.inj h)
      refine ⟨whole ++ (middle ++ last), by simp [hne], by simp, ?_, ?_⟩
      · rw [List.all_append, List.all_append, hless₁.plain, hless₂.plain, hless₃.plain]
        rfl
      · intro x hx
        have hlast : last ++ x <+: last ++ rest₃ := (List.prefix_append_right_inj last).mpr hx
        have hmiddle := (List.prefix_append_right_inj middle).mpr hlast
        simp only [number, List.append_assoc, hless₁.less _ hmiddle, hless₂.less _ hlast,
          hless₃.less x hx]
    | none =>
      simp only [hexponent] at h
      have hrest : rest = rest₂ := by
        split at h
        · exact (Prod.mk.inj (Except.ok.inj h)).2.symm
        · split at h
          · cases h
          · exact (Prod.mk.inj (Except.ok.inj h)).2.symm
      subst hrest
      refine ⟨whole ++ middle, by simp [hne], by simp, ?_, ?_⟩
      · rw [List.all_append, hless₁.plain, hless₂.plain]
        rfl
      · intro x hx
        have hmiddle := (List.prefix_append_right_inj middle).mpr hx
        simp only [number, List.append_assoc, hless₁.less _ hmiddle, hless₂.less x hx,
          exponentPart_eq_none_of_less hexponent hx]
        split at h
        · rename_i hfull
          rw [if_pos hfull, (Prod.mk.inj (Except.ok.inj h)).1]
        · rename_i hempty
          rw [if_neg hempty]
          split at h
          · cases h
          · rename_i hlong
            rw [if_neg hlong, (Prod.mk.inj (Except.ok.inj h)).1]

/-- So does a numeral. -/
theorem numeral_takes {cs rest : List Char} {v : Value} (h : numeral cs = .ok (v, rest)) :
    ∃ body, body ≠ [] ∧ cs = body ++ rest ∧ TakesPlain numeral (fun x => .ok (v, x)) body rest := by
  unfold numeral at h
  split at h
  · rename_i behind
    cases hword : word? "Infinity".toList behind with
    | some rest' =>
      simp only [hword] at h
      obtain ⟨rfl, rfl⟩ := Prod.mk.inj (Except.ok.inj h)
      obtain rfl := word?_eq_some_iff.mp hword
      refine ⟨'-' :: "Infinity".toList, by simp, rfl, by decide, ?_⟩
      intro x hx
      simp only [numeral, List.cons_append, word?_eq_some_iff.mpr rfl]
    | none =>
      simp only [hword] at h
      cases hnumber : number true behind with
      | error cause => simp [hnumber, Except.mapError] at h
      | ok y =>
        rw [hnumber] at h
        obtain rfl : y = (v, rest) := Except.ok.inj h
        obtain ⟨body, -, rfl, hless⟩ := number_takes hnumber
        refine ⟨'-' :: body, by simp, rfl, ?_, ?_⟩
        · rw [List.all_cons, hless.plain]
          decide
        · intro x hx
          have hword' := word?_eq_none_of_less hword ((List.prefix_append_right_inj body).mpr hx)
          simp only [numeral, List.cons_append, hword', hless.less x hx]
          rfl
  · rename_i hminus
    cases hnumber : number false cs with
    | error cause => simp [hnumber, Except.mapError] at h
    | ok y =>
      rw [hnumber] at h
      obtain rfl : y = (v, rest) := Except.ok.inj h
      obtain ⟨body, hne, rfl, hless⟩ := number_takes hnumber
      refine ⟨body, hne, rfl, hless.plain, ?_⟩
      intro x hx
      obtain ⟨c, body, rfl⟩ := List.exists_cons_of_ne_nil hne
      unfold numeral
      split
      · rename_i heq
        obtain ⟨rfl, -⟩ := List.cons.inj heq
        exact absurd rfl (hminus _)
      · rw [hless.less x hx]
        rfl

theorem number_ne_object {negative : Bool} {cs rest : List Char} {v : Value}
    (h : number negative cs = .ok (v, rest)) (fs : Fields) : v ≠ .object fs := by
  rintro rfl
  unfold number at h
  split at h
  · cases h
  · dsimp only at h
    split at h
    · cases h
    · split at h
      · cases h
      · split at h
        · cases h
        · cases h

theorem numeral_ne_object {cs rest : List Char} {v : Value} (h : numeral cs = .ok (v, rest))
    (fs : Fields) : v ≠ .object fs := by
  rintro rfl
  unfold numeral at h
  split at h
  · split at h
    · cases h
    · rename_i behind _ _
      cases hnumber : number true behind with
      | error cause => simp [hnumber, Except.mapError] at h
      | ok y =>
        rw [hnumber] at h
        obtain rfl := Except.ok.inj h
        exact number_ne_object hnumber fs rfl
  · cases hnumber : number false cs with
    | error cause => simp [hnumber, Except.mapError] at h
    | ok y =>
      rw [hnumber] at h
      obtain rfl := Except.ok.inj h
      exact number_ne_object hnumber fs rfl

/-! ## Strings -/

theorem prefix_behind {x rest : List Char} (front : List Char) (c : Char) (hx : x <+: rest) :
    front ++ c :: x <+: front ++ c :: rest :=
  (List.prefix_append_right_inj front).mpr ((List.prefix_cons_inj c).mpr hx)

theorem ne_of_hexDigit? {c : Char} {n : Nat} (h : Text.hexDigit? c = some n) :
    c ≠ '"' ∧ c ≠ '\\' ∧ c ≠ '\n' := by
  refine ⟨?_, ?_, ?_⟩
  · rintro rfl
    exact absurd h (by simp [show Text.hexDigit? '"' = none by decide])
  · rintro rfl
    exact absurd h (by simp [show Text.hexDigit? '\\' = none by decide])
  · rintro rfl
    exact absurd h (by simp [show Text.hexDigit? '\n' = none by decide])

theorem hexFour?_takes {cs rest : List Char} {n : Nat} (h : hexFour? cs = some (n, rest)) :
    ∃ body, cs = body ++ rest ∧ Quiet body ∧ ∀ x, hexFour? (body ++ x) = some (n, x) := by
  unfold hexFour? at h
  split at h
  · rename_i a b c d behind
    simp only [Option.bind_eq_bind, Option.bind_eq_some_iff, Option.some.injEq, Prod.mk.injEq] at h
    obtain ⟨k₁, h₁, k₂, h₂, k₃, h₃, k₄, h₄, rfl, rfl⟩ := h
    refine ⟨[a, b, c, d], rfl, ?_, ?_⟩
    · obtain ⟨ha, ha', ha''⟩ := ne_of_hexDigit? h₁
      obtain ⟨hb, hb', hb''⟩ := ne_of_hexDigit? h₂
      obtain ⟨hc, hc', hc''⟩ := ne_of_hexDigit? h₃
      obtain ⟨hd, hd', hd''⟩ := ne_of_hexDigit? h₄
      exact .cons ha ha' ha'' (.cons hb hb' hb'' (.cons hc hc' hc'' (.cons hd hd' hd'' quiet_nil)))
    · intro x
      simp [hexFour?, h₁, h₂, h₃, h₄]
  · cases h

theorem escapedUnit?_takes {cs rest : List Char} {n : Nat} (h : escapedUnit? cs = some (n, rest)) :
    rest ≠ [] ∧ ∃ body, cs = body ++ rest ∧ Quiet body ∧
      ∀ x, x ≠ [] → escapedUnit? (body ++ x) = some (n, x) := by
  unfold escapedUnit? at h
  obtain ⟨hfour, hrest⟩ := Option.filter_eq_some_iff.mp h
  obtain ⟨body, rfl, hbody, hless⟩ := hexFour?_takes hfour
  refine ⟨by simpa using hrest, body, rfl, hbody, ?_⟩
  intro x hx
  simp [escapedUnit?, hless x, hx]

/-- The character of two escapes one behind the other, the first of them read. -/
def pairWith? (hi : Nat) (cs : List Char) : Option (Char × List Char) :=
  (escapedUnit? cs).bind fun (lo, rest) => (Text.joined? hi lo).map fun c => (c, rest)

theorem pairWith?_eq_some_iff {hi : Nat} {cs rest : List Char} {c : Char} :
    pairWith? hi cs = some (c, rest) ↔
      ∃ lo, escapedUnit? cs = some (lo, rest) ∧ Text.joined? hi lo = some c := by
  simp [pairWith?, Option.bind_eq_some_iff]

/-- Two escapes that make no character make none with less behind. -/
theorem pairWith?_eq_none_of_less {hi : Nat} {cs x : List Char} (h : pairWith? hi cs = none)
    (hx : x <+: cs) : pairWith? hi x = none := by
  cases hpair : pairWith? hi x with
  | none => rfl
  | some y =>
    obtain ⟨c, rest⟩ := y
    obtain ⟨lo, hunit, hjoined⟩ := pairWith?_eq_some_iff.mp hpair
    obtain ⟨hne, body, rfl, -, hless⟩ := escapedUnit?_takes hunit
    obtain ⟨z, rfl⟩ := hx
    have hmore := hless (rest ++ z) (by simp [hne])
    rw [List.append_assoc, pairWith?_eq_some_iff.mpr ⟨lo, hmore, hjoined⟩] at h
    cases h

/-- What an escape comes to, the first four digits read. -/
def escapeFrom (hi : Nat) : List Char → Char × List Char
  | '\\' :: 'u' :: behind => (pairWith? hi behind).getD (Text.scalar hi, '\\' :: 'u' :: behind)
  | rest => (Text.scalar hi, rest)

/-- Without another escape behind it. -/
theorem escapeFrom_alone {hi : Nat} {rest : List Char} (h : ¬ ∃ behind, rest = '\\' :: 'u' :: behind) :
    escapeFrom hi rest = (Text.scalar hi, rest) := by
  unfold escapeFrom
  split
  · exact absurd ⟨_, rfl⟩ h
  · rfl

theorem unicodeEscape_eq {mark cs rest : List Char} {hi : Nat} (h : escapedUnit? cs = some (hi, rest)) :
    unicodeEscape mark cs = .ok (escapeFrom hi rest) := by
  simp only [unicodeEscape, h]
  by_cases hmore : ∃ behind, rest = '\\' :: 'u' :: behind
  · obtain ⟨behind, rfl⟩ := hmore
    rfl
  · rw [escapeFrom_alone hmore]
    split
    · exact absurd ⟨_, rfl⟩ hmore
    · rfl

theorem escapeFrom_takes {hi : Nat} {cs rest : List Char} {c : Char} (h : escapeFrom hi cs = (c, rest)) :
    ∃ body, cs = body ++ rest ∧ Quiet body ∧
      ∀ x, x ≠ [] → x <+: rest → escapeFrom hi (body ++ x) = (c, x) := by
  unfold escapeFrom at h
  split at h
  · rename_i behind
    cases hpair : pairWith? hi behind with
    | some y =>
      rw [hpair] at h
      obtain rfl : y = (c, rest) := h
      obtain ⟨lo, hunit, hjoined⟩ := pairWith?_eq_some_iff.mp hpair
      obtain ⟨-, second, rfl, hsecond, hless⟩ := escapedUnit?_takes hunit
      refine ⟨'\\' :: 'u' :: second, rfl, .escape (by decide) hsecond, ?_⟩
      intro x hne hx
      simp [escapeFrom, pairWith?_eq_some_iff.mpr ⟨lo, hless x hne, hjoined⟩]
    | none =>
      rw [hpair] at h
      obtain ⟨rfl, rfl⟩ := Prod.mk.inj h
      refine ⟨[], rfl, quiet_nil, ?_⟩
      intro x hne hx
      rw [List.nil_append]
      unfold escapeFrom
      split
      · rename_i behind'
        obtain ⟨z, hz⟩ := hx
        rw [pairWith?_eq_none_of_less hpair ⟨z, by simpa using hz⟩]
        rfl
      · rfl
  · rename_i hmark
    obtain ⟨rfl, rfl⟩ := Prod.mk.inj h
    refine ⟨[], rfl, quiet_nil, ?_⟩
    rintro x hne ⟨z, rfl⟩
    rw [List.nil_append]
    unfold escapeFrom
    split
    · exact absurd rfl (hmark _)
    · rfl

/-- An escape takes its digits, and those of a second one if the two make a character. -/
theorem unicodeEscape_takes {mark cs rest : List Char} {c : Char}
    (h : unicodeEscape mark cs = .ok (c, rest)) :
    ∃ body, cs = body ++ rest ∧ Quiet body ∧
      ∀ mark' x, x ≠ [] → x <+: rest → unicodeEscape mark' (body ++ x) = .ok (c, x) := by
  cases hunit : escapedUnit? cs with
  | none => simp [unicodeEscape, hunit] at h
  | some y =>
    obtain ⟨hi, behind⟩ := y
    obtain ⟨-, first, rfl, hfirst, hless⟩ := escapedUnit?_takes hunit
    rw [unicodeEscape_eq hunit] at h
    obtain ⟨second, rfl, hsecond, hless'⟩ := escapeFrom_takes (Except.ok.inj h)
    refine ⟨first ++ second, by simp, hfirst.append hsecond, ?_⟩
    intro mark' x hne hx
    rw [List.append_assoc, unicodeEscape_eq (hless (second ++ x) (by simp [hne])), hless' x hne hx]

/-- A string goes on to its closing quote.  Every step takes a character, so that as many as there are
before the quote, and one for the quote, are enough to read it again. -/
def TailTakes (acc cs rest : List Char) (s : String) : Prop :=
  ∃ inner, cs = inner ++ '"' :: rest ∧ Quiet inner ∧
    ∀ start fuel x, inner.length < fuel → x <+: rest →
      stringTail start fuel acc (inner ++ '"' :: x) = .ok (s, x)

theorem tailTakes_closed (acc rest : List Char) :
    TailTakes acc ('"' :: rest) rest (.ofList acc.reverse) := by
  refine ⟨[], rfl, quiet_nil, fun start fuel x hfuel _ => ?_⟩
  obtain ⟨fuel, rfl⟩ := Nat.exists_eq_add_one_of_ne_zero (Nat.ne_of_gt hfuel)
  rfl

/-- What a step takes stands in front. -/
theorem TailTakes.step {acc acc' taken cs rest : List Char} {s : String} (h : TailTakes acc' cs rest s)
    (htaken : taken ≠ []) (hquiet : ∀ inner, Quiet inner → Quiet (taken ++ inner))
    (hread : ∀ start fuel y, y ≠ [] → y <+: cs →
      stringTail start (fuel + 1) acc (taken ++ y) = stringTail start fuel acc' y) :
    TailTakes acc (taken ++ cs) rest s := by
  obtain ⟨inner, rfl, hinner, hless⟩ := h
  refine ⟨taken ++ inner, by simp, hquiet inner hinner, fun start fuel x hfuel hx => ?_⟩
  obtain ⟨fuel, rfl⟩ := Nat.exists_eq_add_one_of_ne_zero (Nat.ne_zero_of_lt hfuel)
  have hpos := List.length_pos_of_ne_nil htaken
  rw [List.length_append] at hfuel
  rw [List.append_assoc, hread start fuel _ (by simp) (prefix_behind inner '"' hx)]
  exact hless start fuel x (by omega) hx

theorem stringTail_takes {start acc cs rest : List Char} {fuel : Nat} {s : String}
    (h : stringTail start fuel acc cs = .ok (s, rest)) : TailTakes acc cs rest s := by
  induction fuel generalizing acc cs with
  | zero => cases h
  | succ fuel ih =>
    unfold stringTail at h
    split at h
    · cases h
    · obtain ⟨rfl, rfl⟩ := Prod.mk.inj (Except.ok.inj h)
      exact tailTakes_closed acc _
    · split at h
      · cases h
      · split at h
        · rename_i c behind hescape
          obtain ⟨digits, rfl, hdigits, hless⟩ := unicodeEscape_takes hescape
          refine (ih h).step (List.cons_ne_nil '\\' ('u' :: digits))
            (fun inner hinner => .escape (by decide) (hdigits.append hinner)) fun start fuel y hne hy => ?_
          simp only [List.cons_append, stringTail, hless _ y hne hy]
        · cases h
      · rename_i c behind hu
        split at h
        · rename_i d hescaped
          have hline : c ≠ '\n' := by
            rintro rfl
            cases hescaped
          refine (ih h).step (List.cons_ne_nil '\\' [c]) (fun inner hinner => .escape hline hinner)
            fun start fuel y _ _ => ?_
          simp only [List.cons_append, List.nil_append, stringTail, hescaped]
        · cases h
    · split at h
      · cases h
      · rename_i c behind hquote hslash hcontrol
        have hline : c ≠ '\n' := by
          rintro rfl
          exact hcontrol (by decide)
        refine (ih h).step (List.cons_ne_nil c [])
          (fun inner hinner => .cons (by simpa using hquote) (by simpa using hslash) hline hinner)
          fun start fuel y _ _ => ?_
        simp only [List.cons_append, List.nil_append, stringTail, if_neg hcontrol]

/-- A string is written between quotes. -/
theorem string_takes {cs rest : List Char} {s : String} (h : string ('"' :: cs) = .ok (s, rest)) :
    ∃ inner, cs = inner ++ '"' :: rest ∧ Quiet inner ∧
      ∀ x, x <+: rest → string ('"' :: (inner ++ '"' :: x)) = .ok (s, x) := by
  obtain ⟨inner, rfl, hinner, hless⟩ := stringTail_takes h
  refine ⟨inner, rfl, hinner, ?_⟩
  intro x hx
  exact hless _ _ x (by simp only [List.length_cons, List.length_append]; omega) hx

/-! ## Spaces -/

/-- The spaces in front are taken, and no more with less behind them. -/
theorem skip_takes (cs : List Char) :
    ∃ spaces rest, skip cs = rest ∧ cs = spaces ++ rest ∧ spaces.all isSpace = true ∧
      ∀ x, x <+: rest → skip (spaces ++ x) = x := by
  have hall : ∀ c ∈ cs.takeWhile isSpace, isSpace c = true := fun _ hc => List.mem_takeWhile_imp hc
  refine ⟨cs.takeWhile isSpace, cs.dropWhile isSpace, rfl, by simp, List.all_eq_true.mpr hall, ?_⟩
  intro x hx
  rw [skip, List.dropWhile_append_of_pos hall]
  cases x with
  | nil => rfl
  | cons c x =>
    obtain ⟨z, hz⟩ := hx
    have hhead := List.head?_dropWhile_not isSpace cs
    rw [← hz] at hhead
    simp [show isSpace c = false by simpa using hhead]

theorem eq_of_isSpace {c : Char} (h : isSpace c = true) : c = ' ' ∨ c = '\t' ∨ c = '\n' ∨ c = '\r' := by
  simpa [isSpace, or_assoc] using h

theorem neutral_of_spaces {cs : List Char} (h : cs.all isSpace = true) : Neutral cs := by
  induction cs with
  | nil => exact neutral_nil
  | cons c cs ih =>
    rw [List.all_cons, Bool.and_eq_true] at h
    rcases eq_of_isSpace h.1 with rfl | rfl | rfl | rfl
    · exact .cons (by decide) (by decide) (by decide) (by decide) (by decide) (ih h.2)
    · exact .cons (by decide) (by decide) (by decide) (by decide) (by decide) (ih h.2)
    · exact .cons (by decide) (by decide) (by decide) (by decide) (by decide) (ih h.2)
    · exact .cons (by decide) (by decide) (by decide) (by decide) (by decide) (ih h.2)

end LeadFlow.Json
