import LeadFlow.Text.CamelCase

set_option autoImplicit false

/-!
# Text: which keys are camel-case spellings

The camel-case spelling of a key in lower case starts every word with a capital, but the first, and joins
the words at single underscores.  Words start behind digits and underscores, so no spelling has a capital
behind a letter or at the front.  `isRespelled` says of a key whether it is the spelling of its lower form.

Main statement: `camelChars_lower_eq_iff`.
-/

namespace LeadFlow.Text

/-! ## Characters of a key -/

/-- A character of a key: an ASCII letter or digit, or an underscore. -/
def isKeyChar (c : Char) : Bool := c.isAlphanum || c == '_'

/-- What can be checked for each ASCII character. -/
theorem forall_ascii {P : Char → Prop} (h : ∀ n < 128, P (Char.ofNat n)) :
    ∀ c : Char, c.toNat < 128 → P c := by
  intro c hc
  have hchar := h c.toNat hc
  rwa [Char.ofNat_toNat] at hchar

theorem ascii_of_isKeyChar {c : Char} (h : isKeyChar c = true) : c.toNat < 128 := by
  delta isKeyChar Char.isAlphanum Char.isAlpha Char.isUpper Char.isLower Char.isDigit at h
  simp only [Bool.or_eq_true, Bool.and_eq_true, decide_eq_true_eq, beq_iff_eq, ge_iff_le,
    UInt32.le_iff_toNat_le] at h
  change (((65 ≤ c.toNat ∧ c.toNat ≤ 90 ∨ 97 ≤ c.toNat ∧ c.toNat ≤ 122) ∨
    48 ≤ c.toNat ∧ c.toNat ≤ 57) ∨ c = '_') at h
  obtain h | rfl := h
  · omega
  · decide

/-- How letter case acts on a character. -/
structure HasCase (c : Char) : Prop where
  lower_lower : c.toLower.toLower = c.toLower
  upper_lower : c.toLower.toUpper = c.toUpper
  lower_upper : c.toUpper.toLower = c.toLower
  ascii_lower : c.toLower.toNat < 128
  ascii_upper : c.toUpper.toNat < 128
  isAlpha_lower : c.toLower.isAlpha = c.isAlpha
  isUpper_lower : c.toLower.isUpper = false
  isAlphanum_lower : c.toLower.isAlphanum = c.isAlphanum
  isAlphanum_upper : c.toUpper.isAlphanum = c.isAlphanum
  isKeyChar_lower : isKeyChar c.toLower = isKeyChar c
  /-- where a word starts, a letter or digit is a capital or a digit -/
  starts_upper : (c.toUpper.isDigit || c.toUpper.isUpper) = c.isAlphanum
  lower_eq_iff : c.toLower = c ↔ c.isUpper = false
  /-- within a word, small letters stay -/
  kept_lower : c.toLower = c ↔ (!c.isAlpha || c.isUpper == false) = true
  kept_upper : c.toUpper = c ↔ (!c.isAlpha || c.isUpper == true) = true
  /-- at the front, a capital that starts a word is lowered again -/
  kept_front : (if c.toUpper.isUpper then c.toUpper.toLower else c.toUpper) = c ↔ c.isUpper = false
  lower_eq_underscore : c.toLower = '_' → c = '_'
  upper_eq_underscore : c.toUpper = '_' → c = '_'

theorem hasCase_ascii : ∀ c : Char, c.toNat < 128 → HasCase c := by
  refine forall_ascii fun n hn => ?_
  constructor <;> (revert n hn; decide +kernel)

section Ascii

variable {c : Char} (hc : c.toNat < 128)

include hc

theorem lowerChar_ascii : lowerChar c = [c.toLower] := by rw [lowerChar, if_pos hc]

theorem titleChar_ascii : titleChar c = [c.toUpper] := by rw [titleChar, if_pos hc]

theorem isCased_ascii : isCased c = c.isAlpha := by rw [isCased, if_pos hc]

theorem lowerAmong_ascii (before rest : List Char) : lowerAmong before c rest = [c.toLower] := by
  rw [lowerAmong, if_neg (by omega), lowerChar_ascii hc]

end Ascii

theorem lowerFrom_ascii {cs : List Char} (hcs : ∀ c ∈ cs, c.toNat < 128) (before : List Char) :
    lowerFrom before cs = cs.map Char.toLower := by
  induction cs generalizing before with
  | nil => rfl
  | cons c cs ih =>
    obtain ⟨hc, hrest⟩ := List.forall_mem_cons.mp hcs
    rw [lowerFrom, lowerAmong_ascii hc, ih hrest]
    rfl

/-! ## Words -/

/-- The title form of ASCII characters: a letter is a capital unless a letter stands right before it. -/
def titled (letterBefore : Bool) : List Char → List Char
  | [] => []
  | c :: cs => (if letterBefore then c.toLower else c.toUpper) :: titled c.isAlpha cs

theorem titleFrom_ascii {cs : List Char} (hcs : ∀ c ∈ cs, c.toNat < 128) {before : List Char}
    {letterBefore : Bool} (hbefore : before.head?.any isCased = letterBefore) :
    titleFrom before cs = titled letterBefore cs := by
  induction cs generalizing before letterBefore with
  | nil => rfl
  | cons c cs ih =>
    obtain ⟨hc, hrest⟩ := List.forall_mem_cons.mp hcs
    rw [titleFrom, titled, hbefore, lowerAmong_ascii hc, titleChar_ascii hc,
      ih hrest (show (c :: before).head?.any isCased = c.isAlpha from isCased_ascii hc)]
    cases letterBefore <;> rfl

theorem length_titled (letterBefore : Bool) (cs : List Char) :
    (titled letterBefore cs).length = cs.length := by
  induction cs generalizing letterBefore with
  | nil => rfl
  | cons c cs ih => rw [titled, List.length_cons, ih, List.length_cons]

theorem length_joinWords_le (before : Bool) (cs : List Char) : (joinWords before cs).length ≤ cs.length := by
  induction cs generalizing before with
  | nil => exact Nat.le_refl _
  | cons c cs ih =>
    rw [joinWords]
    split
    · exact Nat.le_trans (ih false) (by simp)
    · exact Nat.succ_le_succ (ih _)

/-- Behind a character, capitals stand where words start and nowhere else, and no two words are joined by
a single underscore. -/
def respellsFrom (before : Char) : List Char → Bool
  | [] => true
  | c :: cs =>
    (!c.isAlpha || c.isUpper == !before.isAlpha) &&
      !(c == '_' && before.isAlphanum && (cs.head?.map Char.isAlphanum).getD false) && respellsFrom c cs

/-- The key starts with a small letter or a digit, any underscores aside, and goes on with capitals where
words start and nowhere else. -/
def isRespelled (cs : List Char) : Bool :=
  match cs.dropWhile (· == '_') with
  | [] => true
  | c :: cs => !c.isUpper && respellsFrom c cs

/-- A word starts behind an underscore just if a letter or digit does. -/
theorem starts_titled {cs : List Char} (hcs : ∀ c ∈ cs, isKeyChar c = true) :
    (((titled false (cs.map Char.toLower)).head?.map fun d => d.isDigit || d.isUpper).getD false) =
      (cs.head?.map Char.isAlphanum).getD false := by
  cases cs with
  | nil => rfl
  | cons c cs =>
    have hcase := hasCase_ascii c (ascii_of_isKeyChar (hcs c List.mem_cons_self))
    have hstarts := hcase.starts_upper
    rw [← hcase.upper_lower] at hstarts
    simpa [titled] using hstarts

/-- Behind a character, a key is the spelling of its lower form. -/
theorem joinWords_titled_eq_iff {cs : List Char} (hcs : ∀ c ∈ cs, isKeyChar c = true) (before : Char) :
    joinWords before.isAlphanum (titled before.isAlpha (cs.map Char.toLower)) = cs ↔
      respellsFrom before cs = true := by
  induction cs generalizing before with
  | nil => simp [titled, joinWords, respellsFrom]
  | cons c cs ih =>
    obtain ⟨hc, hrest⟩ := List.forall_mem_cons.mp hcs
    have hcase := hasCase_ascii c (ascii_of_isKeyChar hc)
    have hstep := ih hrest c
    rw [List.map_cons, titled, hcase.lower_lower, hcase.upper_lower, hcase.isAlpha_lower]
    by_cases hscore : c = '_'
    · subst hscore
      have hhead : (if before.isAlpha = true then Char.toLower '_' else Char.toUpper '_') = '_' := by
        split <;> decide
      rw [hhead, joinWords, show Char.isAlpha '_' = false from rfl, starts_titled hrest]
      cases hdrop : before.isAlphanum && (cs.head?.map Char.isAlphanum).getD false with
      | true =>
        -- an underscore that is dropped makes the spelling shorter than the key
        have hshort := length_joinWords_le false (titled false (cs.map Char.toLower))
        rw [length_titled, List.length_map] at hshort
        have hne : joinWords false (titled false (cs.map Char.toLower)) ≠ '_' :: cs := by
          intro heq
          rw [heq, List.length_cons] at hshort
          omega
        simp [hdrop, hne, respellsFrom]
      | false => simpa [hdrop, respellsFrom] using hstep
    · have hkept : (if before.isAlpha = true then c.toLower else c.toUpper) = c ↔
          (!c.isAlpha || c.isUpper == !before.isAlpha) = true := by
        split
        · rename_i hbefore
          rw [hbefore]
          exact hcase.kept_lower
        · rename_i hbefore
          rw [Bool.not_eq_true] at hbefore
          rw [hbefore]
          exact hcase.kept_upper
      have hword : ((if before.isAlpha = true then c.toLower else c.toUpper) == '_') = false ∧
          (if before.isAlpha = true then c.toLower else c.toUpper).isAlphanum = c.isAlphanum := by
        split
        · exact ⟨by simpa using fun h => hscore (hcase.lower_eq_underscore h), hcase.isAlphanum_lower⟩
        · exact ⟨by simpa using fun h => hscore (hcase.upper_eq_underscore h), hcase.isAlphanum_upper⟩
      have hnot : (c == '_') = false := by simpa using hscore
      rw [joinWords, hword.1, hword.2]
      simp only [Bool.false_and, Bool.false_eq_true, if_false, List.cons.injEq, hkept, hstep, respellsFrom,
        hnot, Bool.not_false, Bool.and_true, Bool.and_eq_true]

/-! ## Keys -/

theorem lowerHead_joinWords_titled_eq_iff {cs : List Char} (hcs : ∀ c ∈ cs, isKeyChar c = true) :
    lowerHead (joinWords false (titled false (cs.map Char.toLower))) = cs ↔ isRespelled cs = true := by
  induction cs with
  | nil => simp [titled, joinWords, lowerHead, isRespelled]
  | cons c cs ih =>
    obtain ⟨hc, hrest⟩ := List.forall_mem_cons.mp hcs
    have hcase := hasCase_ascii c (ascii_of_isKeyChar hc)
    rw [List.map_cons, titled, hcase.upper_lower, hcase.isAlpha_lower, joinWords]
    by_cases hscore : c = '_'
    · subst hscore
      simpa [lowerHead, isRespelled] using ih hrest
    · have hupper : c.toUpper ≠ '_' := fun h => hscore (hcase.upper_eq_underscore h)
      have hkeeps : (c :: cs).dropWhile (· == '_') = c :: cs := by simp [hscore]
      rw [if_neg (by simp), if_neg Bool.false_ne_true, lowerHead.eq_2 _ _ hupper, hcase.isAlphanum_upper,
        isRespelled, hkeeps, List.cons.injEq, hcase.kept_front, joinWords_titled_eq_iff hrest]
      simp only [Bool.and_eq_true, Bool.not_eq_true']

/-- Letters and digits without capitals, and without a letter behind a digit, are spelled so already. -/
theorem respellsFrom_of_alphanum {cs : List Char} {before : Char} (hbefore : before.isAlphanum = true)
    (hcs : ∀ c ∈ cs, c.isAlphanum = true ∧ c.isUpper = false)
    (hdigits : digitBeforeLower (before :: cs) = false) : respellsFrom before cs = true := by
  induction cs generalizing before with
  | nil => rfl
  | cons c cs ih =>
    obtain ⟨⟨hc, hsmall⟩, hrest⟩ := List.forall_mem_cons.mp hcs
    rw [digitBeforeLower, Bool.or_eq_false_iff] at hdigits
    have hscore : (c == '_') = false := by
      rw [beq_eq_false_iff_ne]
      rintro rfl
      exact absurd hc (by decide)
    have hletter : (!c.isAlpha || c.isUpper == !before.isAlpha) = true := by
      cases hlower : c.isLower with
      | false =>
        have hplain : c.isAlpha = false := Bool.or_eq_false_iff.mpr ⟨hsmall, hlower⟩
        rw [hplain]
        rfl
      | true =>
        have hword : before.isAlpha = true := by
          have hdigit : before.isDigit = false := by simpa [hlower] using hdigits.1
          simpa [Char.isAlphanum, hdigit] using hbefore
        simp [hsmall, hword]
    rw [respellsFrom, hletter, hscore, ih hc hrest hdigits.2]
    rfl

theorem isRespelled_of_isCamel {cs : List Char} (hcs : ∀ c ∈ cs, isKeyChar c = true ∧ c.isUpper = false)
    (h : isCamel cs = true) : isRespelled cs = true := by
  have hline : (cs.getLast? == some '\n') = false := by
    rw [beq_eq_false_iff_ne]
    intro hlast
    exact absurd (hcs _ (List.mem_of_getLast? hlast)).1 (by decide)
  rw [isCamel, hline] at h
  simp only [Bool.false_eq_true, if_false, Bool.and_eq_true, Bool.not_eq_true'] at h
  obtain ⟨⟨hfirst, hall⟩, hdigits⟩ := h
  cases cs with
  | nil => rfl
  | cons c cs =>
    have hword : ∀ d ∈ c :: cs, d.isAlphanum = true ∧ d.isUpper = false :=
      fun d hd => ⟨List.all_eq_true.mp hall d hd, (hcs d hd).2⟩
    obtain ⟨⟨hc, hsmall⟩, hrest⟩ := List.forall_mem_cons.mp hword
    have hscore : c ≠ '_' := by
      rintro rfl
      exact absurd hc (by decide)
    have hspelled := respellsFrom_of_alphanum hc hrest hdigits
    simp [isRespelled, hscore, hsmall, hspelled]

/-- A key is the camel-case spelling of its lower form just if its capitals stand where words start. -/
theorem camelChars_lower_eq_iff {cs : List Char} (hcs : ∀ c ∈ cs, isKeyChar c = true) :
    camelChars (cs.map Char.toLower) = cs ↔ isRespelled cs = true := by
  have hlower : ∀ c ∈ cs.map Char.toLower, isKeyChar c = true ∧ c.isUpper = false := by
    intro c hc
    obtain ⟨d, hd, rfl⟩ := List.mem_map.mp hc
    have hcase := hasCase_ascii d (ascii_of_isKeyChar (hcs d hd))
    exact ⟨hcase.isKeyChar_lower.trans (hcs d hd), hcase.isUpper_lower⟩
  have htitled : titleFrom [] (cs.map Char.toLower) = titled false (cs.map Char.toLower) :=
    titleFrom_ascii (fun c hc => ascii_of_isKeyChar (hlower c hc).1) rfl
  have hagain := lowerHead_joinWords_titled_eq_iff hcs
  rw [camelChars, htitled]
  split
  · rename_i hcamel
    -- a camel-case key is left alone, but would be spelled so anyway
    have hsame : (cs.map Char.toLower).map Char.toLower = cs.map Char.toLower := by
      rw [List.map_map]
      exact List.map_congr_left fun c hc => (hasCase_ascii c (ascii_of_isKeyChar (hcs c hc))).lower_lower
    have hspelled := (lowerHead_joinWords_titled_eq_iff fun c hc => (hlower c hc).1).mpr
      (isRespelled_of_isCamel hlower hcamel)
    rw [hsame] at hspelled
    rwa [hspelled] at hagain
  · exact hagain

end LeadFlow.Text
