import LeadFlow.Message.Personal
import Mathlib

set_option autoImplicit false

/-!
# Message: templates as they are written

A template is written as literals with tags between them.  A literal is any text without a tag in
it, stray braces included, so the question is whether a brace of a literal and one of a tag beside
it can be taken for a tag together.  They cannot: within a tag the only braces are the two pairs at
its ends, and what follows the opening pair is no brace.

Main statement: `fill_written`.  Every template can be written this way; reading it finds exactly the
tags it was written with, and filling it puts their values between the literals.
-/

namespace LeadFlow.Message

/-! ## Characters of a tag -/

/-- The codes of the characters of a name. -/
theorem code_of_isNameChar {c : Char} (h : isNameChar c = true) :
    c = '_' ∨ 48 ≤ c.toNat ∧ c.toNat ≤ 57 ∨ 65 ≤ c.toNat ∧ c.toNat ≤ 122 ∨
      c.toNat = 0x17f ∨ c.toNat = 0x212a ∨ c.toNat = 0x130 ∨ c.toNat = 0x131 := by
  simp only [isNameChar, Char.isAlphanum, Char.isAlpha, Char.isUpper, Char.isLower, Char.isDigit,
    Bool.or_eq_true, Bool.and_eq_true, decide_eq_true_eq, beq_iff_eq, ge_iff_le,
    UInt32.le_iff_toNat_le] at h
  change ((((((65 ≤ c.toNat ∧ c.toNat ≤ 90 ∨ 97 ≤ c.toNat ∧ c.toNat ≤ 122) ∨
    48 ≤ c.toNat ∧ c.toNat ≤ 57) ∨ c = '_') ∨ _) ∨ _) ∨ _) ∨ _ at h
  by_cases hscore : c = '_'
  · exact .inl hscore
  · simp only [hscore, or_false, false_or] at h ⊢
    omega

theorem isBlank_of_isNameChar {c : Char} (h : isNameChar c = true) : Text.isBlank c = false := by
  obtain rfl | hcode := code_of_isNameChar h
  · decide
  · simp only [Text.isBlank, Text.isSpace, Bool.or_eq_false_iff, Bool.and_eq_false_iff,
      decide_eq_false_iff_not, beq_eq_false_iff_ne]
    omega

/-- The class of characters has no brace in it. -/
def NoBrace (cs : List Char) : Prop := '\x7b' ∉ cs ∧ '\x7d' ∉ cs

theorem noBrace_of_forall {class_ : Char → Bool} (hopen : class_ '\x7b' = false)
    (hclose : class_ '\x7d' = false) {cs : List Char} (h : ∀ c ∈ cs, class_ c = true) : NoBrace cs := by
  constructor
  · intro hmem
    exact absurd (h _ hmem) (by simp [hopen])
  · intro hmem
    exact absurd (h _ hmem) (by simp [hclose])

/-! ## Tags -/

/-- A tag as it is written: a name, and blanks before and after it. -/
@[ext] structure Tag where
  before : List Char
  name : List Char
  after : List Char
  before_blank : ∀ c ∈ before, Text.isBlank c = true
  name_ne_nil : name ≠ []
  isName : ∀ c ∈ name, isNameChar c = true
  after_blank : ∀ c ∈ after, Text.isBlank c = true

namespace Tag

/-- What stands between the pairs of braces. -/
def inner (t : Tag) : List Char := t.before ++ (t.name ++ t.after)

/-- The characters of a tag. -/
def chars (t : Tag) : List Char := '\x7b' :: '\x7b' :: (t.inner ++ ['\x7d', '\x7d'])

variable (t : Tag)

theorem noBrace_inner : NoBrace t.inner := by
  have hbefore := noBrace_of_forall (by decide) (by decide) t.before_blank
  have hname := noBrace_of_forall (by decide) (by decide) t.isName
  have hafter := noBrace_of_forall (by decide) (by decide) t.after_blank
  constructor
  · simp [inner, hbefore.1, hname.1, hafter.1]
  · simp [inner, hbefore.2, hname.2, hafter.2]

theorem inner_ne_nil : t.inner ≠ [] := by simp [inner, t.name_ne_nil]

/-- The first character of the name, which is no blank. -/
theorem exists_name_cons : ∃ c cs, t.name = c :: cs ∧ isNameChar c = true := by
  obtain ⟨c, cs, hname⟩ := List.exists_cons_of_ne_nil t.name_ne_nil
  exact ⟨c, cs, hname, t.isName c (by simp [hname])⟩

variable (rest : List Char)

/-- The parts of a tag are read off one after the other. -/
theorem dropWhile_blank : (t.inner ++ ['\x7d', '\x7d'] ++ rest).dropWhile Text.isBlank =
    t.name ++ (t.after ++ '\x7d' :: '\x7d' :: rest) := by
  obtain ⟨c, cs, hname, hc⟩ := t.exists_name_cons
  simp only [inner, List.append_assoc]
  rw [List.dropWhile_append_of_pos t.before_blank, hname]
  simp [isBlank_of_isNameChar hc]

theorem takeWhile_name :
    (t.name ++ (t.after ++ '\x7d' :: '\x7d' :: rest)).takeWhile isNameChar = t.name := by
  rw [List.takeWhile_append_of_pos t.isName]
  cases hafter : t.after with
  | nil => simp [show isNameChar '\x7d' = false by decide]
  | cons c cs =>
    have hblank := t.after_blank c (by simp [hafter])
    cases hc : isNameChar c with
    | false => simp [hc]
    | true => simp [isBlank_of_isNameChar hc] at hblank

theorem dropWhile_name : (t.name ++ (t.after ++ '\x7d' :: '\x7d' :: rest)).dropWhile isNameChar =
    t.after ++ '\x7d' :: '\x7d' :: rest := by
  have hsplit := List.takeWhile_append_dropWhile (p := isNameChar)
    (l := t.name ++ (t.after ++ '\x7d' :: '\x7d' :: rest))
  rw [takeWhile_name] at hsplit
  exact List.append_cancel_left hsplit

theorem dropWhile_after :
    (t.after ++ '\x7d' :: '\x7d' :: rest).dropWhile Text.isBlank = '\x7d' :: '\x7d' :: rest := by
  rw [List.dropWhile_append_of_pos t.after_blank]
  simp [show Text.isBlank '\x7d' = false by decide]

end Tag

/-- A tag is read where it is written. -/
theorem tagAt?_chars (t : Tag) (rest : List Char) : tagAt? (t.chars ++ rest) = some (t.name, rest) := by
  have hopening : afterOpening (t.chars ++ rest) = some (t.inner ++ ['\x7d', '\x7d'] ++ rest) := rfl
  have hname : t.name.isEmpty = false := by simp [t.name_ne_nil]
  unfold tagAt?
  rw [hopening]
  simp only [Tag.dropWhile_blank, Tag.takeWhile_name, Tag.dropWhile_name, Tag.dropWhile_after, hname]
  rfl

theorem eq_of_afterOpening {cs rest : List Char} (h : afterOpening cs = some rest) :
    cs = '\x7b' :: '\x7b' :: rest := by
  unfold afterOpening at h
  split at h
  · cases h
    rfl
  · cases h

theorem eq_of_afterClosing {cs rest : List Char} (h : afterClosing cs = some rest) :
    cs = '\x7d' :: '\x7d' :: rest := by
  unfold afterClosing at h
  split at h
  · cases h
    rfl
  · cases h

theorem forall_mem_takeWhile {class_ : Char → Bool} (cs : List Char) :
    ∀ c ∈ cs.takeWhile class_, class_ c = true := by
  intro c hc
  exact (List.all_eq_true.mp List.all_takeWhile) c hc

/-- What is read as a tag is written as one. -/
theorem exists_of_tagAt? {cs name rest : List Char} (h : tagAt? cs = some (name, rest)) :
    ∃ t : Tag, t.name = name ∧ cs = t.chars ++ rest := by
  unfold tagAt? at h
  split at h
  · cases h
  · rename_i body hbody
    dsimp only at h
    split at h
    · cases h
    · rename_i hname
      split at h
      · cases h
      · rename_i rest' hclosing
        cases h
        refine ⟨{ before := body.takeWhile Text.isBlank
                  name := (body.dropWhile Text.isBlank).takeWhile isNameChar
                  after := ((body.dropWhile Text.isBlank).dropWhile isNameChar).takeWhile Text.isBlank
                  before_blank := forall_mem_takeWhile _
                  name_ne_nil := by simpa using hname
                  isName := forall_mem_takeWhile _
                  after_blank := forall_mem_takeWhile _ }, rfl, ?_⟩
        have hafter := List.takeWhile_append_dropWhile (p := Text.isBlank)
          (l := (body.dropWhile Text.isBlank).dropWhile isNameChar)
        rw [eq_of_afterClosing hclosing] at hafter
        have hrest := List.takeWhile_append_dropWhile (p := isNameChar)
          (l := body.dropWhile Text.isBlank)
        have hwhole := List.takeWhile_append_dropWhile (p := Text.isBlank) (l := body)
        rw [eq_of_afterOpening hbody]
        simp only [Tag.chars, Tag.inner, List.cons_append, List.append_assoc, List.nil_append]
        rw [hafter, hrest, hwhole]

/-- A text starts with one tag at most. -/
theorem Tag.chars_append_inj {t t' : Tag} {rest rest' : List Char}
    (h : t.chars ++ rest = t'.chars ++ rest') : t = t' ∧ rest = rest' := by
  have hread := tagAt?_chars t rest
  rw [h, tagAt?_chars] at hread
  obtain ⟨hname, rfl⟩ : t'.name = t.name ∧ rest' = rest := by simpa using hread
  have hinner : t.inner = t'.inner := by simpa [Tag.chars] using h
  -- the blanks before the name are those in front of its first character
  have hbefore : t.before = t'.before := by
    have hlead : ∀ t : Tag, t.inner.takeWhile Text.isBlank = t.before := by
      intro t
      obtain ⟨c, cs, hname, hc⟩ := t.exists_name_cons
      rw [Tag.inner, List.takeWhile_append_of_pos t.before_blank, hname]
      simp [isBlank_of_isNameChar hc]
    rw [← hlead t, ← hlead t', hinner]
  have hafter : t.after = t'.after := by
    rw [Tag.inner, Tag.inner, hbefore, hname] at hinner
    exact List.append_cancel_left (List.append_cancel_left hinner)
  exact ⟨Tag.ext hbefore hname.symm hafter, rfl⟩

/-- No tag starts within another one. -/
theorem Tag.not_starts_within {t t' : Tag} {front back rest rest' : List Char} (hfront : front ≠ [])
    (hback : back ≠ []) (hsplit : t.chars = front ++ back) : back ++ rest ≠ t'.chars ++ rest' := by
  intro h
  obtain ⟨c, front, rfl⟩ := List.exists_cons_of_ne_nil hfront
  obtain ⟨d, back, rfl⟩ := List.exists_cons_of_ne_nil hback
  obtain ⟨rfl, htail⟩ : d = '\x7b' ∧ back ++ rest = '\x7b' :: (t'.inner ++ ['\x7d', '\x7d'] ++ rest') := by
    simpa [Tag.chars] using h
  obtain ⟨-, hsplit⟩ : c = '\x7b' ∧ '\x7b' :: (t.inner ++ ['\x7d', '\x7d']) = front ++ '\x7b' :: back := by
    simpa [Tag.chars, eq_comm] using hsplit
  -- the start can only be the second brace, and then a brace would follow it
  cases front with
  | nil =>
    obtain rfl : t.inner ++ ['\x7d', '\x7d'] = back := by simpa using hsplit
    obtain ⟨e, inner, hinner⟩ := List.exists_cons_of_ne_nil t.inner_ne_nil
    rw [hinner] at htail
    obtain ⟨rfl, -⟩ : e = '\x7b' ∧ _ := by simpa using htail
    exact t.noBrace_inner.1 (by simp [hinner])
  | cons e front =>
    obtain ⟨-, hsplit⟩ : e = '\x7b' ∧ t.inner ++ ['\x7d', '\x7d'] = front ++ '\x7b' :: back := by
      simpa [eq_comm] using hsplit
    have hmem : '\x7b' ∈ t.inner ++ ['\x7d', '\x7d'] := by simp [hsplit]
    have hnone := t.noBrace_inner.1
    simp [hnone] at hmem

/-! ## Literals and templates -/

/-- No tag stands anywhere in the text. -/
def TagFree (cs : List Char) : Prop := ∀ before (t : Tag) after, cs ≠ before ++ t.chars ++ after

/-- A tag starts somewhere in the text. -/
def hasTag : List Char → Bool
  | [] => false
  | c :: cs => (tagAt? (c :: cs)).isSome || hasTag cs

theorem hasTag_append_of_hasTag {cs : List Char} (before : List Char) (h : hasTag cs = true) :
    hasTag (before ++ cs) = true := by
  induction before with
  | nil => exact h
  | cons c before ih => simp [hasTag, ih]

theorem tagFree_iff_hasTag {cs : List Char} : TagFree cs ↔ hasTag cs = false := by
  constructor
  · intro hfree
    induction cs with
    | nil => rfl
    | cons c cs ih =>
      have hrest : hasTag cs = false := ih fun before t after h => hfree (c :: before) t after (by simp [h])
      have hstart : tagAt? (c :: cs) = none := by
        rw [Option.eq_none_iff_forall_ne_some]
        rintro ⟨name, after⟩ htag
        obtain ⟨t, -, htext⟩ := exists_of_tagAt? htag
        exact hfree [] t after htext
      simp [hasTag, hstart, hrest]
  · rintro hnone before t after rfl
    have htag : hasTag (t.chars ++ after) = true := by
      have hread := tagAt?_chars t after
      rw [Tag.chars, List.cons_append] at hread ⊢
      simp only [hasTag, hread, Option.isSome_some, Bool.true_or]
    rw [List.append_assoc, hasTag_append_of_hasTag before htag] at hnone
    cases hnone

instance (cs : List Char) : Decidable (TagFree cs) := decidable_of_iff _ tagFree_iff_hasTag.symm

/-- A text without a tag in it. -/
structure Literal where
  chars : List Char
  tagFree : TagFree chars

/-- A template as it is written: a literal, then tags with a literal behind each. -/
structure Written where
  first : Literal
  rest : List (Tag × Literal)

namespace Written

/-- The characters of tags with literals behind them. -/
def charsOf (rest : List (Tag × Literal)) : List Char := rest.flatMap fun (t, l) => t.chars ++ l.chars

/-- The characters of a template. -/
def chars (w : Written) : List Char := w.first.chars ++ charsOf w.rest

/-- The template as a text. -/
def text (w : Written) : String := .ofList w.chars

/-- Literals with values in the place of the tags between them. -/
def filledOf (value : List Char → List Char) (rest : List (Tag × Literal)) : List Char :=
  rest.flatMap fun (t, l) => value t.name ++ l.chars

/-- The literals unchanged, and between them the values of the tags. -/
def filled (value : List Char → List Char) (w : Written) : List Char :=
  w.first.chars ++ filledOf value w.rest

/-- The template was written with the tag between these two parts. -/
def Places (w : Written) (before : List Char) (t : Tag) (after : List Char) : Prop :=
  ∃ front l back, w.rest = front ++ (t, l) :: back ∧ before = w.first.chars ++ charsOf front ∧
    after = l.chars ++ charsOf back

@[simp] theorem charsOf_nil : charsOf [] = [] := rfl

@[simp] theorem charsOf_cons (t : Tag) (l : Literal) (rest : List (Tag × Literal)) :
    charsOf ((t, l) :: rest) = t.chars ++ (l.chars ++ charsOf rest) := by
  simp [charsOf]

@[simp] theorem charsOf_append (front back : List (Tag × Literal)) :
    charsOf (front ++ back) = charsOf front ++ charsOf back := by
  simp [charsOf]

@[simp] theorem filledOf_cons (value : List Char → List Char) (t : Tag) (l : Literal)
    (rest : List (Tag × Literal)) :
    filledOf value ((t, l) :: rest) = value t.name ++ (l.chars ++ filledOf value rest) := by
  simp [filledOf]

end Written

/-! ## Where tags stand -/

section Splitting

variable {t t' : Tag} {before after rest : List Char}

/-- A tag in a literal with another tag behind it does not start in the literal. -/
theorem Literal.exists_of_split (l : Literal)
    (h : l.chars ++ (t.chars ++ rest) = before ++ (t'.chars ++ after)) :
    ∃ between, before = l.chars ++ between ∧ t.chars ++ rest = between ++ (t'.chars ++ after) := by
  obtain ⟨between, hbefore, hrest⟩ | ⟨front, hliteral, hrest⟩ := List.append_eq_append_iff.mp h
  · exact ⟨between, hbefore, hrest⟩
  · obtain ⟨tail, hfront, -⟩ | ⟨back, htag, hback⟩ := List.append_eq_append_iff.mp hrest
    · exact absurd (by simp [hliteral, hfront]) (l.tagFree before t' tail)
    · by_cases hstart : front = []
      · subst hstart
        exact ⟨[], by simpa using hliteral.symm, by simpa using hrest.symm⟩
      by_cases hend : back = []
      · subst hend
        exact absurd (by simp [hliteral, htag]) (l.tagFree before t' [])
      exact absurd hback.symm (Tag.not_starts_within hstart hend htag)

/-- A tag in a text that starts with a tag is that one, or starts behind it. -/
theorem Tag.eq_or_exists_of_split (h : t.chars ++ rest = before ++ (t'.chars ++ after)) :
    (before = [] ∧ t' = t ∧ after = rest) ∨
      ∃ beyond, before = t.chars ++ beyond ∧ rest = beyond ++ (t'.chars ++ after) := by
  obtain ⟨beyond, hbefore, hrest⟩ | ⟨back, htag, hback⟩ := List.append_eq_append_iff.mp h
  · exact .inr ⟨beyond, hbefore, hrest⟩
  · by_cases hstart : before = []
    · subst hstart
      obtain ⟨ht, hrest⟩ := Tag.chars_append_inj (by simpa using h)
      exact .inl ⟨rfl, ht.symm, hrest.symm⟩
    by_cases hend : back = []
    · subst hend
      exact .inr ⟨[], by simpa using htag.symm, by simpa using hback.symm⟩
    exact absurd hback.symm (Tag.not_starts_within hstart hend htag)

end Splitting

/-- The tags of a template are those it was written with. -/
theorem Written.chars_eq_iff (w : Written) (before : List Char) (t : Tag) (after : List Char) :
    w.chars = before ++ t.chars ++ after ↔ w.Places before t after := by
  constructor
  · intro h
    rw [List.append_assoc] at h
    obtain ⟨first, rest⟩ := w
    -- literal by literal: the tag is the next one, or stands behind it
    induction rest generalizing first before with
    | nil =>
      refine absurd ?_ (first.tagFree before t after)
      simpa [Written.chars] using h
    | cons head rest ih =>
      obtain ⟨t₁, l⟩ := head
      simp only [Written.chars, Written.charsOf_cons] at h
      obtain ⟨between, rfl, hbetween⟩ := first.exists_of_split h
      obtain ⟨rfl, rfl, rfl⟩ | ⟨beyond, rfl, hrest⟩ := Tag.eq_or_exists_of_split hbetween
      · exact ⟨[], l, rest, rfl, by simp, rfl⟩
      · obtain ⟨front, l', back, hsplit, rfl, rfl⟩ := ih beyond l hrest
        refine ⟨(t₁, l) :: front, l', back, ?_, ?_, rfl⟩
        · simpa using hsplit
        · simp
  · rintro ⟨front, l, back, hsplit, rfl, rfl⟩
    simp [Written.chars, hsplit]

/-! ## Reading and filling -/

/-- Characters in front of which no tag starts are read one by one. -/
theorem pieces_append {cs rest : List Char}
    (h : ∀ front back, cs = front ++ back → back ≠ [] → tagAt? (back ++ rest) = none) :
    pieces (cs ++ rest) = cs.map .char ++ pieces rest := by
  induction cs with
  | nil => rfl
  | cons c cs ih =>
    have hnone : tagAt? (c :: (cs ++ rest)) = none := h [] (c :: cs) rfl (by simp)
    have hcs : pieces (cs ++ rest) = cs.map .char ++ pieces rest := by
      refine ih fun front back hsplit hback => h (c :: front) back ?_ hback
      rw [hsplit, List.cons_append]
    rw [List.cons_append, pieces_cons hnone, hcs]
    rfl

/-- The pieces of tags with literals behind them. -/
def Written.piecesOf (rest : List (Tag × Literal)) : List Piece :=
  rest.flatMap fun (t, l) => .tag t.name :: l.chars.map .char

/-- Reading a template finds the tags it was written with, and every other character by itself. -/
theorem Written.pieces_chars (w : Written) :
    pieces w.chars = w.first.chars.map .char ++ Written.piecesOf w.rest := by
  obtain ⟨first, rest⟩ := w
  induction rest generalizing first with
  | nil =>
    have hread : pieces (first.chars ++ []) = first.chars.map .char ++ pieces [] := by
      refine pieces_append fun front back hsplit hback => ?_
      rw [Option.eq_none_iff_forall_ne_some]
      rintro ⟨name, after⟩ htag
      obtain ⟨t, -, htext⟩ := exists_of_tagAt? htag
      exact first.tagFree front t after (by simpa [hsplit] using htext)
    simpa [Written.chars, Written.piecesOf] using hread
  | cons head rest ih =>
    obtain ⟨t, l⟩ := head
    have hread : pieces (first.chars ++ (t.chars ++ (l.chars ++ Written.charsOf rest))) =
        first.chars.map .char ++ pieces (t.chars ++ (l.chars ++ Written.charsOf rest)) := by
      refine pieces_append fun front back hsplit hback => ?_
      rw [Option.eq_none_iff_forall_ne_some]
      rintro ⟨name, after⟩ htag
      obtain ⟨t', -, htext⟩ := exists_of_tagAt? htag
      have hplace : first.chars ++ (t.chars ++ (l.chars ++ Written.charsOf rest)) =
          front ++ (t'.chars ++ after) := by
        rw [hsplit, List.append_assoc, htext]
      obtain ⟨between, hfront, -⟩ := first.exists_of_split hplace
      have hlength : back = [] ∧ between = [] := by
        simpa [hsplit] using congrArg List.length hfront
      exact hback hlength.1
    have hrest := ih l
    simp only [Written.chars] at hrest
    simp only [Written.chars, Written.charsOf_cons]
    rw [hread, pieces_of_tagAt? (tagAt?_chars t _), hrest]
    simp [Written.piecesOf]

/-- Filling leaves the literals as they are and puts a value in the place of each tag. -/
theorem Written.fillChars_chars (value : List Char → List Char) (w : Written) :
    fillChars value w.chars = w.filled value := by
  have hliteral : ∀ cs : List Char, (cs.map Piece.char).flatMap (Piece.filled value) = cs := by
    intro cs
    induction cs with
    | nil => rfl
    | cons c cs ih => simp [Piece.filled, ih]
  have hrest : (Written.piecesOf w.rest).flatMap (Piece.filled value) = Written.filledOf value w.rest := by
    unfold Written.piecesOf Written.filledOf
    rw [List.flatMap_assoc]
    refine congrArg (fun f => w.rest.flatMap f) (funext fun x => ?_)
    simp [Piece.filled, hliteral]
  unfold fillChars
  rw [w.pieces_chars, List.flatMap_append, hliteral, hrest]
  rfl

/-- Every template can be written with literals and tags. -/
theorem exists_written (cs : List Char) : ∃ w : Written, w.chars = cs := by
  induction h : cs.length using Nat.strongRecOn generalizing cs with
  | ind n ih =>
    cases htag : tagAt? cs with
    | some found =>
      obtain ⟨name, rest⟩ := found
      obtain ⟨t, -, rfl⟩ := exists_of_tagAt? htag
      obtain ⟨w, rfl⟩ := ih rest.length (h ▸ length_lt_of_tagAt? htag) rest rfl
      refine ⟨⟨⟨[], ?_⟩, (t, w.first) :: w.rest⟩, by simp [Written.chars]⟩
      intro before t' after
      simp [Tag.chars]
    | none =>
      cases cs with
      | nil => exact ⟨⟨⟨[], fun before t after => by simp [Tag.chars]⟩, []⟩, rfl⟩
      | cons c cs =>
        obtain ⟨w, rfl⟩ := ih cs.length (by simp [← h]) cs rfl
        refine ⟨⟨⟨c :: w.first.chars, ?_⟩, w.rest⟩, rfl⟩
        intro before t after heq
        cases before with
        | nil =>
          rw [Written.chars, ← List.cons_append, heq, List.nil_append, List.append_assoc,
            tagAt?_chars] at htag
          cases htag
        | cons b before =>
          obtain ⟨-, hfirst⟩ : c = b ∧ w.first.chars = before ++ t.chars ++ after := by
            simpa using heq
          exact w.first.tagFree before t after hfirst

/-! ## The case of names -/

/-- The lower form does not depend on the case of an ASCII letter. -/
theorem lowerChar_toLower (c : Char) : Text.lowerChar c.toLower = Text.lowerChar c := by
  by_cases hupper : c.val ≥ 'A'.val ∧ c.val ≤ 'Z'.val
  · have hcode : 65 ≤ c.val.toNat ∧ c.val.toNat ≤ 90 := hupper
    have hlower : c.toLower.val.toNat = c.val.toNat + 32 := by
      rw [show c.toLower.val = c.val + ('a'.val - 'A'.val) by simp only [Char.toLower, dif_pos hupper],
        UInt32.toNat_add, show ('a'.val - 'A'.val).toNat = 32 from rfl]
      omega
    have hnot : ¬ (c.toLower.val ≥ 'A'.val ∧ c.toLower.val ≤ 'Z'.val) := by
      rintro ⟨-, hz⟩
      have hz : c.toLower.val.toNat ≤ 90 := hz
      omega
    have hidem : c.toLower.toLower = c.toLower := by rw [Char.toLower.eq_1 c.toLower, dif_neg hnot]
    have hascii : c.toNat < 0x80 ∧ c.toLower.toNat < 0x80 := by
      change c.val.toNat < 0x80 ∧ c.toLower.val.toNat < 0x80
      omega
    rw [Text.lowerChar, Text.lowerChar, if_pos hascii.1, if_pos hascii.2, hidem]
  · rw [show c.toLower = c by simp only [Char.toLower, dif_neg hupper]]

/-- The lower form of a name goes by its characters one by one. -/
theorem lowerFrom_of_isName (before : List Char) {name : List Char}
    (h : ∀ c ∈ name, isNameChar c = true) :
    Text.lowerFrom before name = name.flatMap Text.lowerChar := by
  induction name generalizing before with
  | nil => rfl
  | cons c name ih =>
    obtain ⟨hc, hname⟩ := List.forall_mem_cons.mp h
    have hnoSigma : c.toNat ≠ 0x3a3 := by
      obtain rfl | hcode := code_of_isNameChar hc
      · decide
      · omega
    rw [Text.lowerFrom, ih _ hname, Text.lowerAmong, if_neg hnoSigma, List.flatMap_cons]

/-- The value of a name, for characters. -/
def valueOf (lead : Lead) (sender : Sender) (name : List Char) : List Char :=
  (tagValue lead sender (.ofList name)).toList

/-- Names that differ only in the case of ASCII letters have one value. -/
theorem valueOf_congr (lead : Lead) (sender : Sender) {t t' : Tag}
    (h : t'.name.map Char.toLower = t.name.map Char.toLower) :
    valueOf lead sender t'.name = valueOf lead sender t.name := by
  have hlower : ∀ t : Tag, Text.lower (.ofList t.name) =
      .ofList ((t.name.map Char.toLower).flatMap Text.lowerChar) := by
    intro t
    rw [List.flatMap_map]
    simp [Text.lower, Text.lowerChars, lowerFrom_of_isName [] t.isName, lowerChar_toLower]
  unfold valueOf tagValue
  rw [hlower t, hlower t', h]

/-- A tag and a literal, without regard to the case of ASCII letters in the name. -/
def caseless (x : Tag × Literal) : List Char × List Char × List Char × List Char :=
  (x.1.before, x.1.name.map Char.toLower, x.1.after, x.2.chars)

/-- The same template, but for the case of ASCII letters in names. -/
def Written.Recased (w w' : Written) : Prop :=
  w'.first.chars = w.first.chars ∧ w'.rest.map caseless = w.rest.map caseless

theorem Written.filled_congr (lead : Lead) (sender : Sender) {w w' : Written} (h : w.Recased w') :
    w'.filled (valueOf lead sender) = w.filled (valueOf lead sender) := by
  have hrest : ∀ rest rest' : List (Tag × Literal), rest'.map caseless = rest.map caseless →
      filledOf (valueOf lead sender) rest' = filledOf (valueOf lead sender) rest := by
    intro rest
    induction rest with
    | nil =>
      intro rest' h
      obtain rfl : rest' = [] := by simpa using h
      rfl
    | cons x rest ih =>
      intro rest' h
      cases rest' with
      | nil => cases h
      | cons x' rest' =>
        obtain ⟨⟨-, hname, -, hliteral⟩, htail⟩ : (_ ∧ _ ∧ _ ∧ _) ∧ _ := by
          simpa [caseless] using h
        rw [filledOf_cons, filledOf_cons, valueOf_congr lead sender hname, hliteral, ih rest' htail]
  rw [Written.filled, Written.filled, h.1, hrest _ _ h.2]

/-! ## Filling a template -/

/-- Substitution is one pass from left to right.  However a template is written with literals and
tags, the tags in it are exactly those it was written with, filling it keeps the literals and puts
the values of the names between them, whatever braces the values hold, and the case of ASCII letters
in a name does not matter. -/
theorem fill_written (lead : Lead) (sender : Sender) :
    (∀ template : String, ∃ w : Written, w.text = template) ∧
      ∀ w : Written,
        fill lead sender w.text = .ofList (w.filled (valueOf lead sender)) ∧
        pieces w.chars = w.first.chars.map .char ++ Written.piecesOf w.rest ∧
        (∀ before t after, w.chars = before ++ t.chars ++ after ↔ w.Places before t after) ∧
        ∀ w' : Written, w.Recased w' → fill lead sender w'.text = fill lead sender w.text := by
  have hfill : ∀ w : Written, fill lead sender w.text = .ofList (w.filled (valueOf lead sender)) := by
    intro w
    rw [fill, Written.text, String.toList_ofList]
    exact congrArg String.ofList (w.fillChars_chars _)
  refine ⟨fun template => ?_, fun w => ⟨hfill w, w.pieces_chars, w.chars_eq_iff, fun w' h => ?_⟩⟩
  · obtain ⟨w, hw⟩ := exists_written template.toList
    exact ⟨w, by rw [Written.text, hw, String.ofList_toList]⟩
  · rw [hfill w', hfill w, Written.filled_congr lead sender h]

/-! ## Stray braces -/

/-- A tag with a name and blanks before it. -/
def spacedTag (before name : String) (hbefore : before.toList.all Text.isBlank = true)
    (hname : name.toList ≠ [] ∧ name.toList.all isNameChar = true) : Tag :=
  ⟨before.toList, name.toList, [], List.all_eq_true.mp hbefore, hname.1, List.all_eq_true.mp hname.2,
    by simp⟩

/-- A template with braces of its literals on both sides of its tags. -/
def strayBraces (name company : Tag) : Written :=
  ⟨⟨"\x7b".toList, by decide⟩,
    [(name, ⟨"\x7d\x7d \x7b\x7b".toList, by decide⟩), (company, ⟨"\x7d".toList, by decide⟩)]⟩

/-- A lead whose name reads like a tag. -/
def bracedLead : Lead :=
  { (Inhabited.default : Lead) with name := "\x7b\x7bemail\x7d\x7d", company := "A\x7bB", email := "a@b.c" }

/-- Braces beside the tags are kept, the name that reads like a tag is not filled again, and the tags
may be written in capitals. -/
theorem fill_written_strayBraces :
    fill bracedLead .blank "\x7b\x7b\x7b name\x7d\x7d\x7d\x7d \x7b\x7b\x7b\x7bcompany\x7d\x7d\x7d" =
        "\x7b\x7b\x7bemail\x7d\x7d\x7d\x7d \x7b\x7bA\x7bB\x7d" ∧
      fill bracedLead .blank "\x7b\x7b\x7b NaMe\x7d\x7d\x7d\x7d \x7b\x7b\x7b\x7bCOMPANY\x7d\x7d\x7d" =
        "\x7b\x7b\x7bemail\x7d\x7d\x7d\x7d \x7b\x7bA\x7bB\x7d" := by
  let w := strayBraces (spacedTag " " "name" (by decide) (by decide))
    (spacedTag "" "company" (by decide) (by decide))
  let w' := strayBraces (spacedTag " " "NaMe" (by decide) (by decide))
    (spacedTag "" "COMPANY" (by decide) (by decide))
  obtain ⟨hfill, -, -, hrecased⟩ := (fill_written bracedLead .blank).2 w
  have hrecased := hrecased w' ⟨rfl, by decide +kernel⟩
  have htext : w.text = "\x7b\x7b\x7b name\x7d\x7d\x7d\x7d \x7b\x7b\x7b\x7bcompany\x7d\x7d\x7d" := by
    decide +kernel
  have htext' : w'.text = "\x7b\x7b\x7b NaMe\x7d\x7d\x7d\x7d \x7b\x7b\x7b\x7bCOMPANY\x7d\x7d\x7d" := by
    decide +kernel
  have hvalue : String.ofList (w.filled (valueOf bracedLead .blank)) =
      "\x7b\x7b\x7bemail\x7d\x7d\x7d\x7d \x7b\x7bA\x7bB\x7d" := by decide +kernel
  rw [htext, hvalue] at hfill
  rw [htext, htext', hfill] at hrecased
  exact ⟨hfill, hrecased⟩

end LeadFlow.Message
