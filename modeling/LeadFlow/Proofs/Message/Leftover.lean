import LeadFlow.Proofs.Message.Written

set_option autoImplicit false

/-!
# Message: tags left over

Filling a template takes out the tags it was written with, and values are not read again.  So a tag
in the result has to come together from pieces: with values that hold no brace, its ends stand in two
different literals, and what stood between them gives its middle.

Main statement: `fill_leftover`.  That is exactly when a tag is left over, and exactly when filling
the result once more would change it.
-/

namespace LeadFlow.Message

/-- The last part of a text ends as the text does. -/
theorem eq_nil_or_ends {c : Char} {text front back : List Char} (h : text ++ [c] = front ++ back) :
    back = [] ∨ ∃ back₁, back = back₁ ++ [c] ∧ text = front ++ back₁ := by
  obtain rfl | ⟨back₁, d, rfl⟩ := List.eq_nil_or_concat back
  · exact .inl rfl
  · rw [List.concat_eq_append, ← List.append_assoc] at h
    obtain ⟨htext, hlast⟩ := List.append_inj' h rfl
    obtain rfl : c = d := by simpa using hlast
    exact .inr ⟨back₁, by simp, htext⟩

/-- A tag ends with a brace. -/
theorem Tag.chars_eq_concat (t : Tag) :
    t.chars = ('\x7b' :: '\x7b' :: (t.inner ++ ['\x7d'])) ++ ['\x7d'] := by
  simp [Tag.chars]

/-- No value of a name has a brace in it. -/
def Braceless (lead : Lead) (sender : Sender) : Prop :=
  ∀ t : Tag, NoBrace (valueOf lead sender t.name)

namespace Written

/-- The literals of a template. -/
def literals (w : Written) : List Literal := w.first :: w.rest.map Prod.snd

/-- The literal behind these tags, or the first one. -/
def behind (first : Literal) (front : List (Tag × Literal)) : Literal :=
  (front.getLast?.map Prod.snd).getD first

/-- Between the end of one literal and the start of a later one, the values make up a tag. -/
def Reopens (value : List Char → List Char) (w : Written) : Prop :=
  ∃ front middle t last back head opening closing tail,
    w.rest = front ++ (middle ++ (t, last) :: back) ∧
    (behind w.first front).chars = head ++ opening ∧ last.chars = closing ++ tail ∧
    opening ≠ [] ∧ closing ≠ [] ∧
    ∃ tag : Tag, tag.chars = opening ++ (filledOf value middle ++ (value t.name ++ closing))

@[simp] theorem filledOf_nil (value : List Char → List Char) : filledOf value [] = [] := rfl

@[simp] theorem filledOf_append (value : List Char → List Char) (front back : List (Tag × Literal)) :
    filledOf value (front ++ back) = filledOf value front ++ filledOf value back := by
  simp [filledOf]

theorem behind_cons (first : Literal) (t : Tag) (l : Literal) (front : List (Tag × Literal)) :
    behind first ((t, l) :: front) = behind l front := by
  unfold behind
  cases front with
  | nil => rfl
  | cons x front => simp [List.getLast?_cons]

theorem behind_mem (first : Literal) (front : List (Tag × Literal)) :
    behind first front ∈ first :: front.map Prod.snd := by
  induction front generalizing first with
  | nil => simp [behind]
  | cons x front ih =>
    obtain ⟨t, l⟩ := x
    rw [behind_cons, List.map_cons]
    exact List.mem_cons_of_mem _ (ih l)

/-- What has been filled so far ends with the literal that was read last. -/
theorem exists_filled_behind (value : List Char → List Char) (first : Literal)
    (front : List (Tag × Literal)) :
    ∃ cs, first.chars ++ filledOf value front = cs ++ (behind first front).chars := by
  induction front generalizing first with
  | nil => exact ⟨[], by simp [behind]⟩
  | cons x front ih =>
    obtain ⟨t, l⟩ := x
    obtain ⟨cs, hcs⟩ := ih l
    refine ⟨first.chars ++ (value t.name ++ cs), ?_⟩
    rw [filledOf_cons, hcs, behind_cons]
    simp

end Written

section Leftover

variable {value : List Char → List Char} (hvalue : ∀ t : Tag, NoBrace (value t.name))

include hvalue

/-- The end of a tag that starts further left stands in a literal. -/
theorem exists_closing {rest : List (Tag × Literal)} {ending after : List Char}
    (h : (ending ++ ['\x7d']) ++ after = Written.filledOf value rest) :
    ∃ middle t last back closing tail, rest = middle ++ (t, last) :: back ∧
      last.chars = closing ++ tail ∧ closing ≠ [] ∧
      ending ++ ['\x7d'] = Written.filledOf value middle ++ (value t.name ++ closing) := by
  induction rest generalizing ending with
  | nil => simp at h
  | cons x rest ih =>
    obtain ⟨t, l⟩ := x
    rw [Written.filledOf_cons] at h
    obtain ⟨x, hin, -⟩ | ⟨ending₁, hending, hbehind⟩ := List.append_eq_append_iff.mp h
    · exact absurd (by simp [hin]) (hvalue t).2
    -- the closing brace is not the end of the value
    obtain rfl | ⟨ending₁, rfl, rfl⟩ := eq_nil_or_ends hending
    · have hin : '\x7d' ∈ value t.name := by
        rw [List.append_nil] at hending
        simp [← hending]
      exact absurd hin (hvalue t).2
    obtain ⟨ending₂, hending₁, hrest⟩ | ⟨tail, hl, -⟩ := List.append_eq_append_iff.mp hbehind
    · obtain rfl | ⟨ending₂, rfl, rfl⟩ := eq_nil_or_ends hending₁
      · exact ⟨[], t, l, rest, ending₁ ++ ['\x7d'], [], rfl, by simpa using hending₁.symm, by simp,
          by simp⟩
      obtain ⟨middle, t', last, back, closing, tail, rfl, hlast, hclosing, hsplit⟩ := ih hrest.symm
      refine ⟨(t, l) :: middle, t', last, back, closing, tail, rfl, hlast, hclosing, ?_⟩
      rw [Written.filledOf_cons, List.append_assoc, List.append_assoc, hsplit]
      simp
    · exact ⟨[], t, l, rest, ending₁ ++ ['\x7d'], tail, rfl, hl, by simp, by simp⟩

/-- A tag in what a template was filled to has its ends in two literals. -/
theorem reopens_of_filled {w : Written} {before after : List Char} {tag : Tag}
    (h : w.filled value = before ++ (tag.chars ++ after)) : w.Reopens value := by
  obtain ⟨first, rest⟩ := w
  -- literal by literal, up to the one the tag starts in
  induction rest generalizing first before with
  | nil =>
    refine absurd ?_ (first.tagFree before tag after)
    simpa [Written.filled] using h
  | cons x rest ih =>
    obtain ⟨t, l⟩ := x
    -- a tag that starts behind the value of the first tag is found in the rest
    have hrest : ∀ before, l.chars ++ Written.filledOf value rest = before ++ (tag.chars ++ after) →
        (Written.mk first ((t, l) :: rest)).Reopens value := by
      intro before h
      obtain ⟨front, middle, t', last, back, head, opening, closing, tail, hsplit, hhead, hparts⟩ :=
        ih l h
      refine ⟨(t, l) :: front, middle, t', last, back, head, opening, closing, tail, ?_, ?_, hparts⟩
      · exact congrArg (List.cons (t, l)) hsplit
      · rw [Written.behind_cons]
        exact hhead
    -- no tag starts within the value
    have hbehind : ∀ before, value t.name ++ (l.chars ++ Written.filledOf value rest) =
        before ++ (tag.chars ++ after) → (Written.mk first ((t, l) :: rest)).Reopens value := by
      intro before h
      obtain ⟨before, rfl, hl⟩ | ⟨start, hin, hstart⟩ := List.append_eq_append_iff.mp h
      · exact hrest before hl
      · cases start with
        | nil => exact hrest [] hstart.symm
        | cons c start =>
          obtain ⟨rfl, -⟩ : '\x7b' = c ∧ _ := by simpa [Tag.chars] using hstart
          exact absurd (by simp [hin]) (hvalue t).1
    simp only [Written.filled, Written.filledOf_cons] at h
    obtain ⟨before, rfl, hv⟩ | ⟨opening, hfirst, hsplit⟩ := List.append_eq_append_iff.mp h
    · exact hbehind before hv
    by_cases hopening : opening = []
    · subst hopening
      exact hbehind [] hsplit.symm
    obtain ⟨x, hx, -⟩ | ⟨ending, htag, hending⟩ := List.append_eq_append_iff.mp hsplit
    · exact absurd (by simp [hfirst, hx]) (first.tagFree before tag x)
    obtain rfl | ⟨ending, rfl, -⟩ := eq_nil_or_ends (tag.chars_eq_concat.symm.trans htag)
    · exact absurd (by simp [hfirst, htag]) (first.tagFree before tag [])
    rw [← Written.filledOf_cons] at hending
    obtain ⟨middle, t', last, back, closing, tail, hsplit, hlast, hclosing, hparts⟩ :=
      exists_closing hvalue hending.symm
    refine ⟨[], middle, t', last, back, before, opening, closing, tail, hsplit, hfirst, hlast,
      hopening, hclosing, tag, ?_⟩
    rw [htag, hparts]

/-- A tag is left over exactly when two literals hold its ends and the values between them its
middle. -/
theorem tagFree_filled_iff (w : Written) : TagFree (w.filled value) ↔ ¬ w.Reopens value := by
  constructor
  · rintro hfree ⟨front, middle, t, last, back, head, opening, closing, tail, hsplit, hhead, hlast, -, -,
      tag, htag⟩
    obtain ⟨cs, hcs⟩ := Written.exists_filled_behind value w.first front
    refine hfree (cs ++ head) tag (tail ++ Written.filledOf value back) ?_
    rw [Written.filled, hsplit, Written.filledOf_append, ← List.append_assoc, hcs, hhead, htag,
      Written.filledOf_append, Written.filledOf_cons, hlast]
    simp
  · intro hnone before tag after h
    rw [List.append_assoc] at h
    exact hnone (reopens_of_filled hvalue h)

/-- Filling takes two opening braces out with every tag. -/
theorem count_filled (w : Written) :
    (w.filled value).count '\x7b' + 2 * w.rest.length = w.chars.count '\x7b' := by
  have hrest : ∀ rest : List (Tag × Literal),
      (Written.filledOf value rest).count '\x7b' + 2 * rest.length =
        (Written.charsOf rest).count '\x7b' := by
    intro rest
    induction rest with
    | nil => rfl
    | cons x rest ih =>
      obtain ⟨t, l⟩ := x
      have hnone := List.count_eq_zero_of_not_mem (hvalue t).1
      have htag : t.chars.count '\x7b' = 2 := by
        have hinner := List.count_eq_zero_of_not_mem t.noBrace_inner.1
        simp [Tag.chars, List.count_append, hinner]
      simp only [Written.filledOf_cons, Written.charsOf_cons, List.count_append, List.length_cons]
      omega
  have := hrest w.rest
  simp only [Written.filled, Written.chars, List.count_append]
  omega

/-- Filling keeps a text exactly when no tag stands in it. -/
theorem fillChars_eq_self_iff (cs : List Char) : fillChars value cs = cs ↔ TagFree cs := by
  constructor
  · intro h
    obtain ⟨w, rfl⟩ := exists_written cs
    have hcount := count_filled hvalue w
    rw [Written.fillChars_chars] at h
    rw [h] at hcount
    obtain ⟨first, rest⟩ := w
    obtain rfl : rest = [] := List.length_eq_zero_iff.mp (by simp only at hcount; omega)
    simpa [Written.chars] using first.tagFree
  · intro hfree
    have hfill := Written.fillChars_chars value ⟨⟨cs, hfree⟩, []⟩
    simpa [Written.chars, Written.filled] using hfill

end Leftover

/-- A tag that comes together needs an opening brace in a literal with a tag behind it, and a closing
one in a literal behind a tag. -/
theorem Written.Reopens.braces {value : List Char → List Char} {w : Written} (h : w.Reopens value) :
    (∃ l ∈ w.literals.dropLast, '\x7b' ∈ l.chars) ∧ ∃ l ∈ w.literals.tail, '\x7d' ∈ l.chars := by
  obtain ⟨front, middle, t, last, back, head, opening, closing, tail, hsplit, hhead, hlast, hopening,
    hclosing, tag, htag⟩ := h
  obtain ⟨c, opening, rfl⟩ := List.exists_cons_of_ne_nil hopening
  obtain rfl : '\x7b' = c := by
    rw [Tag.chars] at htag
    exact (List.cons.inj htag).1
  simp only [← List.append_assoc] at htag
  obtain ⟨closing, rfl, -⟩ :=
    (eq_nil_or_ends (tag.chars_eq_concat.symm.trans htag)).resolve_left hclosing
  refine ⟨⟨Written.behind w.first front, ?_, by simp [hhead]⟩, last, ?_, by simp [hlast]⟩
  · have hliterals : w.literals = (w.first :: front.map Prod.snd) ++
        (middle ++ (t, last) :: back).map Prod.snd := by
      simp [Written.literals, hsplit]
    rw [hliterals, List.dropLast_append_of_ne_nil (by simp)]
    exact List.mem_append_left _ (Written.behind_mem w.first front)
  · simp [Written.literals, hsplit]

/-- What is left over after filling, for values without braces.  A tag stands in the result exactly
when two literals hold its ends and the values between them its middle, which takes an opening brace
in front of a tag and a closing one behind it; the result is kept by filling it once more exactly when
no tag stands in it. -/
theorem fill_leftover (lead : Lead) (sender : Sender) (h : Braceless lead sender) (w : Written) :
    (TagFree (fill lead sender w.text).toList ↔ ¬ w.Reopens (valueOf lead sender)) ∧
      (fill lead sender (fill lead sender w.text) = fill lead sender w.text ↔
        TagFree (fill lead sender w.text).toList) ∧
      ((∀ l ∈ w.literals.dropLast, '\x7b' ∉ l.chars) ∨ (∀ l ∈ w.literals.tail, '\x7d' ∉ l.chars) →
        TagFree (fill lead sender w.text).toList) := by
  have hfill : (fill lead sender w.text).toList = w.filled (valueOf lead sender) := by
    rw [fill, Written.text, String.toList_ofList, String.toList_ofList]
    exact w.fillChars_chars _
  have hiff : TagFree (fill lead sender w.text).toList ↔ ¬ w.Reopens (valueOf lead sender) := by
    rw [hfill]
    exact tagFree_filled_iff h w
  refine ⟨hiff, ?_, fun hbraces => hiff.mpr fun hreopens => ?_⟩
  · rw [← fillChars_eq_self_iff h, ← String.toList_inj]
    rw [fill, String.toList_ofList]
    rfl
  · obtain ⟨⟨l, hl, hopening⟩, l', hl', hclosing⟩ := hreopens.braces
    obtain hnone | hnone := hbraces
    · exact hnone l hl hopening
    · exact hnone l' hl' hclosing

/-- A lead of whom only the name is known. -/
def namedLead : Lead := { (Inhabited.default : Lead) with name := "Jane Doe" }

/-- What a lead gives of whom only the name is known. -/
theorem Source.value_namedLead (source : Source) :
    (source.value namedLead .blank).copy ∈ ["Jane", "Doe", "Jane Doe", "0", ""] := by
  cases source with
  | knowledge key => exact List.mem_of_elem_eq_true rfl
  | _ => decide +kernel

theorem braceless_namedLead : Braceless namedLead .blank := by
  have hcopy : ∀ name, tagValue namedLead .blank name ∈ ["Jane", "Doe", "Jane Doe", "0", ""] := by
    intro name
    unfold tagValue
    dsimp only
    split
    · exact Source.value_namedLead _
    · exact Source.value_namedLead (.knowledge _)
  have hnone : ∀ s ∈ ["Jane", "Doe", "Jane Doe", "0", ""], NoBrace s.toList := by
    unfold NoBrace
    decide
  exact fun t => hnone _ (hcopy _)

/-- A tag within a tag: taking the inner one out, which has no value, brings the outer one together. -/
def nestedTag (inner : Tag) : Written :=
  ⟨⟨"Hi \x7b\x7b".toList, by decide⟩, [(inner, ⟨"first_name\x7d\x7d, welcome".toList, by decide⟩)]⟩

/-- The outer tag is left over, and filling once more would fill it. -/
theorem fill_leftover_nestedTag :
    Braceless namedLead .blank ∧
      fill namedLead .blank "Hi \x7b\x7b\x7b\x7bnickname\x7d\x7dfirst_name\x7d\x7d, welcome" =
        "Hi \x7b\x7bfirst_name\x7d\x7d, welcome" ∧
      ¬ TagFree "Hi \x7b\x7bfirst_name\x7d\x7d, welcome".toList ∧
      fill namedLead .blank "Hi \x7b\x7bfirst_name\x7d\x7d, welcome" ≠
        "Hi \x7b\x7bfirst_name\x7d\x7d, welcome" := by
  let w := nestedTag (spacedTag "" "nickname" (by decide) (by decide))
  have hfill : fill namedLead .blank w.text = "Hi \x7b\x7bfirst_name\x7d\x7d, welcome" := by
    have hfilled : String.ofList (w.filled (valueOf namedLead .blank)) =
        "Hi \x7b\x7bfirst_name\x7d\x7d, welcome" := by decide +kernel
    rw [← hfilled, fill, Written.text, String.toList_ofList]
    exact congrArg String.ofList (w.fillChars_chars _)
  have htag : ¬ TagFree "Hi \x7b\x7bfirst_name\x7d\x7d, welcome".toList := by decide
  obtain ⟨-, hagain, -⟩ := fill_leftover namedLead .blank braceless_namedLead w
  rw [hfill] at hagain
  exact ⟨braceless_namedLead, hfill, htag, fun h => htag (hagain.mp h)⟩

end LeadFlow.Message
