import LeadFlow.Proofs.Json.Extent
import LeadFlow.Json.Embedded
import Mathlib

set_option autoImplicit false

/-!
# Json: values recovered from prose

An object with anything around it, and any value between fences, is found again.  The search finds where
the text of an object ends by counting braces; that this is where the reader stops is `ValueText.braced`.

Main statement: `embedded_recovers`.
-/

namespace LeadFlow.Json

/-- The text is JSON. -/
def IsJson (s : String) : Prop := ∃ v, read s = .ok v

/-- Reading the text breaks no limit. -/
def WithinLimits (s : String) : Prop := ∀ r, read s = .error r → r.cause.isForm = true

theorem not_isJson_of_refused {s : String} {r : Refusal} (h : read s = .error r) : ¬ IsJson s := by
  rintro ⟨v, hv⟩
  rw [h] at hv
  cases hv

theorem withinLimits_of_refused {s : String} {r : Refusal} (h : read s = .error r)
    (hform : r.cause.isForm = true) : WithinLimits s := by
  intro r' hr'
  rw [h] at hr'
  obtain rfl := Except.error.inj hr'
  exact hform

/-! ## Whole texts -/

theorem isBlank_of_isSpace {c : Char} (h : isSpace c = true) : Text.isBlank c = true := by
  rcases eq_of_isSpace h with rfl | rfl | rfl | rfl
  · rfl
  · rfl
  · rfl
  · rfl

theorem all_isBlank_of_spaces {cs : List Char} (h : cs.all isSpace = true) : cs.all Text.isBlank = true :=
  List.all_eq_true.mpr fun c hc => isBlank_of_isSpace (List.all_eq_true.mp h c hc)

theorem isSpace_of_not_isBlank {c : Char} (h : Text.isBlank c = false) : isSpace c = false := by
  cases hc : isSpace c with
  | false => rfl
  | true =>
    rw [isBlank_of_isSpace hc] at h
    cases h

theorem skip_of_spaces {cs : List Char} (h : cs.all isSpace = true) : skip cs = [] := by
  rw [skip, List.dropWhile_eq_nil_iff]
  exact List.all_eq_true.mp h

/-- A text with spaces around it reads as its value. -/
theorem ValueText.readChars_eq {v : Value} {body rest front back : List Char}
    (h : ValueText mostDepth v body rest) (hfront : front.all isSpace = true)
    (hback : back.all isSpace = true) (hrest : back <+: rest) :
    readChars (front ++ (body ++ back)) = .ok v := by
  have hskip : skip (front ++ (body ++ back)) = body ++ back := by
    obtain ⟨c, behind, hbody, hc⟩ := h.solid.first
    rw [skip, List.dropWhile_append_of_pos (List.all_eq_true.mp hfront), hbody, List.cons_append,
      List.dropWhile_cons_of_neg (by simp [isSpace_of_not_isBlank hc])]
  have hfuel : 2 * body.length ≤ fuelFor (front ++ (body ++ back)) := by
    simp only [fuelFor, List.length_append]
    omega
  rw [readChars, hskip, h.reads _ back hfuel hrest]
  simp [skip_of_spaces hback]

/-- A text that reads is the text of its value, with spaces around it. -/
theorem exists_valueText {s : String} {v : Value} (h : read s = .ok v) :
    ∃ front body back, s.toList = front ++ (body ++ back) ∧ front.all isSpace = true ∧
      back.all isSpace = true ∧ ValueText mostDepth v body back := by
  have hchars : readChars s.toList = .ok v := by
    cases hread : readChars s.toList with
    | error e => simp [read, hread] at h
    | ok w => simpa [read, hread] using h
  obtain ⟨front, inside, hskip, hs, hfront, -⟩ := skip_takes s.toList
  rw [readChars, hskip] at hchars
  cases hvalue : value (fuelFor s.toList) mostDepth inside with
  | error e => simp [hvalue] at hchars
  | ok y =>
    obtain ⟨w, back⟩ := y
    simp only [hvalue] at hchars
    split at hchars
    · rename_i hback
      obtain rfl := Except.ok.inj hchars
      obtain ⟨body, rfl, hbody⟩ := value_takes hvalue
      refine ⟨front, body, back, hs, hfront, ?_, hbody⟩
      exact List.all_eq_true.mpr (List.dropWhile_eq_nil_iff.mp hback)
    · cases hchars

/-- In a text that is JSON a quote stands between a backtick and the end of its line. -/
theorem openTick?_of_isJson {s : String} (h : IsJson s) : openTick? false s.toList = some false := by
  obtain ⟨v, hv⟩ := h
  obtain ⟨front, body, back, hs, hfront, hback, hbody⟩ := exists_valueText hv
  rw [hs]
  exact ((neutral_of_spaces hfront).append (hbody.neutral.append (neutral_of_spaces hback))).ticks

/-! ## Trimming -/

theorem dropWhile_append_of_first {class_ : Char → Bool} {front cs : List Char}
    (h : cs.dropWhile class_ = cs) : (front ++ cs).dropWhile class_ = front.dropWhile class_ ++ cs := by
  rw [List.dropWhile_append]
  split
  · rename_i hfront
    rw [List.isEmpty_iff.mp hfront, h, List.nil_append]
  · rfl

theorem IsSolid.dropWhile {body : List Char} (h : IsSolid body) (rest : List Char) :
    (body ++ rest).dropWhile Text.isBlank = body ++ rest := by
  obtain ⟨c, behind, rfl, hc⟩ := h.first
  rw [List.cons_append, List.dropWhile_cons_of_neg (by simp [hc])]

theorem IsSolid.reverse {body : List Char} (h : IsSolid body) : IsSolid body.reverse where
  first := by
    obtain ⟨front, c, rfl, hc⟩ := h.last
    exact ⟨c, front.reverse, by simp, hc⟩
  last := by
    obtain ⟨c, behind, rfl, hc⟩ := h.first
    exact ⟨behind.reverse, c, by simp, hc⟩

/-- Trimming takes blanks away at the two ends, each on its own side of a solid part. -/
theorem IsSolid.trimChars_eq {body : List Char} (h : IsSolid body) (front back : List Char) :
    Text.trimChars Text.isBlank (front ++ (body ++ back)) =
      front.dropWhile Text.isBlank ++ (body ++ (back.reverse.dropWhile Text.isBlank).reverse) := by
  rw [Text.trimChars, dropWhile_append_of_first (h.dropWhile back)]
  rw [List.reverse_append, List.reverse_append, List.append_assoc,
    dropWhile_append_of_first (h.reverse.dropWhile _)]
  simp

/-- Around a solid part that has only blanks around it, they all go. -/
theorem IsSolid.trimChars_blank {body front back : List Char} (h : IsSolid body)
    (hfront : front.all Text.isBlank = true) (hback : back.all Text.isBlank = true) :
    Text.trimChars Text.isBlank (front ++ (body ++ back)) = body := by
  have hgone : front.dropWhile Text.isBlank = [] :=
    List.dropWhile_eq_nil_iff.mpr (List.all_eq_true.mp hfront)
  have hgone' : back.reverse.dropWhile Text.isBlank = [] :=
    List.dropWhile_eq_nil_iff.mpr (by simpa using List.all_eq_true.mp hback)
  rw [h.trimChars_eq, hgone, hgone']
  simp

/-- Trimming keeps a stretch of the text. -/
theorem trimChars_within (class_ : Char → Bool) (cs : List Char) : Text.trimChars class_ cs <:+: cs := by
  have hback : Text.trimChars class_ cs <+: cs.dropWhile class_ := by
    rw [Text.trimChars, ← List.reverse_suffix, List.reverse_reverse]
    exact List.dropWhile_suffix class_
  exact hback.isInfix.trans (List.dropWhile_suffix class_).isInfix

/-! ## Objects -/

theorem dropWhile_of_not_mem {c : Char} {front : List Char} (h : c ∉ front) (rest : List Char) :
    (front ++ c :: rest).dropWhile (· != c) = c :: rest := by
  rw [List.dropWhile_append_of_pos, List.dropWhile_cons_of_neg (by simp)]
  intro d hd
  rw [bne_iff_ne]
  rintro rfl
  exact h hd

/-- The text of an object is found behind anything without an opening brace. -/
theorem ValueText.objectIn?_eq {fs : Fields} {body rest front : List Char} {depth : Nat}
    (h : ValueText depth (.object fs) body rest) (hfront : '\x7b' ∉ front) (back : List Char) :
    objectIn? (front ++ (body ++ back)) = some body := by
  obtain ⟨inner, rfl, hinner⟩ := h.braced fs rfl
  have hbody : '\x7b' :: (inner ++ ['\x7d']) ++ back = '\x7b' :: (inner ++ '\x7d' :: back) := by simp
  rw [objectIn?, hbody, dropWhile_of_not_mem hfront]
  exact hinner.balanced?_braced back

/-! ## Candidates -/

theorem value?_of_refused {cs : List Char} (h : ¬ IsJson (.ofList cs)) (hlimits : WithinLimits (.ofList cs)) :
    value? cs = .ok none := by
  cases hread : read (.ofList cs) with
  | ok v => exact absurd ⟨v, hread⟩ h
  | error r => simp [value?, hread, hlimits r hread]

theorem ValueText.value?_eq {v : Value} {body rest : List Char} (h : ValueText mostDepth v body rest) :
    value? body = .ok (some v) := by
  have hchars : readChars body = .ok v := by
    simpa using h.readChars_eq List.all_nil List.all_nil List.nil_prefix
  simp [value?, read, hchars]

/-- The first candidate behind a text that is none. -/
theorem embedded_of_candidate {s : String} {v : Value} {clean cs : List Char}
    (hclean : Text.trimChars Text.isBlank s.toList = clean) (hne : clean ≠ [])
    (hjson : ¬ IsJson (Text.trim s)) (hlimits : WithinLimits (Text.trim s))
    (hfound : (fenced? clean).or (objectIn? clean) = some cs) (hv : value? cs = .ok (some v)) :
    embedded s = .ok v := by
  subst hclean
  have hwhole := value?_of_refused hjson hlimits
  have hcandidates : ∃ rest, (fenced? (Text.trimChars Text.isBlank s.toList)).toList ++
      (objectIn? (Text.trimChars Text.isBlank s.toList)).toList = cs :: rest := by
    cases hfenced : fenced? (Text.trimChars Text.isBlank s.toList) with
    | some inner =>
      rw [hfenced] at hfound
      obtain rfl : inner = cs := Option.some.inj hfound
      exact ⟨_, rfl⟩
    | none =>
      rw [hfenced, Option.none_or] at hfound
      rw [hfound]
      exact ⟨[], rfl⟩
  obtain ⟨rest, hrest⟩ := hcandidates
  simp only [embedded, List.isEmpty_iff, hne, if_false, List.cons_append, hrest, firstValue?, hwhole, hv]
  rfl

/-! ## The two ways -/

/-- A reply with an object in it: nothing before it opens a brace, and there is no fence. -/
theorem embedded_of_object {p o s : String} {fs : Fields} (ho : read o = .ok (.object fs))
    (hp : '\x7b' ∉ p.toList) (hfence : ¬ fence <:+: (p ++ o ++ s).toList)
    (hjson : ¬ IsJson (Text.trim (p ++ o ++ s))) (hlimits : WithinLimits (Text.trim (p ++ o ++ s))) :
    embedded (p ++ o ++ s) = .ok (.object fs) := by
  obtain ⟨front, body, back, hchars, hfront, -, hbody⟩ := exists_valueText ho
  have hwhole : (p ++ o ++ s).toList = (p.toList ++ front) ++ (body ++ (back ++ s.toList)) := by
    simp [hchars]
  have htrim := hbody.solid.trimChars_eq (p.toList ++ front) (back ++ s.toList)
  rw [← hwhole] at htrim
  have hbrace : '\x7b' ∉ (p.toList ++ front).dropWhile Text.isBlank := by
    intro hmem
    rcases List.mem_append.mp ((List.dropWhile_sublist _).mem hmem) with hmem | hmem
    · exact hp hmem
    · exact absurd (List.all_eq_true.mp hfront _ hmem) (by decide)
  have hnone : fenced? (Text.trimChars Text.isBlank (p ++ o ++ s).toList) = none := by
    rw [fenced?, Text.cutAt?_eq_none fun hpart => hfence (hpart.trans (trimChars_within _ _))]
    rfl
  rw [htrim] at hnone
  refine embedded_of_candidate htrim ?_ hjson hlimits ?_ hbody.value?_eq
  · obtain ⟨c, behind, rfl, -⟩ := hbody.solid.first
    simp
  · rw [hnone, Option.none_or, hbody.objectIn?_eq hbrace]

/-- The names that the language of a fence may go by, and none. -/
def tags : List (List Char) := ["json".toList, "JSON".toList, []]

/-- A value between fences. -/
def fencedText (tag v : List Char) : List Char := fence ++ (tag ++ '\n' :: (v ++ '\n' :: fence))

theorem dropTag_append {tag : List Char} (h : tag ∈ tags) (rest : List Char) :
    dropTag (tag ++ '\n' :: rest) = '\n' :: rest := by
  simp only [tags, List.mem_cons, List.not_mem_nil, or_false] at h
  rcases h with rfl | rfl | rfl
  · simp [dropTag, Text.after?]
  · simp [dropTag, Text.after?]
  · simp [dropTag, Text.after?]

theorem isSolid_fencedText (tag v : List Char) : IsSolid (fencedText tag v) where
  first := ⟨'\x60', _, rfl, by decide⟩
  last := ⟨fence ++ (tag ++ '\n' :: (v ++ '\n' :: ['\x60', '\x60'])), '\x60', by simp [fencedText, fence],
    by decide⟩

/-- No backtick stands before a fence, so that it is the first. -/
theorem cutAt?_first_fence {front : List Char} (h : '\x60' ∉ front) (rest : List Char) :
    Text.cutAt? fence (front ++ (fence ++ rest)) = some (front, rest) := by
  refine Text.cutAt?_append ?_
  intro tail hne htail hstarts
  obtain ⟨c, tail, rfl⟩ := List.exists_cons_of_ne_nil hne
  obtain ⟨z, hz⟩ := hstarts
  have hc : '\x60' = c := (List.cons.inj hz).1
  exact h (htail.subset (hc ▸ List.mem_cons_self))

/-- The next fence is the first on a line of its own behind a text without one. -/
theorem cutAt?_next_fence {v : List Char} (h : ¬ fence <:+: v) (rest : List Char) :
    Text.cutAt? fence ('\n' :: (v ++ '\n' :: (fence ++ rest))) = some ('\n' :: (v ++ ['\n']), rest) := by
  have hcut : Text.cutAt? fence (('\n' :: (v ++ ['\n'])) ++ (fence ++ rest)) =
      some ('\n' :: (v ++ ['\n']), rest) := by
    refine Text.cutAt?_append ?_
    intro tail hne htail hstarts
    have hline : '\n' ∉ fence := by decide
    rw [← List.cons_append] at htail
    obtain rfl | ⟨front, rfl, hfront⟩ := List.suffix_concat_iff.mp htail
    · exact hne rfl
    · rw [List.append_assoc, List.singleton_append] at hstarts
      have hstart := Text.prefix_of_prefix_append hline hstarts
      obtain rfl | hfront := List.suffix_cons_iff.mp hfront
      · exact absurd hstart (by simp [fence])
      · exact h (hstart.isInfix.trans hfront.isInfix)
  simpa using hcut

/-- A text whose line ends behind a fence and its tag is no JSON. -/
theorem not_isJson_of_fencedText {s : String} {front back tag v : List Char} (htag : tag ∈ tags)
    (hs : s.toList = front ++ (fencedText tag v ++ back)) : ¬ IsJson s := by
  intro hjson
  have hticks := openTick?_of_isJson hjson
  have hline : ∀ tick rest, openTick? tick (fence ++ (tag ++ '\n' :: rest)) = none := by
    intro tick rest
    simp only [tags, List.mem_cons, List.not_mem_nil, or_false] at htag
    rcases htag with rfl | rfl | rfl
    · simp [openTick?, fence]
    · simp [openTick?, fence]
    · simp [openTick?, fence]
  have hbroken : fencedText tag v ++ back = fence ++ (tag ++ '\n' :: (v ++ '\n' :: fence ++ back)) := by
    simp [fencedText]
  rw [hs, openTick?_append, hbroken] at hticks
  cases hfront : openTick? false front with
  | none => simp [hfront] at hticks
  | some tick =>
    rw [hfront, Option.bind_some, hline] at hticks
    cases hticks

/-- The text between the first fence and the next, without the blanks at its ends. -/
theorem ValueText.fenced?_eq {x : Value} {depth : Nat} {before v front body back tag : List Char}
    (h : ValueText depth x body back) (hv : v = front ++ (body ++ back)) (hfront : front.all isSpace = true)
    (hback : back.all isSpace = true) (hbefore : '\x60' ∉ before) (htag : tag ∈ tags) (hfence : ¬ fence <:+: v)
    (behind : List Char) : fenced? (before ++ (fencedText tag v ++ behind)) = some body := by
  have hinner : Text.trimChars Text.isBlank ('\n' :: (v ++ ['\n'])) = body := by
    have hblank : ('\n' :: front).all Text.isBlank = true := by
      rw [List.all_cons, all_isBlank_of_spaces hfront]
      rfl
    have hblank' : (back ++ ['\n']).all Text.isBlank = true := by
      rw [List.all_append, all_isBlank_of_spaces hback]
      rfl
    simpa [hv] using h.solid.trimChars_blank hblank hblank'
  have htext : fencedText tag v ++ behind = fence ++ (tag ++ '\n' :: (v ++ '\n' :: (fence ++ behind))) := by
    simp [fencedText]
  rw [htext, fenced?, cutAt?_first_fence hbefore]
  simp only [Option.bind_eq_bind, Option.bind_some, dropTag_append htag, cutAt?_next_fence hfence, hinner]

/-- A reply with a value between fences. -/
def fencedReply (p tag v s : String) : String :=
  p ++ "\x60\x60\x60" ++ tag ++ "\n" ++ v ++ "\n\x60\x60\x60" ++ s

theorem toList_fencedReply (p tag v s : String) :
    (fencedReply p tag v s).toList = p.toList ++ (fencedText tag.toList v.toList ++ s.toList) := by
  simp [fencedReply, fencedText, fence]

/-- The value is found if no backtick stands before the fences and none of them inside. -/
theorem embedded_of_fenced {p tag v s : String} {x : Value} (htag : tag.toList ∈ tags) (hv : read v = .ok x)
    (hfence : ¬ fence <:+: v.toList) (hp : '\x60' ∉ p.toList)
    (hlimits : WithinLimits (Text.trim (fencedReply p tag v s))) :
    embedded (fencedReply p tag v s) = .ok x := by
  obtain ⟨front, body, back, hchars, hfront, hback, hbody⟩ := exists_valueText hv
  have htrim := (isSolid_fencedText tag.toList v.toList).trimChars_eq p.toList s.toList
  rw [← toList_fencedReply] at htrim
  have hclean : (Text.trim (fencedReply p tag v s)).toList = p.toList.dropWhile Text.isBlank ++
      (fencedText tag.toList v.toList ++ (s.toList.reverse.dropWhile Text.isBlank).reverse) := by
    rw [Text.trim, String.toList_ofList, htrim]
  have hjson := not_isJson_of_fencedText htag hclean
  refine embedded_of_candidate htrim ?_ hjson hlimits ?_ hbody.value?_eq
  · simp [fencedText, fence]
  · have htick : '\x60' ∉ p.toList.dropWhile Text.isBlank :=
      fun hmem => hp ((List.dropWhile_sublist _).mem hmem)
    rw [hbody.fenced?_eq hchars hfront hback htick htag hfence, Option.some_or]

/-- An object is recovered from a reply whatever else stands in its strings and behind it, and a value
between fences is, if the reply as a whole breaks no limit of the reader. -/
theorem embedded_recovers :
    (∀ (p o s : String) (fs : Fields), read o = .ok (.object fs) → '\x7b' ∉ p.toList →
      ¬ fence <:+: (p ++ o ++ s).toList → ¬ IsJson (Text.trim (p ++ o ++ s)) →
      WithinLimits (Text.trim (p ++ o ++ s)) → embedded (p ++ o ++ s) = .ok (.object fs)) ∧
    (∀ (p tag v s : String) (x : Value), tag ∈ ["json", "JSON", ""] → read v = .ok x →
      ¬ fence <:+: v.toList → '\x60' ∉ p.toList → WithinLimits (Text.trim (fencedReply p tag v s)) →
      embedded (fencedReply p tag v s) = .ok x) := by
  constructor
  · intro p o s fs ho hp hfence hjson hlimits
    exact embedded_of_object ho hp hfence hjson hlimits
  · intro p tag v s x htag hv hfence hp hlimits
    have htag' : tag.toList ∈ tags := List.mem_map_of_mem htag
    exact embedded_of_fenced htag' hv hfence hp hlimits

/-- An object whose string holds a brace and a quote, before a brace that nothing opened; and a list between
fences, behind a brace that nothing closes. -/
theorem embedded_recovers_brace :
    embedded ("Here: " ++ "\x7b\"a\": \"\x7d\\\"\"\x7d" ++ " \x7d \"") = .ok (.object [("a", .str "\x7d\"")]) ∧
    embedded (fencedReply "\x7b " "json" " [1, 2]" " done") = .ok (.list [.int 1, .int 2]) := by
  constructor
  · have hread : read (Text.trim ("Here: " ++ "\x7b\"a\": \"\x7d\\\"\"\x7d" ++ " \x7d \"")) =
      .error ⟨.value, 0⟩ := by cbv
    exact embedded_recovers.1 _ _ _ _ (by cbv) (by decide) (by decide +kernel) (not_isJson_of_refused hread)
      (withinLimits_of_refused hread rfl)
  · have hread : read (Text.trim (fencedReply "\x7b " "json" " [1, 2]" " done")) = .error ⟨.key, 2⟩ := by cbv
    exact embedded_recovers.2 _ _ _ _ _ (by decide) (by cbv) (by decide +kernel) (by decide)
      (withinLimits_of_refused hread rfl)

end LeadFlow.Json
