import LeadFlow.Proofs.Message.Written
import LeadFlow.Proofs.Text.Spelling
import LeadFlow.Proofs.Value.WellFormed

set_option autoImplicit false

/-!
# Message: tags named like a field

A tag that is not built in is looked up by its lower form, and then by the camel-case spelling of that.  So a
tag named like a key of the knowledge base finds the field if the key has no capitals, or if its capitals
stand where words start (`findsItself`).  Any other key is out of reach.  Where no key is like the name, the
tag leaves nothing behind.

Main statement: `fill_named`.
-/

namespace LeadFlow.Message

open Text (isKeyChar camelCase)

/-- A tag with nothing but its name between the braces. -/
def tagText (name : String) : String := "\x7b\x7b" ++ name ++ "\x7d\x7d"

/-- The characters of a tag name, of which there is one at least. -/
structure IsName (class_ : Char → Bool) (name : String) : Prop where
  ne_nil : name.toList ≠ []
  all : ∀ c ∈ name.toList, class_ c = true

/-- A template that is one tag comes to its value. -/
theorem fill_tagText (lead : Lead) (sender : Sender) {name : String} (h : IsName isNameChar name) :
    fill lead sender (tagText name) = tagValue lead sender name := by
  have hchars : (tagText name).toList = '\x7b' :: '\x7b' :: (name.toList ++ ['\x7d', '\x7d']) := by
    simp [tagText]
  have htag : tagAt? (tagText name).toList = some (name.toList, []) := by
    have hread := tagAt?_chars ⟨[], name.toList, [], by simp, h.ne_nil, h.all, by simp⟩ []
    rw [hchars]
    simpa [Tag.chars, Tag.inner] using hread
  rw [fill, fillChars_of_tagAt? _ htag]
  simp

/-- No built-in tag has the name, in whatever case. -/
def NotBuiltIn (name : String) : Prop := ∀ tag ∈ builtIn.map Prod.fst, Text.lower tag ≠ Text.lower name

theorem notBuiltIn_iff {name : String} : NotBuiltIn name ↔ builtIn.lookup (Text.lower name) = none := by
  have hsmall : ∀ tag ∈ builtIn.map Prod.fst, Text.lower tag = tag := by decide +kernel
  rw [List.lookup_eq_none_iff]
  constructor
  · intro h x hx
    have hmem := List.mem_map_of_mem (f := Prod.fst) hx
    have hne := h x.1 hmem
    rw [hsmall x.1 hmem] at hne
    simpa using hne.symm
  · intro h tag htag
    obtain ⟨x, hx, rfl⟩ := List.mem_map.mp htag
    rw [hsmall x.1 htag]
    exact (bne_iff_ne.mp (h x hx)).symm

theorem tagValue_of_notBuiltIn (lead : Lead) (sender : Sender) {name : String} (h : NotBuiltIn name) :
    tagValue lead sender name = (Lead.spelled lead.knowledgeBase (Text.lower name)).copy := by
  rw [tagValue, notBuiltIn_iff.mp h]
  rfl

/-! ## Keys that find themselves -/

/-- A tag named like the key finds it: the key has no capitals, or has them where words start. -/
def findsItself (key : String) : Bool :=
  key.toList.all (fun c => !c.isUpper) || Text.isRespelled key.toList

theorem isNameChar_of_isKeyChar {c : Char} (h : isKeyChar c = true) : isNameChar c = true := by
  rw [isKeyChar] at h
  simp only [isNameChar, h, Bool.true_or]

section Keys

variable {key : String} (hkey : IsName isKeyChar key)

include hkey

theorem lower_eq_ofList : Text.lower key = .ofList (key.toList.map Char.toLower) := by
  rw [Text.lower, Text.lowerChars, Text.lowerFrom_ascii fun c hc => Text.ascii_of_isKeyChar (hkey.all c hc)]

theorem lower_eq_iff : Text.lower key = key ↔ key.toList.all (fun c => !c.isUpper) = true := by
  have hcase := fun c hc => Text.hasCase_ascii c (Text.ascii_of_isKeyChar (hkey.all c hc))
  have hkept : key.toList.map Char.toLower = key.toList.map id ↔ ∀ c ∈ key.toList, c.toLower = id c :=
    List.map_inj_left
  rw [List.map_id] at hkept
  rw [lower_eq_ofList hkey, ← String.toList_inj, String.toList_ofList, hkept, List.all_eq_true]
  refine forall₂_congr fun c hc => ?_
  rw [Bool.not_eq_true']
  exact (hcase c hc).lower_eq_iff

theorem camelCase_lower_eq_iff : camelCase (Text.lower key) = key ↔ Text.isRespelled key.toList = true := by
  rw [camelCase, lower_eq_ofList hkey, ← Text.camelChars_lower_eq_iff hkey.all, ← String.toList_inj,
    String.toList_ofList, String.toList_ofList]

theorem lower_lower : Text.lower (Text.lower key) = Text.lower key := by
  have hcase := fun c hc => Text.hasCase_ascii c (Text.ascii_of_isKeyChar (hkey.all c hc))
  have hlower : IsName isKeyChar (Text.lower key) := by
    rw [lower_eq_ofList hkey]
    refine ⟨by simpa using hkey.ne_nil, fun c hc => ?_⟩
    obtain ⟨d, hd, rfl⟩ := List.mem_map.mp (by simpa using hc)
    exact (hcase d hd).isKeyChar_lower.trans (hkey.all d hd)
  rw [lower_eq_iff hlower, lower_eq_ofList hkey, String.toList_ofList, List.all_map, List.all_eq_true]
  intro c hc
  rw [Function.comp_apply, (hcase c hc).isUpper_lower]
  rfl

/-- The field that a key finds, if no other key is like it but for letter case. -/
theorem spelled_lower {fields : Fields} {v : Value} (hv : fields.get? key = some v)
    (honly : ∀ other, fields.has other = true → Text.lower other = Text.lower key → other = key) :
    Lead.spelled fields (Text.lower key) =
      if findsItself key then v else (fields.get? (camelCase (Text.lower key))).getD .null := by
  by_cases hsmall : Text.lower key = key
  · have hfinds : findsItself key = true := by rw [findsItself, (lower_eq_iff hkey).mp hsmall, Bool.true_or]
    rw [if_pos hfinds, hsmall, Lead.spelled, hv]
  · have hfinds : findsItself key = Text.isRespelled key.toList := by
      rw [findsItself, Bool.eq_false_iff.mpr fun h => hsmall ((lower_eq_iff hkey).mpr h), Bool.false_or]
    have hnone : fields.get? (Text.lower key) = none := by
      rw [Option.eq_none_iff_forall_ne_some]
      intro w hw
      exact hsmall (honly _ (by simp [Fields.has, hw]) (lower_lower hkey))
    rw [Lead.spelled, hnone, hfinds]
    dsimp only
    split
    · rename_i hspelled
      rw [(camelCase_lower_eq_iff hkey).mpr hspelled, hv]
      rfl
    · rfl

end Keys

/-! ## Names that no key is like -/

/-- A character without regard to letter case; an underscore is left out. -/
def foldChar (c : Char) : List Char := (Text.lowerChar (Text.upperChar c)).filter (· != '_')

/-- A name without regard to letter case and underscores. -/
def folded (name : String) : String := .ofList (name.toList.flatMap foldChar)

theorem foldChar_ascii {c : Char} (hc : c.toNat < 128) : foldChar c = [c.toLower].filter (· != '_') := by
  have hcase := Text.hasCase_ascii c hc
  rw [foldChar, Text.upperChar, if_neg (by omega), if_neg (by omega), Text.lowerChar_ascii hcase.ascii_upper,
    hcase.lower_upper]

theorem foldChar_toLower {c : Char} (hc : c.toNat < 128) : foldChar c.toLower = foldChar c := by
  have hcase := Text.hasCase_ascii c hc
  rw [foldChar_ascii hcase.ascii_lower, foldChar_ascii hc, hcase.lower_lower]

theorem foldChar_toUpper {c : Char} (hc : c.toNat < 128) : foldChar c.toUpper = foldChar c := by
  have hcase := Text.hasCase_ascii c hc
  rw [foldChar_ascii hcase.ascii_upper, foldChar_ascii hc, hcase.lower_upper]

/-- A character that the lower form of a name can have: one of a name, or the dot of a dotted capital. -/
def isWordChar (c : Char) : Bool := isNameChar c || c.toNat == 0x307

theorem isKeyChar_or_of_isWordChar {c : Char} (h : isWordChar c = true) :
    isKeyChar c = true ∨ c.toNat ∈ [0x17f, 0x212a, 0x130, 0x131, 0x307] := by
  simp only [isWordChar, isNameChar, Bool.or_eq_true, beq_iff_eq, or_assoc] at h
  simpa [isKeyChar, or_assoc] using h

theorem isWordChar_of_isKeyChar {c : Char} (h : isKeyChar c = true) : isWordChar c = true := by
  simp only [isWordChar, isNameChar_of_isKeyChar h, Bool.true_or]

/-- Other forms of a character are like it. -/
structure FoldsAlike (c : Char) : Prop where
  notSigma : c.toNat ≠ 0x3a3
  lower : (Text.lowerChar c).flatMap foldChar = foldChar c
  title : (Text.titleChar c).flatMap foldChar = foldChar c
  isWordChar_lower : ∀ d ∈ Text.lowerChar c, isWordChar d = true

theorem foldsAlike_ascii {c : Char} (h : isKeyChar c = true) : FoldsAlike c := by
  have hc := Text.ascii_of_isKeyChar h
  refine ⟨by omega, ?_, ?_, ?_⟩
  · rw [Text.lowerChar_ascii hc, List.flatMap_singleton, foldChar_toLower hc]
  · rw [Text.titleChar_ascii hc, List.flatMap_singleton, foldChar_toUpper hc]
  · rw [Text.lowerChar_ascii hc, List.forall_mem_singleton]
    exact isWordChar_of_isKeyChar (((Text.hasCase_ascii c hc).isKeyChar_lower).trans h)

/-- The lower forms of the letters of names that are not ASCII, and of the dot. -/
theorem lowerChar_others : ∀ x ∈ [(0x17f, [0x17f]), (0x212a, [0x6b]), (0x130, [0x69, 0x307]),
    (0x131, [0x131]), (0x307, [0x307])], Text.lowerChar (Char.ofNat x.1) = x.2.map Char.ofNat := by
  decide +kernel

/-- Their title forms. -/
theorem titleChar_others : ∀ x ∈ [(0x17f, [0x53]), (0x212a, [0x212a]), (0x130, [0x130]),
    (0x131, [0x49]), (0x307, [0x307])], Text.titleChar (Char.ofNat x.1) = x.2.map Char.ofNat := by
  decide +kernel

theorem foldsAlike_others : ∀ n ∈ [0x17f, 0x212a, 0x130, 0x131, 0x307], FoldsAlike (Char.ofNat n) := by
  have hlower := lowerChar_others
  have htitle := titleChar_others
  simp only [List.forall_mem_cons, List.map_cons, List.map_nil] at hlower htitle
  simp only [List.forall_mem_cons]
  obtain ⟨lowS, lowK, lowI, lowDotless, lowDot, -⟩ := hlower
  obtain ⟨titleS, titleK, titleI, titleDotless, titleDot, -⟩ := htitle
  have foldS : foldChar (Char.ofNat 0x17f) = foldChar (Char.ofNat 0x53) := by decide +kernel
  have foldDotless : foldChar (Char.ofNat 0x131) = foldChar (Char.ofNat 0x49) := by decide +kernel
  have foldK : foldChar (Char.ofNat 0x212a) = foldChar (Char.ofNat 0x6b) := by
    have upperK : Text.upperChar (Char.ofNat 0x212a) = Char.ofNat 0x212a := by decide +kernel
    rw [foldChar, upperK, lowK]
    decide
  have foldI : foldChar (Char.ofNat 0x130) = foldChar (Char.ofNat 0x69) ++ foldChar (Char.ofNat 0x307) := by
    have upperI : Text.upperChar (Char.ofNat 0x130) = Char.ofNat 0x130 := by decide +kernel
    have upperDot : Text.upperChar (Char.ofNat 0x307) = Char.ofNat 0x307 := by decide +kernel
    rw [foldChar, foldChar, foldChar, upperI, upperDot, lowI, lowDot]
    decide
  exact ⟨⟨by decide, by simp [lowS], by simp [titleS, foldS], by simp [lowS]; decide⟩,
    ⟨by decide, by simp [lowK, foldK], by simp [titleK], by simp [lowK]; decide⟩,
    ⟨by decide, by simp [lowI, foldI], by simp [titleI], by simp [lowI]; decide⟩,
    ⟨by decide, by simp [lowDotless], by simp [titleDotless, foldDotless], by simp [lowDotless]; decide⟩,
    ⟨by decide, by simp [lowDot], by simp [titleDot], by simp [lowDot]; decide⟩, by simp⟩

theorem foldsAlike {c : Char} (h : isWordChar c = true) : FoldsAlike c := by
  obtain hkey | hcode := isKeyChar_or_of_isWordChar h
  · exact foldsAlike_ascii hkey
  · have hfolds := foldsAlike_others _ hcode
    rwa [Char.ofNat_toNat] at hfolds

theorem flatMap_lowerHead (cs : List Char) : (Text.lowerHead cs).flatMap foldChar = cs.flatMap foldChar := by
  induction cs with
  | nil => rfl
  | cons c cs ih =>
    by_cases hscore : c = '_'
    · subst hscore
      rw [Text.lowerHead, List.flatMap_cons, ih, List.flatMap_cons]
    · rw [Text.lowerHead.eq_2 _ _ hscore, List.flatMap_cons, List.flatMap_cons]
      split
      · rename_i hupper
        have hascii : c.toNat < 128 := by
          simp only [Char.isUpper, decide_eq_true_eq, ge_iff_le, UInt32.le_iff_toNat_le] at hupper
          have hle : c.toNat ≤ 90 := hupper.2
          omega
        rw [foldChar_toLower hascii]
      · rfl

theorem flatMap_joinWords (before : Bool) (cs : List Char) :
    (Text.joinWords before cs).flatMap foldChar = cs.flatMap foldChar := by
  induction cs generalizing before with
  | nil => rfl
  | cons c cs ih =>
    rw [Text.joinWords]
    split
    · rename_i hdrop
      obtain rfl : c = '_' := by
        simp only [Bool.and_eq_true, beq_iff_eq] at hdrop
        exact hdrop.1.1
      rw [ih, List.flatMap_cons, show foldChar '_' = [] by decide, List.nil_append]
    · rw [List.flatMap_cons, ih, List.flatMap_cons]

theorem flatMap_titleFrom (before : List Char) {cs : List Char} (hcs : ∀ c ∈ cs, isWordChar c = true) :
    (Text.titleFrom before cs).flatMap foldChar = cs.flatMap foldChar := by
  induction cs generalizing before with
  | nil => rfl
  | cons c cs ih =>
    obtain ⟨hc, hrest⟩ := List.forall_mem_cons.mp hcs
    have hfolds := foldsAlike hc
    rw [Text.titleFrom, List.flatMap_append, ih _ hrest, List.flatMap_cons]
    split
    · rw [Text.lowerAmong, if_neg hfolds.notSigma, hfolds.lower]
    · rw [hfolds.title]

section Names

variable {name : String} (hname : IsName isNameChar name)

include hname

theorem lower_eq_flatMap : (Text.lower name).toList = name.toList.flatMap Text.lowerChar := by
  rw [Text.lower, String.toList_ofList, Text.lowerChars, lowerFrom_of_isName [] hname.all]

theorem isWordChar_lower : ∀ c ∈ (Text.lower name).toList, isWordChar c = true := by
  rw [lower_eq_flatMap hname]
  intro c hc
  obtain ⟨d, hd, hc⟩ := List.mem_flatMap.mp hc
  have hfolds := foldsAlike (c := d) (by simp [isWordChar, hname.all d hd])
  exact hfolds.isWordChar_lower c hc

theorem folded_lower : folded (Text.lower name) = folded name := by
  rw [folded, folded, lower_eq_flatMap hname, List.flatMap_assoc]
  refine congrArg String.ofList (List.flatMap_congr fun c hc => ?_)
  exact (foldsAlike (c := c) (by simp [isWordChar, hname.all c hc])).lower

theorem folded_camelCase_lower : folded (camelCase (Text.lower name)) = folded name := by
  rw [← folded_lower hname, folded, folded, camelCase, String.toList_ofList, Text.camelChars]
  split
  · rfl
  · rw [flatMap_lowerHead, flatMap_joinWords, flatMap_titleFrom [] (isWordChar_lower hname)]

/-- Where no key is like the name, nothing is found. -/
theorem spelled_lower_eq_null {fields : Fields}
    (hnone : ∀ key, fields.has key = true → folded key ≠ folded name) :
    Lead.spelled fields (Text.lower name) = .null := by
  have hmissing : ∀ key, folded key = folded name → fields.get? key = none := by
    intro key hkey
    rw [Option.eq_none_iff_forall_ne_some]
    intro v hv
    exact hnone key (by simp [Fields.has, hv]) hkey
  rw [Lead.spelled, hmissing _ (folded_lower hname), hmissing _ (folded_camelCase_lower hname)]
  rfl

end Names

/-- A tag that is named like a key of the knowledge base, and like no other but for letter case, shows the
field if the key finds itself; any other key is not the spelling that is looked up, and the tag shows what
that one has.  A tag that is not like any key shows nothing. -/
theorem fill_named (lead : Lead) (sender : Sender) :
    (∀ key v, IsName isKeyChar key → NotBuiltIn key → lead.knowledgeBase.get? key = some v →
      (∀ other, lead.knowledgeBase.has other = true → Text.lower other = Text.lower key → other = key) →
        (findsItself key = true → fill lead sender (tagText key) = v.copy) ∧
        (findsItself key = false → camelCase (Text.lower key) ≠ key ∧ fill lead sender (tagText key) =
          ((lead.knowledgeBase.get? (camelCase (Text.lower key))).getD .null).copy)) ∧
      ∀ name, IsName isNameChar name → NotBuiltIn name →
        (∀ key, lead.knowledgeBase.has key = true → folded key ≠ folded name) →
          fill lead sender (tagText name) = "" := by
  constructor
  · intro key v hkey hbuiltIn hv honly
    have hname : IsName isNameChar key :=
      ⟨hkey.ne_nil, fun c hc => isNameChar_of_isKeyChar (hkey.all c hc)⟩
    rw [fill_tagText lead sender hname, tagValue_of_notBuiltIn lead sender hbuiltIn,
      spelled_lower hkey hv honly]
    refine ⟨fun hfinds => by rw [if_pos hfinds], fun hfinds => ⟨fun hcamel => ?_, ?_⟩⟩
    · rw [findsItself, (camelCase_lower_eq_iff hkey).mp hcamel, Bool.or_true] at hfinds
      cases hfinds
    · rw [if_neg (by simp [hfinds])]
  · intro name hname hbuiltIn hnone
    rw [fill_tagText lead sender hname, tagValue_of_notBuiltIn lead sender hbuiltIn,
      spelled_lower_eq_null hname hnone]
    rfl

/-! ## News of a company -/

/-- A lead with fields under keys of three kinds. -/
def newsLead : Lead :=
  { (Inhabited.default : Lead) with
    knowledgeBase :=
      [("companyNews", .str "Series B"), ("q1Goals", .str "Growth"), ("main_tool", .str "Excel")] }

theorem has_newsLead {P : String → Prop} (h : ∀ key ∈ ["companyNews", "q1Goals", "main_tool"], P key) :
    ∀ key, newsLead.knowledgeBase.has key = true → P key := by
  intro key hkey
  refine h key ?_
  by_contra hnot
  have hnone : newsLead.knowledgeBase.get? key = none := Fields.get?_eq_none_iff.mpr hnot
  rw [Fields.has, hnone] at hkey
  cases hkey

theorem isName_of_all {class_ : Char → Bool} {name : String}
    (h : name.toList ≠ [] ∧ name.toList.all class_ = true) : IsName class_ name :=
  ⟨h.1, List.all_eq_true.mp h.2⟩

/-- A capital within a word keeps a field out of reach, and one that starts a word does not. -/
theorem fill_named_companyNews :
    fill newsLead .blank (tagText "companyNews") = "" ∧
      fill newsLead .blank (tagText "q1Goals") = "Growth" ∧
      fill newsLead .blank (tagText "main_tool") = "Excel" ∧
      fill newsLead .blank (tagText "nickname") = "" := by
  obtain ⟨hkeys, hnames⟩ := fill_named newsLead .blank
  have hnews := hkeys "companyNews" (.str "Series B") (isName_of_all (by decide +kernel))
    (notBuiltIn_iff.mpr (by decide +kernel)) rfl (has_newsLead (by decide +kernel))
  have hgoals := hkeys "q1Goals" (.str "Growth") (isName_of_all (by decide +kernel))
    (notBuiltIn_iff.mpr (by decide +kernel)) rfl (has_newsLead (by decide +kernel))
  have htool := hkeys "main_tool" (.str "Excel") (isName_of_all (by decide +kernel))
    (notBuiltIn_iff.mpr (by decide +kernel)) rfl (has_newsLead (by decide +kernel))
  have hnone := hnames "nickname" (isName_of_all (by decide +kernel))
    (notBuiltIn_iff.mpr (by decide +kernel)) (has_newsLead (by decide +kernel))
  refine ⟨?_, hgoals.1 (by decide +kernel), htool.1 (by decide +kernel), hnone⟩
  rw [(hnews.2 (by decide +kernel)).2]
  decide +kernel

end LeadFlow.Message
