import LeadFlow.Proofs.Json.Tokens
import LeadFlow.Json.Embedded
import Mathlib

set_option autoImplicit false

/-!
# Json: the extent of a value

The reader takes a value off the front of its input and gives the rest.  What it takes is a text of its
own: read with less behind it, or with nothing, it gives the same value (`ValueText.reads`).  Braces inside
of it are closed again, so that a scan goes over it (`ValueText.neutral`), and from the opening brace of an
object to the brace that closes it and no further (`ValueText.braced`).

Main statement: `value_takes`, by induction over the reader, for values, items and members at once.
-/

namespace LeadFlow.Json

/-! ## Values -/

/-- The text of a value, with the input behind it. -/
structure ValueText (depth : Nat) (v : Value) (body rest : List Char) : Prop where
  neutral : Neutral body
  solid : IsSolid body
  braced : ∀ fs, v = .object fs → ∃ inner, body = '\x7b' :: (inner ++ ['\x7d']) ∧ Neutral inner
  /-- enough steps for the text are enough, and the input may end earlier -/
  reads : ∀ fuel x, 2 * body.length ≤ fuel → x <+: rest → value fuel depth (body ++ x) = .ok (v, x)

/-- With so many steps a value takes a text of its own. -/
def ValuesTake (fuel : Nat) : Prop :=
  ∀ depth cs v rest, value fuel depth cs = .ok (v, rest) →
    ∃ body, cs = body ++ rest ∧ ValueText depth v body rest

/-- With so many steps the items of a list take a text up to the closing bracket. -/
def ItemsTake (fuel : Nat) : Prop :=
  ∀ depth cs vs rest, items fuel depth cs = .ok (vs, rest) →
    ∃ body, cs = body ++ ']' :: rest ∧ Neutral body ∧ ∀ fuel' x, 2 * body.length < fuel' → x <+: rest →
      items fuel' depth (body ++ ']' :: x) = .ok (vs, x)

/-- With so many steps the fields of an object take a text up to the closing brace. -/
def MembersTake (fuel : Nat) : Prop :=
  ∀ depth acc cs fs rest, members fuel depth acc cs = .ok (fs, rest) →
    ∃ body, cs = body ++ '\x7d' :: rest ∧ Neutral body ∧ ∀ fuel' x, 2 * body.length < fuel' → x <+: rest →
      members fuel' depth acc (body ++ '\x7d' :: x) = .ok (fs, x)

/-- Nothing but a numeral starts with a minus or a digit. -/
theorem value_of_numeral {c : Char} (h : (decide (c = '-') || c.isDigit) = true) (fuel depth : Nat)
    (cs : List Char) : value (fuel + 1) depth (c :: cs) = numeral (c :: cs) := by
  have hne : ∀ d : Char, (decide (d = '-') || d.isDigit) = false → c ≠ d := by
    rintro d hd rfl
    rw [hd] at h
    cases h
  have hquote := hne '"' (by decide)
  have hbracket := hne '[' (by decide)
  have hbrace := hne '\x7b' (by decide)
  have hn := hne 'n' (by decide)
  have ht := hne 't' (by decide)
  have hf := hne 'f' (by decide)
  have hN := hne 'N' (by decide)
  have hI := hne 'I' (by decide)
  unfold value
  split
  · rename_i heq
    cases heq
  · rename_i heq
    exact absurd (List.cons.inj heq).1 hquote
  · rename_i heq
    exact absurd (List.cons.inj heq).1 hbracket
  · rename_i heq
    exact absurd (List.cons.inj heq).1 hbrace
  · rename_i heq
    obtain ⟨rfl, -⟩ := List.cons.inj heq
    rw [if_pos h]
    simp [word?, hn.symm, ht.symm, hf.symm, hN.symm, hI.symm]

/-- Words and numerals: a text of plain characters, read in one step. -/
theorem ValueText.of_plain {depth : Nat} {v : Value} {body rest : List Char} (hne : body ≠ [])
    (hplain : body.all isPlain = true) (hv : ∀ fs, v ≠ .object fs)
    (hreads : ∀ fuel x, x <+: rest → value (fuel + 1) depth (body ++ x) = .ok (v, x)) :
    ValueText depth v body rest where
  neutral := neutral_of_plain hplain
  solid := isSolid_of_plain hne hplain
  braced := fun fs hfs => absurd hfs (hv fs)
  reads := by
    intro fuel x hfuel hx
    have hlength := List.length_pos_of_ne_nil hne
    obtain ⟨fuel, rfl⟩ : ∃ n, fuel = n + 1 := Nat.exists_eq_add_one_of_ne_zero (by omega)
    exact hreads fuel x hx

/-- A string is a value. -/
theorem ValueText.of_string {depth : Nat} {s : String} {inner rest : List Char} (hinner : Quiet inner)
    (hreads : ∀ x, x <+: rest → string ('"' :: (inner ++ '"' :: x)) = .ok (s, x)) :
    ValueText depth (.str s) ('"' :: (inner ++ ['"'])) rest where
  neutral := hinner.quoted
  solid := ⟨⟨'"', _, rfl, by decide⟩, ⟨'"' :: inner, '"', rfl, by decide⟩⟩
  braced := by
    intro fs hfs
    cases hfs
  reads := by
    intro fuel x hfuel hx
    simp only [List.length_cons] at hfuel
    obtain ⟨fuel, rfl⟩ : ∃ n, fuel = n + 1 := Nat.exists_eq_add_one_of_ne_zero (by omega)
    simp [value, hreads x hx, Except.map]

/-- A list is a value: an opening bracket, and items or none. -/
theorem ValueText.of_list {depth : Nat} {vs : List Value} {inner rest : List Char} (hinner : Neutral inner)
    (hreads : ∀ fuel x, 2 * inner.length < fuel → x <+: rest →
      value (fuel + 1) depth ('[' :: (inner ++ ']' :: x)) = .ok (.list vs, x)) :
    ValueText depth (.list vs) ('[' :: (inner ++ [']'])) rest where
  neutral := .cons (by decide) (by decide) (by decide) (by decide) (by decide)
    (hinner.append (neutral_of_plain (by decide)))
  solid := ⟨⟨'[', _, rfl, by decide⟩, ⟨'[' :: inner, ']', rfl, by decide⟩⟩
  braced := by
    intro fs hfs
    cases hfs
  reads := by
    intro fuel x hfuel hx
    simp only [List.length_cons, List.length_append, List.length_nil] at hfuel
    obtain ⟨fuel, rfl⟩ : ∃ n, fuel = n + 1 := Nat.exists_eq_add_one_of_ne_zero (by omega)
    simpa using hreads fuel x (by omega) hx

/-- An object is a value: an opening brace, and fields or none. -/
theorem ValueText.of_object {depth : Nat} {fs : Fields} {inner rest : List Char} (hinner : Neutral inner)
    (hreads : ∀ fuel x, 2 * inner.length < fuel → x <+: rest →
      value (fuel + 1) depth ('\x7b' :: (inner ++ '\x7d' :: x)) = .ok (.object fs, x)) :
    ValueText depth (.object fs) ('\x7b' :: (inner ++ ['\x7d'])) rest where
  neutral := hinner.braced
  solid := ⟨⟨'\x7b', _, rfl, by decide⟩, ⟨'\x7b' :: inner, '\x7d', rfl, by decide⟩⟩
  braced := fun _ _ => ⟨inner, rfl, hinner⟩
  reads := by
    intro fuel x hfuel hx
    simp only [List.length_cons, List.length_append, List.length_nil] at hfuel
    obtain ⟨fuel, rfl⟩ : ∃ n, fuel = n + 1 := Nat.exists_eq_add_one_of_ne_zero (by omega)
    simpa using hreads fuel x (by omega) hx

/-- Whether a closing character comes first does not hang on what is behind it. -/
theorem append_cons_ne {c : Char} {body rest : List Char} (h : ∀ r, body ++ c :: rest = c :: r → False)
    (x r : List Char) : body ++ c :: x ≠ c :: r := by
  intro heq
  cases body with
  | nil => exact h rest rfl
  | cons d body =>
    obtain ⟨rfl, -⟩ := List.cons.inj heq
    exact h _ rfl

/-- A list that has items. -/
theorem value_of_items {fuel depth : Nat} {cs inside rest : List Char} {vs : List Value}
    (hskip : skip cs = inside) (hopen : ∀ r, inside ≠ ']' :: r)
    (hitems : items fuel depth inside = .ok (vs, rest)) :
    value (fuel + 1) (depth + 1) ('[' :: cs) = .ok (.list vs, rest) := by
  simp only [value, hskip]
  rw [hitems]
  rfl

/-- An object that has fields. -/
theorem value_of_members {fuel depth : Nat} {cs inside rest : List Char} {fs : Fields}
    (hskip : skip cs = inside) (hopen : ∀ r, inside ≠ '\x7d' :: r)
    (hmembers : members fuel depth [] inside = .ok (fs, rest)) :
    value (fuel + 1) (depth + 1) ('\x7b' :: cs) = .ok (.object fs, rest) := by
  simp only [value, hskip]
  rw [hmembers]
  rfl

/-- A list is a value. -/
theorem list_takes {fuel depth : Nat} {behind rest : List Char} {v : Value} (hitems : ItemsTake fuel)
    (h : value (fuel + 1) depth ('[' :: behind) = .ok (v, rest)) :
    ∃ body, '[' :: behind = body ++ rest ∧ ValueText depth v body rest := by
  cases depth with
  | zero => cases h
  | succ depth =>
    obtain ⟨spaces, inside, hskip, rfl, hspaces, hless⟩ := skip_takes behind
    by_cases hclose : ∃ r, inside = ']' :: r
    · obtain ⟨r, rfl⟩ := hclose
      simp only [value, hskip] at h
      obtain ⟨rfl, rfl⟩ := Prod.mk.inj (Except.ok.inj h)
      refine ⟨'[' :: (spaces ++ [']']), by simp, .of_list (neutral_of_spaces hspaces) ?_⟩
      intro fuel' x _ hx
      simp only [value, hless (']' :: x) ((List.prefix_cons_inj ']').mpr hx)]
    · have hopen : ∀ r, inside = ']' :: r → False := fun r hr => hclose ⟨r, hr⟩
      simp only [value, hskip] at h
      cases hread : items fuel depth inside with
      | error e => simp [hread, Except.map] at h
      | ok y =>
        obtain ⟨vs, rest'⟩ := y
        rw [hread] at h
        obtain ⟨rfl, rfl⟩ := Prod.mk.inj (Except.ok.inj h)
        obtain ⟨body, rfl, hbody, hreads⟩ := hitems depth inside vs _ hread
        refine ⟨'[' :: (spaces ++ body ++ [']']), by simp,
          .of_list ((neutral_of_spaces hspaces).append hbody) ?_⟩
        intro fuel' x hfuel hx
        rw [List.length_append] at hfuel
        have hskip' := hless (body ++ ']' :: x) (prefix_behind body ']' hx)
        rw [List.append_assoc]
        exact value_of_items hskip' (append_cons_ne hopen x) (hreads fuel' x (by omega) hx)

/-- An object is a value. -/
theorem object_takes {fuel depth : Nat} {behind rest : List Char} {v : Value} (hmembers : MembersTake fuel)
    (h : value (fuel + 1) depth ('\x7b' :: behind) = .ok (v, rest)) :
    ∃ body, '\x7b' :: behind = body ++ rest ∧ ValueText depth v body rest := by
  cases depth with
  | zero => cases h
  | succ depth =>
    obtain ⟨spaces, inside, hskip, rfl, hspaces, hless⟩ := skip_takes behind
    by_cases hclose : ∃ r, inside = '\x7d' :: r
    · obtain ⟨r, rfl⟩ := hclose
      simp only [value, hskip] at h
      obtain ⟨rfl, rfl⟩ := Prod.mk.inj (Except.ok.inj h)
      refine ⟨'\x7b' :: (spaces ++ ['\x7d']), by simp, .of_object (neutral_of_spaces hspaces) ?_⟩
      intro fuel' x _ hx
      simp only [value, hless ('\x7d' :: x) ((List.prefix_cons_inj '\x7d').mpr hx)]
    · have hopen : ∀ r, inside = '\x7d' :: r → False := fun r hr => hclose ⟨r, hr⟩
      simp only [value, hskip] at h
      cases hread : members fuel depth [] inside with
      | error e => simp [hread, Except.map] at h
      | ok y =>
        obtain ⟨fs, rest'⟩ := y
        rw [hread] at h
        obtain ⟨rfl, rfl⟩ := Prod.mk.inj (Except.ok.inj h)
        obtain ⟨body, rfl, hbody, hreads⟩ := hmembers depth [] inside fs _ hread
        refine ⟨'\x7b' :: (spaces ++ body ++ ['\x7d']), by simp,
          .of_object ((neutral_of_spaces hspaces).append hbody) ?_⟩
        intro fuel' x hfuel hx
        rw [List.length_append] at hfuel
        have hskip' := hless (body ++ '\x7d' :: x) (prefix_behind body '\x7d' hx)
        rw [List.append_assoc]
        exact value_of_members hskip' (append_cons_ne hopen x) (hreads fuel' x (by omega) hx)

/-- A word is a value. -/
theorem word_takes {depth : Nat} {w cs rest : List Char} {v : Value} (h : word? w cs = some rest)
    (hne : w ≠ []) (hplain : w.all isPlain = true) (hv : ∀ fs, v ≠ .object fs)
    (hreads : ∀ fuel x, value (fuel + 1) depth (w ++ x) = .ok (v, x)) :
    ∃ body, cs = body ++ rest ∧ ValueText depth v body rest :=
  ⟨w, word?_eq_some_iff.mp h, .of_plain hne hplain hv fun fuel x _ => hreads fuel x⟩

theorem valuesTake_succ {fuel : Nat} (hitems : ItemsTake fuel) (hmembers : MembersTake fuel) :
    ValuesTake (fuel + 1) := by
  intro depth cs v rest h
  have hwhole := h
  unfold value at h
  split at h
  · cases h
  · -- a string
    rename_i behind
    cases hstring : string ('"' :: behind) with
    | error e => simp [hstring, Except.map] at h
    | ok y =>
      obtain ⟨s, rest'⟩ := y
      rw [hstring] at h
      obtain ⟨rfl, rfl⟩ := Prod.mk.inj (Except.ok.inj h)
      obtain ⟨inner, rfl, hinner, hreads⟩ := string_takes hstring
      exact ⟨'"' :: (inner ++ ['"']), by simp, .of_string hinner hreads⟩
  · exact list_takes hitems hwhole
  · exact object_takes hmembers hwhole
  · -- a word or a numeral
    rename_i c behind _ _ _
    split at h
    · rename_i hword
      obtain ⟨rfl, rfl⟩ := Prod.mk.inj (Except.ok.inj h)
      exact word_takes hword (by simp) (by decide) (by simp) fun _ _ => rfl
    · rename_i hword _
      obtain ⟨rfl, rfl⟩ := Prod.mk.inj (Except.ok.inj h)
      exact word_takes hword (by simp) (by decide) (by simp) fun _ _ => rfl
    · rename_i hword _ _
      obtain ⟨rfl, rfl⟩ := Prod.mk.inj (Except.ok.inj h)
      exact word_takes hword (by simp) (by decide) (by simp) fun _ _ => rfl
    · rename_i hword _ _ _
      obtain ⟨rfl, rfl⟩ := Prod.mk.inj (Except.ok.inj h)
      exact word_takes hword (by simp) (by decide) (by simp) fun _ _ => rfl
    · rename_i hword _ _ _ _
      obtain ⟨rfl, rfl⟩ := Prod.mk.inj (Except.ok.inj h)
      exact word_takes hword (by simp) (by decide) (by simp) fun _ _ => rfl
    · split at h
      · rename_i hfirst
        obtain ⟨body, hne, hbody, hless⟩ := numeral_takes h
        refine ⟨body, hbody, .of_plain hne hless.plain (numeral_ne_object h) ?_⟩
        intro fuel' x hx
        obtain ⟨d, body, rfl⟩ := List.exists_cons_of_ne_nil hne
        obtain ⟨rfl, -⟩ := List.cons.inj hbody
        rw [List.cons_append, value_of_numeral hfirst]
        exact hless.less x hx
      · cases h

theorem itemsTake_succ {fuel : Nat} (hvalues : ValuesTake fuel) (hitems : ItemsTake fuel) :
    ItemsTake (fuel + 1) := by
  intro depth cs vs rest h
  simp only [items] at h
  cases hvalue : value fuel depth cs with
  | error e => simp [hvalue] at h
  | ok y =>
    obtain ⟨v, behind⟩ := y
    simp only [hvalue] at h
    obtain ⟨first, rfl, hfirst⟩ := hvalues depth cs v behind hvalue
    obtain ⟨spaces, inside, hskip, rfl, hspaces, hless⟩ := skip_takes behind
    rw [hskip] at h
    have hfront := hfirst.neutral.append (neutral_of_spaces hspaces)
    split at h
    · -- the last item
      obtain ⟨rfl, rfl⟩ := Prod.mk.inj (Except.ok.inj h)
      refine ⟨first ++ spaces, by simp, hfront, ?_⟩
      intro fuel' x hfuel hx
      rw [List.length_append] at hfuel
      obtain ⟨fuel', rfl⟩ : ∃ n, fuel' = n + 1 := Nat.exists_eq_add_one_of_ne_zero (by omega)
      have hread := hfirst.reads fuel' (spaces ++ ']' :: x) (by omega) (prefix_behind spaces ']' hx)
      have hclose := hless (']' :: x) ((List.prefix_cons_inj ']').mpr hx)
      simp only [List.append_assoc, items, hread, hclose]
    · -- another item behind a comma
      rename_i behind'
      obtain ⟨spaces', inside', hskip', rfl, hspaces', hless'⟩ := skip_takes behind'
      rw [hskip'] at h
      cases hmore : items fuel depth inside' with
      | error e => simp [hmore, Except.map] at h
      | ok y =>
        obtain ⟨ws, rest'⟩ := y
        rw [hmore] at h
        obtain ⟨rfl, rfl⟩ := Prod.mk.inj (Except.ok.inj h)
        obtain ⟨body, rfl, hbody, hreads⟩ := hitems depth inside' ws _ hmore
        have hcomma : Neutral [','] := neutral_of_plain (by decide)
        refine ⟨first ++ spaces ++ ([','] ++ (spaces' ++ body)), by simp,
          hfront.append (hcomma.append ((neutral_of_spaces hspaces').append hbody)), ?_⟩
        intro fuel' x hfuel hx
        simp only [List.length_append, List.length_singleton] at hfuel
        obtain ⟨fuel', rfl⟩ : ∃ n, fuel' = n + 1 := Nat.exists_eq_add_one_of_ne_zero (by omega)
        have hbehind : body ++ ']' :: x <+: body ++ ']' :: rest' := prefix_behind body ']' hx
        have hbehind' := (List.prefix_append_right_inj spaces').mpr hbehind
        have hread := hfirst.reads fuel' _ (by omega) (prefix_behind spaces ',' hbehind')
        have hcomma := hless _ ((List.prefix_cons_inj ',').mpr hbehind')
        have hlist : first ++ spaces ++ ([','] ++ (spaces' ++ body)) ++ ']' :: x =
            first ++ (spaces ++ ',' :: (spaces' ++ (body ++ ']' :: x))) := by simp
        rw [hlist]
        simp only [items, hread, hcomma, hless' _ hbehind, hreads fuel' x (by omega) hx]
        rfl
    · cases h

/-- How an object goes on behind a value. -/
def moreMembers (fuel depth : Nat) (fs : Fields) : List Char → Step Fields
  | '\x7d' :: rest => .ok (fs, rest)
  | ',' :: rest => members fuel depth fs (skip rest)
  | rest => .error (.comma, rest)

/-- A field is a key, a colon and a value. -/
theorem members_of_field (acc : Fields) {fuel depth : Nat} {cs rest₁ rest₂ rest₃ : List Char} {k : String}
    {v : Value} (hkey : string ('"' :: cs) = .ok (k, rest₁)) (hcolon : skip rest₁ = ':' :: rest₂)
    (hvalue : value fuel depth (skip rest₂) = .ok (v, rest₃)) :
    members (fuel + 1) depth acc ('"' :: cs) = moreMembers fuel depth (acc.put k v) (skip rest₃) := by
  simp only [members, hkey, hcolon, hvalue]
  rfl

/-- A field takes a text, up to the end of the spaces behind its value. -/
theorem field_takes {fuel depth : Nat} {acc fs : Fields} {cs rest : List Char}
    (hvalues : ValuesTake fuel) (h : members (fuel + 1) depth acc cs = .ok (fs, rest)) :
    ∃ k v field behind, cs = field ++ behind ∧ Neutral field ∧
      moreMembers fuel depth (acc.put k v) behind = .ok (fs, rest) ∧
      ∀ fuel' x, 2 * field.length ≤ fuel' → x <+: behind →
        members (fuel' + 1) depth acc (field ++ x) = moreMembers fuel' depth (acc.put k v) x := by
  have hwhole := h
  simp only [members] at h
  split at h
  · rename_i inside
    cases hkey : string ('"' :: inside) with
    | error e => simp [hkey] at h
    | ok y =>
      obtain ⟨k, behind⟩ := y
      simp only [hkey] at h
      obtain ⟨key, rfl, hquiet, hkeys⟩ := string_takes hkey
      obtain ⟨spaces₁, rest₁, hskip₁, rfl, hspaces₁, hless₁⟩ := skip_takes behind
      rw [hskip₁] at h
      split at h
      · rename_i rest₂
        obtain ⟨spaces₂, rest₃, hskip₂, rfl, hspaces₂, hless₂⟩ := skip_takes rest₂
        rw [hskip₂] at h
        cases hvalue : value fuel depth rest₃ with
        | error e => simp [hvalue] at h
        | ok y =>
          obtain ⟨v, rest₄⟩ := y
          obtain ⟨body, rfl, hbody⟩ := hvalues depth rest₃ v rest₄ hvalue
          obtain ⟨spaces₃, rest₅, hskip₃, rfl, hspaces₃, hless₃⟩ := skip_takes rest₄
          rw [members_of_field acc hkey hskip₁ (by rw [hskip₂]; exact hvalue), hskip₃] at hwhole
          have hcolon : Neutral [':'] := neutral_of_plain (by decide)
          refine ⟨k, v, '"' :: (key ++ ['"']) ++ (spaces₁ ++ ([':'] ++ (spaces₂ ++ (body ++ spaces₃)))),
            rest₅, by simp, ?_, hwhole, ?_⟩
          · exact hquiet.quoted.append ((neutral_of_spaces hspaces₁).append (hcolon.append
              ((neutral_of_spaces hspaces₂).append (hbody.neutral.append (neutral_of_spaces hspaces₃)))))
          · intro fuel' x hfuel hx
            simp only [List.length_append, List.length_cons] at hfuel
            have hx₄ := (List.prefix_append_right_inj spaces₃).mpr hx
            have hx₃ := (List.prefix_append_right_inj body).mpr hx₄
            have hx₂ := (List.prefix_append_right_inj spaces₂).mpr hx₃
            have hx₁ := (List.prefix_cons_inj ':').mpr hx₂
            have hread := hbody.reads fuel' _ (by omega) hx₄
            have hfield := members_of_field acc
              (hkeys _ ((List.prefix_append_right_inj spaces₁).mpr hx₁)) (hless₁ _ hx₁)
              (by rw [hless₂ _ hx₃]; exact hread)
            rw [hless₃ x hx] at hfield
            simpa using hfield
      · cases h
  · cases h

theorem membersTake_succ {fuel : Nat} (hvalues : ValuesTake fuel) (hmembers : MembersTake fuel) :
    MembersTake (fuel + 1) := by
  intro depth acc cs fs rest h
  obtain ⟨k, v, field, behind, rfl, hfield, hread, hless⟩ := field_takes hvalues h
  unfold moreMembers at hread
  split at hread
  · -- the last field
    obtain ⟨rfl, rfl⟩ := Prod.mk.inj (Except.ok.inj hread)
    refine ⟨field, rfl, hfield, ?_⟩
    intro fuel' x hfuel hx
    obtain ⟨fuel', rfl⟩ : ∃ n, fuel' = n + 1 := Nat.exists_eq_add_one_of_ne_zero (by omega)
    exact hless fuel' ('\x7d' :: x) (by omega) ((List.prefix_cons_inj '\x7d').mpr hx)
  · -- another field behind a comma
    rename_i behind'
    obtain ⟨spaces, inside, hskip, rfl, hspaces, hless'⟩ := skip_takes behind'
    rw [hskip] at hread
    obtain ⟨body, rfl, hbody, hreads⟩ := hmembers depth _ inside fs _ hread
    have hcomma : Neutral [','] := neutral_of_plain (by decide)
    refine ⟨field ++ ([','] ++ (spaces ++ body)), by simp,
      hfield.append (hcomma.append ((neutral_of_spaces hspaces).append hbody)), ?_⟩
    intro fuel' x hfuel hx
    simp only [List.length_append, List.length_singleton] at hfuel
    obtain ⟨fuel', rfl⟩ : ∃ n, fuel' = n + 1 := Nat.exists_eq_add_one_of_ne_zero (by omega)
    have hbehind := prefix_behind body '\x7d' hx
    have hfront := hless fuel' (',' :: (spaces ++ (body ++ '\x7d' :: x))) (by omega)
      ((List.prefix_cons_inj ',').mpr ((List.prefix_append_right_inj spaces).mpr hbehind))
    have hlist : field ++ ([','] ++ (spaces ++ body)) ++ '\x7d' :: x =
        field ++ ',' :: (spaces ++ (body ++ '\x7d' :: x)) := by simp
    rw [hlist, hfront, moreMembers, hless' _ hbehind]
    exact hreads fuel' x (by omega) hx
  · cases hread

/-- The three at once, by the number of steps. -/
theorem takes (fuel : Nat) : ValuesTake fuel ∧ ItemsTake fuel ∧ MembersTake fuel := by
  -- all three at once: each of them spends a step and goes on in the others
  induction fuel with
  | zero =>
    refine ⟨?_, ?_, ?_⟩
    · intro depth cs v rest h
      simp [value] at h
    · intro depth cs vs rest h
      simp [items] at h
    · intro depth acc cs fs rest h
      simp [members] at h
  | succ fuel ih =>
    obtain ⟨hvalues, hitems, hmembers⟩ := ih
    exact ⟨valuesTake_succ hitems hmembers, itemsTake_succ hvalues hitems,
      membersTake_succ hvalues hmembers⟩

/-- The reader takes a text of its own off the front of its input. -/
theorem value_takes {fuel depth : Nat} {cs rest : List Char} {v : Value}
    (h : value fuel depth cs = .ok (v, rest)) :
    ∃ body, cs = body ++ rest ∧ ValueText depth v body rest :=
  (takes fuel).1 depth cs v rest h

end LeadFlow.Json
