import LeadFlow.Text.Blank

set_option autoImplicit false

/-!
# Message: tags in templates

A tag is a name between two pairs of braces, with blanks allowed inside the braces: `{ {name} }`
without the spaces between the braces.  A template is read once from left to right into pieces: at
each place a tag if one starts there, a single character otherwise.
-/

namespace LeadFlow.Message

/-- A character of a tag name: an ASCII letter or digit, an underscore, or one of the four letters
beyond ASCII that are an `i`, `k` or `s` in another case. -/
def isNameChar (c : Char) : Bool :=
  c.isAlphanum || c == '_' || c.toNat == 0x17f || c.toNat == 0x212a || c.toNat == 0x130 ||
    c.toNat == 0x131

/-- The rest after two opening braces. -/
def afterOpening : List Char → Option (List Char)
  | '\x7b' :: '\x7b' :: cs => some cs
  | _ => none

/-- The rest after two closing braces. -/
def afterClosing : List Char → Option (List Char)
  | '\x7d' :: '\x7d' :: cs => some cs
  | _ => none

/-- The tag that starts here: its name and the rest. -/
def tagAt? (cs : List Char) : Option (List Char × List Char) :=
  match afterOpening cs with
  | none => none
  | some inner =>
    let fromName := inner.dropWhile Text.isBlank
    let name := fromName.takeWhile isNameChar
    if name.isEmpty then none
    else
      match afterClosing ((fromName.dropWhile isNameChar).dropWhile Text.isBlank) with
      | none => none
      | some rest => some (name, rest)

theorem length_dropWhile_le {α : Type} (p : α → Bool) (xs : List α) :
    (xs.dropWhile p).length ≤ xs.length := by
  induction xs with
  | nil => simp
  | cons x xs ih =>
    simp only [List.dropWhile_cons]
    split
    · exact Nat.le_succ_of_le ih
    · simp

theorem length_of_afterOpening {cs rest : List Char} (h : afterOpening cs = some rest) :
    cs.length = rest.length + 2 := by
  unfold afterOpening at h
  split at h
  · simp only [Option.some.injEq] at h; subst h; rfl
  · exact absurd h (by simp)

theorem length_of_afterClosing {cs rest : List Char} (h : afterClosing cs = some rest) :
    cs.length = rest.length + 2 := by
  unfold afterClosing at h
  split at h
  · simp only [Option.some.injEq] at h; subst h; rfl
  · exact absurd h (by simp)

/-- A tag takes characters away. -/
theorem length_lt_of_tagAt? {cs name rest : List Char} (h : tagAt? cs = some (name, rest)) :
    rest.length < cs.length := by
  unfold tagAt? at h
  split at h
  · exact absurd h (by simp)
  next inner hi =>
    simp only at h
    split at h
    · exact absurd h (by simp)
    · split at h
      · exact absurd h (by simp)
      next r hc =>
        simp only [Option.some.injEq, Prod.mk.injEq] at h
        have h1 := length_of_afterOpening hi
        have h2 := length_of_afterClosing hc
        have h3 := length_dropWhile_le Text.isBlank inner
        have h4 := length_dropWhile_le isNameChar (inner.dropWhile Text.isBlank)
        have h5 := length_dropWhile_le Text.isBlank
          ((inner.dropWhile Text.isBlank).dropWhile isNameChar)
        rw [← h.2]
        omega

/-- A piece of a template. -/
inductive Piece where
  | char (c : Char)
  | tag (name : List Char)
  deriving DecidableEq, Repr

/-- The pieces of a template. -/
def pieces (cs : List Char) : List Piece :=
  match h : tagAt? cs with
  | some (name, rest) => .tag name :: pieces rest
  | none =>
    match cs with
    | [] => []
    | c :: rest => .char c :: pieces rest
  termination_by cs.length
  decreasing_by
    · exact length_lt_of_tagAt? h
    · simp

theorem pieces_of_tagAt? {cs name rest : List Char} (h : tagAt? cs = some (name, rest)) :
    pieces cs = .tag name :: pieces rest := by
  rw [pieces]
  split
  next h' =>
    rw [h] at h'
    cases h'
    rfl
  next h' => exact absurd (h.symm.trans h') (by simp)

@[simp] theorem pieces_nil : pieces [] = [] := by
  rw [pieces]
  split
  next h => exact absurd h (by simp [tagAt?, afterOpening])
  next => rfl

theorem pieces_cons {c : Char} {rest : List Char} (h : tagAt? (c :: rest) = none) :
    pieces (c :: rest) = .char c :: pieces rest := by
  rw [pieces]
  split
  next h' => exact absurd (h.symm.trans h') (by simp)
  next => rfl

/-- The characters that a piece comes to. -/
def Piece.filled (value : List Char → List Char) : Piece → List Char
  | char c => [c]
  | tag name => value name

/-- Replaces every tag by its value and keeps all other characters. -/
def fillChars (value : List Char → List Char) (cs : List Char) : List Char :=
  (pieces cs).flatMap (Piece.filled value)

@[simp] theorem fillChars_nil (value : List Char → List Char) : fillChars value [] = [] := by
  simp [fillChars]

theorem fillChars_of_tagAt? (value : List Char → List Char) {cs name rest : List Char}
    (h : tagAt? cs = some (name, rest)) : fillChars value cs = value name ++ fillChars value rest := by
  simp [fillChars, pieces_of_tagAt? h, Piece.filled]

end LeadFlow.Message
