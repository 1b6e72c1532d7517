import LeadFlow.Text.CaseTable
import LeadFlow.Text.Ignorable

set_option autoImplicit false

/-!
# Text: letter case

Lower and title forms of text.  ASCII letters are handled by arithmetic, so that a statement about
ASCII text needs no table; the rest goes by the tables of Unicode.
-/

namespace LeadFlow.Text

/-- The code point reached by the run that holds `n`. -/
def shiftBy? (runs : Array (Nat × Nat × Nat × Int)) (n : Nat) : Option Nat :=
  (runs.find? fun (first, last, step, _) =>
      first ≤ n && n ≤ last && (n - first) % step == 0).map
    fun (_, _, _, shift) => ((n : Int) + shift).toNat

/-- The lower form of a character.  Only the dotted capital I has a lower form of two. -/
def lowerChar (c : Char) : List Char :=
  if c.toNat < 0x80 then [c.toLower]
  else if c.toNat = 0x130 then ['i', Char.ofNat 0x307]
  else [((shiftBy? lowerRuns c.toNat).map Char.ofNat).getD c]

/-- The title form of a character. -/
def titleChar (c : Char) : List Char :=
  if c.toNat < 0x80 then [c.toUpper]
  else match titleExpansions.find? (·.1 == c.toNat) with
    | some (_, ns) => ns.map Char.ofNat
    | none => [((shiftBy? titleRuns c.toNat).map Char.ofNat).getD c]

/-- The character is a letter that has case. -/
def isCased (c : Char) : Bool :=
  if c.toNat < 0x80 then c.isAlpha else inRanges casedRanges c.toNat

/-- The nearest character that counts for the case of its neighbours is a letter that has case. -/
def hasLetter (cs : List Char) : Bool := (cs.dropWhile isCaseIgnorable).head?.any isCased

/-- The lower form of a letter among others; `before` are those before it, the nearest first.  A
capital sigma that ends a word has a form of its own. -/
def lowerAmong (before : List Char) (c : Char) (rest : List Char) : List Char :=
  if c.toNat = 0x3a3 then
    if hasLetter before && !hasLetter rest then [Char.ofNat 0x3c2] else [Char.ofNat 0x3c3]
  else lowerChar c

/-- Lower form of the characters behind others, of which the nearest comes first. -/
def lowerFrom (before : List Char) : List Char → List Char
  | [] => []
  | c :: cs => lowerAmong before c cs ++ lowerFrom (c :: before) cs

/-- Lower form of a list of characters. -/
def lowerChars (cs : List Char) : List Char := lowerFrom [] cs

/-- The text in lower case. -/
def lower (s : String) : String := .ofList (lowerChars s.toList)

/-- The upper form of a character, for the letters whose upper form is ASCII. -/
def upperChar (c : Char) : Char :=
  if c.toNat = 0x131 then 'I' else if c.toNat = 0x17f then 'S' else c.toUpper

/-- The text with every letter whose upper form is ASCII in upper case. -/
def upper (s : String) : String := s.map upperChar

/-- Title form of the characters behind others, of which the nearest comes first: a letter after a
letter goes to lower case, any other to its title form. -/
def titleFrom (before : List Char) : List Char → List Char
  | [] => []
  | c :: cs =>
    (if before.head?.any isCased then lowerAmong before c cs else titleChar c) ++
      titleFrom (c :: before) cs

end LeadFlow.Text
