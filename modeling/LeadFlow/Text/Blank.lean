set_option autoImplicit false

/-!
# Text: blanks, trimming and words

Two classes of blank are in use.  `isSpace` is the white space of Unicode; `isBlank` adds the four
information separators U+001C to U+001F.  Trimming and cutting into words go by `isBlank` unless a
rule says otherwise.
-/

namespace LeadFlow.Text

/-- White space of Unicode. -/
def isSpace (c : Char) : Bool :=
  let n := c.toNat
  (0x09 ≤ n && n ≤ 0x0d) || n == 0x20 || n == 0x85 || n == 0xa0 || n == 0x1680 ||
    (0x2000 ≤ n && n ≤ 0x200a) || n == 0x2028 || n == 0x2029 || n == 0x202f || n == 0x205f ||
    n == 0x3000

/-- White space, or one of the separators U+001C to U+001F. -/
def isBlank (c : Char) : Bool :=
  isSpace c || (0x1c ≤ c.toNat && c.toNat ≤ 0x1f)

/-- The characters without those of the class at either end. -/
def trimChars (class_ : Char → Bool) (cs : List Char) : List Char :=
  ((cs.dropWhile class_).reverse.dropWhile class_).reverse

/-- The text without the blanks at its ends. -/
def trim (s : String) : String := .ofList (trimChars isBlank s.toList)

/-- Cuts characters at blanks; `cur` holds the word being read, last character first. -/
def wordsFrom (cur : List Char) : List Char → List (List Char)
  | [] => if cur.isEmpty then [] else [cur.reverse]
  | c :: cs =>
    if isBlank c then
      if cur.isEmpty then wordsFrom [] cs else cur.reverse :: wordsFrom [] cs
    else wordsFrom (c :: cur) cs

/-- The words of a text: its longest runs without a blank. -/
def words (s : String) : List String := (wordsFrom [] s.toList).map .ofList

end LeadFlow.Text
