import LeadFlow.Http.NameTable
import LeadFlow.Text.Casing
import LeadFlow.Text.Percent
import LeadFlow.Text.Punycode
import LeadFlow.Text.Search

set_option autoImplicit false

/-!
# Http: hosts

A host is given by number or by name.  Four runs of digits are a number of the short kind, whatever
stands between them, and brackets enclose one of the long kind; both must be right.  A name in ASCII is
put in lower case and escaped; the labels of any other name are written in punycode.
-/

namespace LeadFlow.Http

/-- Why something is no host. -/
inductive HostRefusal where
  | short (host : String)
  | long (host : String)
  | name (host : String)
  deriving DecidableEq, Repr

/-! ## Numbers -/

/-- The lengths of the runs of digits around other characters; `n` digits have been read. -/
def digitRuns (n : Nat) : List Char → List Nat
  | [] => [n]
  | c :: cs => if c.isDigit then digitRuns (n + 1) cs else n :: digitRuns 0 cs

/-- The text reads as four runs of digits with one character between each two.  A digit may be that
character where the run around it is long enough. -/
def looksShort (cs : List Char) : Bool :=
  let runs := digitRuns 0 cs
  runs.all (0 < ·) && runs.length ≤ 4 && 4 ≤ runs.length + (runs.map fun n => (n - 1) / 2).foldr (· + ·) 0

/-- A number up to 255 without zeros in front. -/
def isOctet (s : String) : Bool :=
  let cs := s.toList
  !cs.isEmpty && cs.all Char.isDigit && cs.length ≤ 3 && (cs.length == 1 || cs.head? != some '0') &&
    cs.foldl (fun n c => 10 * n + (c.toNat - 0x30)) 0 ≤ 255

/-- A number of the short kind. -/
def isShort (s : String) : Bool :=
  let parts := Text.split '.' s
  parts.length == 4 && parts.all isOctet

/-- Up to four hexadecimal digits. -/
def isGroup (s : String) : Bool :=
  let cs := s.toList
  !cs.isEmpty && cs.length ≤ 4 && cs.all fun c => (Text.hexDigit? c).isSome

/-- The groups of a number of the long kind; it may end in one of the short kind, which counts as two
groups. -/
def groupsOf? (s : String) : Option (List String) :=
  let parts := Text.split ':' s
  match parts.getLast? with
  | none => none
  | some last =>
    if Text.contains last "." then
      if 3 ≤ parts.length && isShort last then some (parts.dropLast ++ ["0", "0"]) else none
    else if 3 ≤ parts.length then some parts else none

/-- Groups without a gap. -/
def areEight (groups : List String) : Bool := groups.length == 8 && groups.all isGroup

/-- Groups on one side of a gap; the outermost may be empty if it is alone. -/
def sideOf (groups : List String) : Option Nat :=
  if groups = [""] then some 0 else if groups.all isGroup then some groups.length else none

/-- Groups, of which one inside may be empty: it stands for the zeros left out. -/
def areGroups (groups : List String) : Bool :=
  let inner := groups.tail.dropLast
  match inner.count "" with
  | 0 => areEight groups
  | 1 =>
    let before := groups.head?.toList ++ inner.takeWhile (· != "")
    match sideOf before, sideOf (groups.drop (before.length + 1)) with
    | some m, some n => groups.length ≤ 9 && m + n < 8
    | _, _ => false
  | _ => false

/-- A number of the long kind, perhaps with a percent sign and the name of a scope. -/
def isLong (cs : List Char) : Bool :=
  let (number, scope) := cs.span (· != '%')
  let scopeIsRight := match scope with
    | [] => true
    | _ :: name => !name.isEmpty && !name.contains '%'
  scopeIsRight && ((groupsOf? (.ofList number)).any areGroups)

/-! ## Names -/

/-- The character may stand in a name that is in lower case. -/
def isNameChar (c : Char) : Bool :=
  if c.toNat < 0x80 then c.isDigit || c.isLower || c == '-'
  else Text.inRanges namePointsLow c.toNat || Text.inRanges namePointsHigh c.toNat

/-- The character is a mark on the one before it. -/
def isMark (c : Char) : Bool := 0x300 ≤ c.toNat && c.toNat ≤ 0x36f

/-- A label: no hyphen at the ends or at both the third and the fourth place, no mark in front. -/
def isLabel (cs : List Char) : Bool :=
  cs.all isNameChar && cs.head? != some '-' && cs.getLast? != some '-' &&
    (cs.drop 2).take 2 != ['-', '-'] && !cs.head?.any isMark

/-- A label in ASCII, of 63 characters at most. -/
def asciiLabel? (cs : List Char) : Option (List Char) :=
  let label := if cs.all (·.toNat < 0x80) then cs else "xn--".toList ++ Text.Punycode.encode cs
  if !cs.isEmpty && isLabel cs && label.length ≤ 63 then some label else none

/-- The full stops of all scripts end labels. -/
def isLabelEnd (c : Char) : Bool := ['.', '。', '．', '｡'].contains c

/-- The labels of a name; `cur` holds the one being read, last character first. -/
def labelsFrom (cur : List Char) : List Char → List (List Char)
  | [] => [cur.reverse]
  | c :: cs => if isLabelEnd c then cur.reverse :: labelsFrom [] cs else labelsFrom (c :: cur) cs

/-- A name in ASCII; a full stop at the end stays. -/
def asciiName? (cs : List Char) : Option String :=
  let labels := labelsFrom [] cs
  let ended := labels.getLast? == some []
  let named := (if ended then labels.dropLast else labels).mapM asciiLabel?
  named.bind fun labels =>
    let name := ".".toList.intercalate (labels ++ if ended then [[]] else [])
    if labels.isEmpty || 253 < name.length - ended.toNat then none else some (.ofList name)

/-- Safe in a name: what may separate parts of an address, and a few signs more. -/
def isNameSafe (c : Char) : Bool := "!$&'()*+,;=\"\x60\x7b\x7d%|\\".toList.contains c

/-- A host as it stands in an address, without brackets. -/
def hostText (host : String) : Except HostRefusal String :=
  let cs := host.toList
  if cs.isEmpty then .ok ""
  else if looksShort cs then if isShort host then .ok host else .error (.short host)
  else if cs.head? = some '[' && cs.getLast? = some ']' && 2 ≤ cs.length then
    let inner := cs.tail.dropLast
    if isLong inner then .ok (.ofList inner) else .error (.long host)
  else if cs.all (·.toNat < 0x80) then .ok (Text.escaped isNameSafe (Text.lower host))
  else match asciiName? (Text.lower host).toList with
    | some name => .ok name
    | none => .error (.name host)

end LeadFlow.Http
