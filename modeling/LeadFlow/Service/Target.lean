import LeadFlow.Text.Blank
import LeadFlow.Text.Percent
import LeadFlow.Text.Search

set_option autoImplicit false

/-!
# Service: targets of requests

The target of a request is a path and a query.  The path starts with one slash, steps of one or two
dots in it are resolved, and escapes stand for their characters.  The query is a list of names and
values; a plus sign in it is a space.  What follows a hash mark belongs to neither.
-/

namespace LeadFlow.Service

open Text

/-- A target. -/
structure Target where
  path : String
  query : List (String × String)
  deriving DecidableEq, Repr

namespace Target

/-- Cuts characters at the first occurrence of one; nothing comes behind it if it does not occur. -/
def cutAtChar (mark : Char) (cs : List Char) : List Char × List Char :=
  (cutAt? [mark] cs).getD (cs, [])

/-- Takes one step of a path, the steps before it given last first: one dot stays, two dots go back,
but not beyond the start. -/
def step (before : List String) (name : String) : List String :=
  if name = "." then before
  else if name = ".." then (if before.length ≤ 1 then before else before.tail)
  else name :: before

/-- The path without steps of one or two dots. -/
def resolved (path : String) : String :=
  let path := "/".intercalate ((split '/' path).foldl step []).reverse
  if path = "" then "/" else path

/-- The path that characters stand for. -/
def pathOf (cs : List Char) : String :=
  unescaped (resolved (.ofList ('/' :: cs.dropWhile (· == '/'))))

/-- The text that a part of a query stands for. -/
def queryText (cs : List Char) : String :=
  unescaped (.ofList (cs.map fun c => if c = '+' then ' ' else c))

/-- A name and its value; a name alone has the empty value. -/
def queryItem (s : String) : String × String :=
  let (name, value) := cutAtChar '=' s.toList
  (queryText name, queryText value)

/-- The names and values of a query; empty parts count for nothing. -/
def queryOf (cs : List Char) : List (String × String) :=
  ((split '&' (.ofList cs)).filter (· != "")).map queryItem

/-- Reads a target. -/
def ofText (s : String) : Target :=
  let (address, _) := cutAtChar '#' s.toList
  let (path, query) := cutAtChar '?' address
  ⟨pathOf path, queryOf query⟩

/-- The last value under a name in the query. -/
def last? (t : Target) (name : String) : Option String := t.query.reverse.lookup name

end Target

end LeadFlow.Service
