import LeadFlow.Decimal.Numeral
import LeadFlow.Http.Host
import LeadFlow.Text.Base64
import LeadFlow.Text.Quoted

set_option autoImplicit false

/-!
# Http: addresses

An address has a scheme, an authority, a path, a query and a fragment, of which only the path is always
there.  The authority is a host with perhaps a user before it and a port behind it.  Reading puts an
address into its normal form: scheme and host in lower case, detours in the path and the usual port of
the scheme left out, and everything escaped that is not safe where it stands.
-/

namespace LeadFlow.Http

/-- Why a text is no address. -/
inductive AddressRefusal where
  | tooLong
  /-- a control character, and its place -/
  | control (c : Char) (offset : Nat)
  | host (r : HostRefusal)
  | port (text : String)
  | doubleSlash
  | colon
  deriving DecidableEq, Repr

/-- The wording. -/
def AddressRefusal.message : AddressRefusal → String
  | tooLong => "URL too long"
  | control c offset =>
    s!"Invalid non-printable ASCII character in URL, {Text.quoted (String.singleton c)} at position {offset}."
  | host (.short h) => s!"Invalid IPv4 address: {Text.quoted h}"
  | host (.long h) => s!"Invalid IPv6 address: {Text.quoted h}"
  | host (.name h) => s!"Invalid IDNA hostname: {Text.quoted h}"
  | port text => s!"Invalid port: {Text.quoted text}"
  | doubleSlash => "Relative URLs cannot have a path starting with '//'"
  | colon => "Relative URLs cannot have a path starting with ':'"

/-- An address in normal form. -/
structure Address where
  scheme : String
  user : String
  host : String
  port : Option Int
  path : String
  query : Option String
  fragment : Option String
  deriving DecidableEq, Repr

/-! ## Parts -/

/-- The most characters of an address. -/
def addressLimit : Nat := 65536

/-- A character of ASCII that has no shape. -/
def isControl (c : Char) : Bool := c.toNat < 0x20 || c.toNat = 0x7f

/-- The first control character and its place. -/
def controlIn? (offset : Nat) : List Char → Option (Char × Nat)
  | [] => none
  | c :: cs => if isControl c then some (c, offset) else controlIn? (offset + 1) cs

/-- A character of a scheme behind the first. -/
def isSchemeChar (c : Char) : Bool := c.isAlphanum || c == '+' || c == '.' || c == '-'

/-- A scheme with its colon, which may stand alone, and the rest. -/
def schemeOf (cs : List Char) : List Char × List Char :=
  let (scheme, rest) := if cs.head?.any Char.isAlpha then cs.span isSchemeChar else ([], cs)
  match rest with
  | ':' :: rest => (scheme, rest)
  | _ => ([], cs)

/-- An authority behind two slashes, and the rest. -/
def authorityOf (cs : List Char) : List Char × List Char :=
  match cs with
  | '/' :: '/' :: rest => rest.span fun c => c != '/' && c != '?' && c != '#'
  | _ => ([], cs)

/-- What stands behind a mark at the start, up to another mark, and the rest. -/
def partAfter (mark : Char) (stop : Char → Bool) (cs : List Char) : Option (List Char) × List Char :=
  match cs with
  | c :: rest =>
    if c = mark then
      let (part, rest) := rest.span fun c => !stop c
      (some part, rest)
    else (none, cs)
  | [] => (none, [])

/-- Cuts characters at the last occurrence of one. -/
def cutAtLast? (mark : Char) (cs : List Char) : Option (List Char × List Char) :=
  let (after, before) := cs.reverse.span (· != mark)
  if before.isEmpty then none else some (before.tail.reverse, after.reverse)

/-- A host, in brackets or up to a colon, and what is left for the port. -/
def hostAndPort (cs : List Char) : List Char × List Char :=
  let (host, rest) :=
    match cs.head?, cutAtLast? ']' cs with
    | some '[', some (inner, rest) => (inner ++ [']'], rest)
    | _, _ => cs.span (· != ':')
  match rest with
  | ':' :: port => (host, port)
  | port => (host, port)

/-- The port that a scheme, written in lower case, stands for. -/
def usualPort? (scheme : String) : Option Int :=
  List.lookup scheme [("ftp", 21), ("http", 80), ("https", 443), ("ws", 80), ("wss", 443)]

/-- The port, unless it is the usual one. -/
def portOf (scheme port : String) : Except AddressRefusal (Option Int) :=
  if port = "" then .ok none
  else match Decimal.intOfText port with
    | .error _ => .error (.port port)
    | .ok n => .ok (if usualPort? scheme = some n then none else some n)

/-- The segments of a path without detours; `done` holds those kept, last first. -/
def withoutDetours (done : List String) : List String → List String
  | [] => done.reverse
  | "." :: rest => withoutDetours done rest
  | ".." :: rest => withoutDetours (if done = [] || done = [""] then done else done.tail) rest
  | s :: rest => withoutDetours (s :: done) rest

/-- The path without detours. -/
def directPath (path : String) : String := "/".intercalate (withoutDetours [] (Text.split '/' path))

/-- Printable ASCII but for some signs. -/
def isSafeBut (signs : String) (c : Char) : Bool :=
  0x20 < c.toNat && c.toNat < 0x7f && !signs.toList.contains c

/-- Safe in a fragment. -/
def isFragmentSafe : Char → Bool := isSafeBut "\"<>\x60"

/-- Safe in a query. -/
def isQuerySafe : Char → Bool := isSafeBut "\"#<>"

/-- Safe in a path. -/
def isPathSafe : Char → Bool := isSafeBut "\"#<>?\x60\x7b\x7d"

/-- Safe in the name and password of a user. -/
def isUserSafe : Char → Bool := isSafeBut "\"#<>?\x60\x7b\x7d/;=@[\\]^|"

/-! ## Addresses -/

namespace Address

/-- Reads an address. -/
def read (text : String) : Except AddressRefusal Address := do
  let cs := text.toList
  if addressLimit < cs.length then throw .tooLong
  if let some (c, offset) := controlIn? 0 cs then throw (.control c offset)
  let (scheme, rest) := schemeOf cs
  let (authority, rest) := authorityOf rest
  let (path, rest) := rest.span fun c => c != '?' && c != '#'
  let (query, rest) := partAfter '?' (· == '#') rest
  let (fragment, _) := partAfter '#' (fun _ => false) rest
  let (user, place) := (cutAtLast? '@' authority).getD ([], authority)
  let (host, port) := hostAndPort place
  let user := Text.escaped isUserSafe (.ofList user)
  let host ← (hostText (.ofList host)).mapError .host
  let port ← portOf (.ofList scheme) (.ofList port)
  let path := String.ofList path
  let isBare := scheme.isEmpty && user = "" && host = "" && port.isNone
  if isBare && (Text.after? ['/', '/'] path.toList).isSome then throw .doubleSlash
  if isBare && path.toList.head? = some ':' then throw .colon
  return {
    scheme := Text.lower (.ofList scheme), user, host, port
    path := Text.escaped isPathSafe (if isBare then path else directPath path)
    query := query.map fun cs => Text.escaped isQuerySafe (.ofList cs)
    fragment := fragment.map fun cs => Text.escaped isFragmentSafe (.ofList cs) }

/-- The address names a scheme and a host. -/
def isAbsolute (a : Address) : Bool := a.scheme != "" && a.host != ""

/-- User, host and port; a host with colons in brackets. -/
def authority (a : Address) : String :=
  (if a.user = "" then "" else a.user ++ "@") ++
    (if Text.contains a.host ":" then "[" ++ a.host ++ "]" else a.host) ++
    ((a.port.map fun n => s!":{n}").getD "")

/-- The address as text. -/
def text (a : Address) : String :=
  (if a.scheme = "" then "" else a.scheme ++ ":") ++
    (if a.authority = "" then "" else "//" ++ a.authority) ++ a.path ++
    ((a.query.map ("?" ++ ·)).getD "") ++ ((a.fragment.map ("#" ++ ·)).getD "")

/-- The path and query alone, read from the root. -/
def fromRoot (a : Address) : Address :=
  ⟨"", "", "", none, .ofList ('/' :: a.path.toList.dropWhile (· == '/')), a.query, none⟩

/-- The name and password of the user, as a header gives them. -/
def credentials? (a : Address) : Option String :=
  let (name, password) := a.user.toList.span (· != ':')
  let bytes (cs : List Char) := (Text.unescaped (.ofList cs)).toList.flatMap Text.bytesOfChar
  if name.isEmpty && password.tail.isEmpty then none
  else some ("Basic " ++ .ofList (Text.Base64.encode (bytes name ++ [0x3a] ++ bytes password.tail)))

end Address

end LeadFlow.Http
