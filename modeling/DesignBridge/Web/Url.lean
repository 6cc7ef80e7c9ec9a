import DesignBridge.Number.Numeral
import DesignBridge.Web.Host

/-! # Addresses

An address is cut into scheme, authority, path, query and fragment, and each part is brought into
one form: the scheme and the host in lower case, no default port, no dot segments in the path of an
absolute address, and escapes for what may not stand in a part. A percent sign is never escaped, so
escapes that are there already stay. A relative address can be appended to a base.
-/

namespace DesignBridge

/-- The parts that an address is put together from. -/
inductive UrlPart where
  | scheme
  | authority
  | path
  | query
  | fragment
  deriving DecidableEq, Repr

def UrlPart.name : UrlPart → String
  | scheme => "scheme"
  | authority => "authority"
  | path => "path"
  | query => "query"
  | fragment => "fragment"

/-- What is wrong with an address. -/
inductive UrlFault where
  | tooLong
  | partTooLong (part : UrlPart)
  | control (c : Char) (position : Nat)
  | host (fault : HostFault)
  | port (text : String)
  /-- After an authority the path begins without a slash. -/
  | rootless
  /-- A relative address begins with two slashes. -/
  | doubleSlash
  /-- A relative address begins with a colon. -/
  | colon
  deriving DecidableEq, Repr

def UrlFault.message : UrlFault → String
  | tooLong => "URL too long"
  | partTooLong part => "URL component '" ++ part.name ++ "' too long"
  | control c position =>
    "Invalid non-printable ASCII character in URL, " ++ Text.quoted (String.singleton c) ++
      " at position " ++ Number.intText position ++ "."
  | host fault => fault.message
  | port text => "Invalid port: " ++ Text.quoted text
  | rootless => "For absolute URLs, path must be empty or begin with '/'"
  | doubleSlash => "Relative URLs cannot have a path starting with '//'"
  | colon => "Relative URLs cannot have a path starting with ':'"

/-- An address. Query and fragment can be empty or absent. -/
structure Url where
  scheme : String
  user : String
  host : String
  port : Option Int
  path : String
  query : Option String
  fragment : Option String
  deriving DecidableEq, Repr

/-- The parts of an address as they are written. -/
structure UrlParts where
  scheme : List Char
  authority : List Char
  path : List Char
  query : Option (List Char)
  fragment : Option (List Char)

namespace UrlParts

open Text

/-- Whether a character can stand in a scheme behind the first letter. -/
def isSchemeChar (c : Char) : Bool :=
  c.isAlphanum || c == '+' || c == '-' || c == '.'

/-- Cuts off a scheme with its colon; a colon at the front ends an empty scheme. -/
def cutScheme (cs : List Char) : List Char × List Char :=
  match cs with
  | [] => ([], [])
  | c :: _ =>
    if c.isAlpha || c == ':' then
      -- Without a colon behind it the word was no scheme; it begins the path.
      match cs.dropWhile isSchemeChar with
      | ':' :: rest => (cs.takeWhile isSchemeChar, rest)
      | _ => ([], cs)
    else ([], cs)

def endsAuthority (c : Char) : Bool :=
  c == '/' || c == '?' || c == '#'

/-- Cuts off an authority with the two slashes before it. -/
def cutAuthority : List Char → List Char × List Char
  | '/' :: '/' :: rest => (rest.takeWhile (!endsAuthority ·), rest.dropWhile (!endsAuthority ·))
  | cs => ([], cs)

/-- Cuts at the first of a mark, which is dropped; the second part is absent without it. -/
def cutAt (mark : Char) (cs : List Char) : List Char × Option (List Char) :=
  match cs.dropWhile (· ≠ mark) with
  | [] => (cs, none)
  | _ :: rest => (cs.takeWhile (· ≠ mark), some rest)

/-- Cuts an address into its parts. -/
def cut (cs : List Char) : UrlParts :=
  -- From the back: a question mark behind the hash belongs to the fragment.
  let (cs, fragment) := cutAt '#' cs
  let (cs, query) := cutAt '?' cs
  let (scheme, cs) := cutScheme cs
  let (authority, path) := cutAuthority cs
  ⟨scheme, authority, path, query, fragment⟩

/-- Cuts an authority into the user, if there is one, the host, and the port. -/
def cutUser (cs : List Char) : List Char × List Char :=
  if cs.contains '@' then
    (((cs.reverse.dropWhile (· ≠ '@')).drop 1).reverse, (cs.reverse.takeWhile (· ≠ '@')).reverse)
  else ([], cs)

/-- Cuts the host off what is behind the user. In brackets it may hold colons. -/
def cutHost (cs : List Char) : List Char × List Char :=
  let bracketed := cs.head? == some '[' && cs.contains ']'
  let host := if bracketed then (cs.reverse.dropWhile (· ≠ ']')).reverse
    else cs.takeWhile (· ≠ ':')
  (host, cs.drop host.length)

/-- The port behind a host, without the colon. -/
def portText : List Char → List Char
  | ':' :: rest => rest
  | cs => cs

/-- The port that a scheme stands for. -/
def defaultPort? : List Char → Option Int
  | ['f', 't', 'p'] => some 21
  | ['h', 't', 't', 'p'] => some 80
  | ['h', 't', 't', 'p', 's'] => some 443
  | ['w', 's'] => some 80
  | ['w', 's', 's'] => some 443
  | _ => none

/-- Reads a port; the one that the scheme stands for anyway is left out. -/
def readPort (scheme text : List Char) : Except UrlFault (Option Int) :=
  if text.isEmpty then .ok none
  else match Numeral.int? (String.ofList text) with
    | .error _ => .error (.port (String.ofList text))
    | .ok n => .ok (if defaultPort? scheme = some n then none else some n)

/-- Whether a character stands for itself in a query. -/
def isQueryChar (c : Char) : Bool :=
  ' ' < c && c ≤ '~' && c != '"' && c != '#' && c != '<' && c != '>'

/-- Whether a character stands for itself in a fragment. -/
def isFragmentChar (c : Char) : Bool :=
  (isQueryChar c && c != '`') || c == '#'

/-- Whether a character stands for itself in a path. -/
def isPathChar (c : Char) : Bool :=
  isQueryChar c && c != '?' && c != '`' && c != '\x7b' && c != '\x7d'

/-- Whether a character stands for itself in the name and the password of a user. -/
def isUserChar (c : Char) : Bool :=
  isPathChar c && !"/;=@[\\]^|".toList.contains c

/-- Takes the dot segments out of a path. Two dots drop the segment before them, but not the empty
one at the front. -/
def dropDots (segments : List (List Char)) : List (List Char) :=
  segments.foldl (fun kept segment =>
    if segment = ['.'] then kept
    else if segment = ['.', '.'] then if kept = [[]] then kept else kept.dropLast
    else kept ++ [segment]) []

/-- A path without dot segments. -/
def normalPath (path : List Char) : List Char :=
  ((dropDots (splitAt '/' path)).intersperse ['/']).flatten

/-- Checks how a path begins. -/
def checkPath (path : List Char) (hasScheme hasAuthority : Bool) : Except UrlFault Unit :=
  if hasAuthority then
    if path.isEmpty || path.head? = some '/' then .ok () else .error .rootless
  else if hasScheme then .ok ()
  else if path.take 2 = ['/', '/'] then .error .doubleSlash
  else if path.head? = some ':' then .error .colon
  else .ok ()

/-- Puts an address together from its parts. -/
def toUrl (parts : UrlParts) : Except UrlFault Url := do
  let (user, rest) := cutUser parts.authority
  let (host, rest) := cutHost rest
  let scheme := (lowerAscii (String.ofList parts.scheme))
  let user := Percent.encode isUserChar user
  let host ← (Host.encode (String.ofList host)).mapError .host
  -- The scheme as written decides: default ports are dropped in lower case only.
  let port ← readPort parts.scheme (portText rest)
  let hasScheme := scheme != ""
  let hasAuthority := !user.isEmpty || host != "" || port.isSome
  checkPath parts.path hasScheme hasAuthority
  let path := if hasScheme || hasAuthority then normalPath parts.path else parts.path
  return {
    scheme
    user := String.ofList user
    host
    port
    path := String.ofList (Percent.encode isPathChar path)
    query := parts.query.map fun cs => String.ofList (Percent.encode isQueryChar cs)
    fragment := parts.fragment.map fun cs => String.ofList (Percent.encode isFragmentChar cs) }

end UrlParts

namespace Url

/-- The most characters that an address or one of its parts may have. -/
def maxLength : Nat := 65536

/-- Checks an address before it is cut: its length, and that it holds no control characters. -/
def check (s : String) : Except UrlFault Unit :=
  if maxLength < s.length then .error .tooLong
  else match s.toList.findIdx? fun c => c < ' ' || c == '\x7f' with
    | some i => .error (.control (s.toList.getD i ' ') i)
    | none => .ok ()

def checkPart (part : UrlPart) (length : Nat) : Except UrlFault Unit :=
  if maxLength < length then .error (.partTooLong part) else .ok ()

/-- Reads an address. -/
def parse (s : String) : Except UrlFault Url := do
  check s
  (UrlParts.cut s.toList).toUrl

/-- Reads an address and puts a query in the place of the one it has. -/
def parseWithQuery (s query : String) : Except UrlFault Url := do
  check s
  checkPart .query query.length
  UrlParts.toUrl { UrlParts.cut s.toList with query := some query.toList }

/-- The user, the host and the port as they are written. -/
def authority (u : Url) : String :=
  (if u.user = "" then "" else u.user ++ "@") ++
    (if u.host.contains ':' then "[" ++ u.host ++ "]" else u.host) ++
    (match u.port with
      | some n => ":" ++ Number.intText n
      | none => "")

def text (u : Url) : String :=
  (if u.scheme = "" then "" else u.scheme ++ ":") ++
    (if u.authority = "" then "" else "//" ++ u.authority) ++
    u.path ++
    (match u.query with
      | some query => "?" ++ query
      | none => "") ++
    (match u.fragment with
      | some fragment => "#" ++ fragment
      | none => "")

/-- Whether the text of an address, up to the last hash, begins with a word and a colon. -/
def hasType (u : Url) : Bool :=
  let cs := u.text.toList
  let cs := if cs.contains '#' then ((cs.reverse.dropWhile (· ≠ '#')).drop 1).reverse else cs
  match cs.dropWhile fun c => c ≠ '/' && c ≠ ':' with
  | ':' :: rest => rest.length + 1 < cs.length
  | _ => false

/-- The text of an address without a hash at its end. -/
def textTrimmed (u : Url) : String :=
  let cs := u.text.toList
  if cs.getLast? = some '#' then String.ofList cs.dropLast else u.text

/-- Whether an address says by itself where it leads. -/
def isAbsolute (u : Url) : Bool :=
  u.scheme ≠ "" && u.host ≠ ""

/-- The path with the query; an empty path counts as a slash. -/
def target (u : Url) : String :=
  (if u.path = "" then "/" else u.path) ++
    (match u.query with
      | some query => "?" ++ query
      | none => "")

/-- Puts a path with its query in the place of those of an address. -/
def withTarget (u : Url) (target : String) : Except UrlFault Url := do
  let (path, query) := UrlParts.cutAt '?' target.toList
  checkPart .scheme u.scheme.length
  checkPart .authority u.authority.length
  checkPart .path path.length
  checkPart .query (query.getD []).length
  checkPart .fragment (u.fragment.getD "").length
  UrlParts.toUrl ⟨u.scheme.toList, u.authority.toList, path, query, u.fragment.map String.toList⟩

/-- The base for relative addresses: its target ends in a slash. -/
def asBase (u : Url) : Except UrlFault Url :=
  if u.target.toList.getLast? = some '/' then .ok u else u.withTarget (u.target ++ "/")

/-- Appends a relative address to a base: slashes at its front are dropped, and so is its fragment.
An absolute address takes the place of the base. -/
def append (base u : Url) : Except UrlFault Url :=
  if u.isAbsolute then .ok u
  else base.withTarget (base.target ++ String.ofList (u.target.toList.dropWhile (· = '/')))

/-- The name and the password of the user, if there is one. -/
def credentials? (u : Url) : Option (List Char × List Char) :=
  let (name, password) := UrlParts.cutAt ':' u.user.toList
  let name := Percent.decode name
  let password := Percent.decode (password.getD [])
  if name.isEmpty && password.isEmpty then none else some (name, password)

end Url

end DesignBridge
