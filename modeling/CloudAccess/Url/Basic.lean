/-
# Addresses

An address is read in two steps.  `Parts.ofText` cuts a text at its delimiters, which always
succeeds; `Parts.normalize` brings each part into its one written form, and that is where an
address can be refused.  The result, a `Url`, is written back by `toText`.

A `Url` keeps its path, query and fragment escaped.  What an address *says* is read off it by
`path`, the path without escapes, and `params`, the pairs of its query.
-/
import CloudAccess.Text.Case
import CloudAccess.Text.Integer
import CloudAccess.Url.Address
import CloudAccess.Url.Form
import CloudAccess.Url.Idna

namespace CloudAccess

/-! ## 1. Refusals -/

/-- The parts of an address between its delimiters. -/
inductive Url.Component where
  | scheme
  | authority
  | path
  | query
  | fragment
deriving DecidableEq

/-- Why a text is not an address. -/
inductive Url.Rejection where
  | tooLong
  | componentTooLong (component : Url.Component)
  | unprintable (c : CodePoint) (position : Nat)
  | invalidPort (port : Text)
  | invalidIpv4 (host : Text)
  | invalidIpv6 (host : Text)
  | invalidName (host : Text)
  /-- There is a host, and the path does not begin with a slash. -/
  | pathWithoutSlash
  /-- There is neither scheme nor host, and the path begins like a host. -/
  | pathLikeAuthority
  /-- There is neither scheme nor host, and the path begins like the end of a scheme. -/
  | pathLikeScheme
  | unencodable (u : Utf8.Unencodable)
deriving DecidableEq

namespace Url

/-- The name of a component. -/
def Component.name : Component → Text
  | .scheme => "scheme"
  | .authority => "authority"
  | .path => "path"
  | .query => "query"
  | .fragment => "fragment"

/-- The wording of a refusal. -/
def Rejection.message : Rejection → Text
  | .tooLong => "URL too long"
  | .componentTooLong component => "URL component '" ++ component.name ++ "' too long"
  | .unprintable c position =>
    "Invalid non-printable ASCII character in URL, " ++ Text.quoted [c] ++ " at position " ++
      Text.ofNat position ++ "."
  | .invalidPort port => "Invalid port: " ++ Text.quoted port
  | .invalidIpv4 host => "Invalid IPv4 address: " ++ Text.quoted host
  | .invalidIpv6 host => "Invalid IPv6 address: " ++ Text.quoted host
  | .invalidName host => "Invalid IDNA hostname: " ++ Text.quoted host
  | .pathWithoutSlash => "For absolute URLs, path must be empty or begin with '/'"
  | .pathLikeAuthority => "Relative URLs cannot have a path starting with '//'"
  | .pathLikeScheme => "Relative URLs cannot have a path starting with ':'"
  | .unencodable u => u.message

/-- The length that an address and each of its components may have. -/
def maxLength : Nat := 65536

/-! ## 2. Cutting an address into its parts -/

/-- The parts of an address as they were written.  A missing query is not an empty one. -/
structure Parts where
  scheme : Text
  authority : Text
  path : Text
  query? : Option Text
  fragment? : Option Text
deriving DecidableEq

/-- `c` may stand in a scheme after its first letter. -/
def isSchemeChar (c : CodePoint) : Bool :=
  c.isAsciiAlphanumeric || c.val == 0x2B || c.val == 0x2D || c.val == 0x2E

/-- The scheme and what follows its colon.  A colon at the very beginning ends an empty
scheme. -/
def cutScheme (t : Text) : Text × Text :=
  let name := t.takeWhile isSchemeChar
  let startsWell := name.head?.all CodePoint.isAsciiLetter
  match t.dropWhile isSchemeChar with
  | colon :: rest => if startsWell ∧ colon = ':' then (name, rest) else ([], t)
  | [] => ([], t)

/-- `c` does not end the host of an address. -/
def isAuthorityChar (c : CodePoint) : Bool := c.val != 0x2F && c.val != 0x3F && c.val != 0x23

/-- The authority after two slashes and what follows it. -/
def cutAuthority (t : Text) : Text × Text :=
  match Text.dropStart? "//" t with
  | some rest => rest.span isAuthorityChar
  | none => ([], t)

/-- The parts of a text. -/
def Parts.ofText (t : Text) : Parts :=
  let (scheme, rest) := cutScheme t
  let (authority, rest) := cutAuthority rest
  let (beforeFragment, fragment?) : Text × Option Text :=
    match Text.cut? '#' rest with
    | some (before, after) => (before, some after)
    | none => (rest, none)
  let (path, query?) : Text × Option Text :=
    match Text.cut? '?' beforeFragment with
    | some (before, after) => (before, some after)
    | none => (beforeFragment, none)
  ⟨scheme, authority, path, query?, fragment?⟩

/-- The parts of an authority. -/
structure Authority where
  userinfo : Text
  host : Text
  port : Text
deriving DecidableEq

/-- The host at the beginning of a text, and the rest: an address in brackets, up to the last
closing bracket, or whatever comes before a colon. -/
def cutHost (t : Text) : Text × Text :=
  let plain := t.span fun c => c.val != 0x3A && c.val != 0x40
  if t.head? = some (CodePoint.ofChar '[') then
    match Text.cutLast? ']' t with
    | some (inside, rest) => (inside ++ ("]" : Text), rest)
    | none => plain
  else plain

/-- The parts of an authority: what comes before the last at sign, the host, and what comes
after it, without the colon. -/
def Authority.ofText (t : Text) : Authority :=
  let (userinfo, rest) := (Text.cutLast? '@' t).getD ([], t)
  let (host, port) := cutHost rest
  ⟨userinfo, host, (Text.dropStart? ":" port).getD port⟩

/-! ## 3. The written form of each part -/

/-- The characters from space to tilde, less those listed. -/
def keepsAllBut (excluded : Text) (c : CodePoint) : Bool :=
  isUnreserved c || (0x20 ≤ c.val && c.val < 0x7F && c ∉ excluded)

/-- What stands for itself in a fragment. -/
def keepsInFragment : CodePoint → Bool := keepsAllBut " \"<>`"

/-- What stands for itself in a query. -/
def keepsInQuery : CodePoint → Bool := keepsAllBut " \"#<>"

/-- What stands for itself in a path. -/
def keepsInPath : CodePoint → Bool := keepsAllBut " \"#<>?`\x7b\x7d"

/-- What stands for itself before the at sign. -/
def keepsInUserinfo : CodePoint → Bool := keepsAllBut " \"#<>?`\x7b\x7d/;=@[\\]^|"

/-- What stands for itself in a host name. -/
def keepsInHost (c : CodePoint) : Bool :=
  isUnreserved c || c ∈ ("!$&'()*+,;=\"`\x7b\x7d%|\\" : Text)

/-- Escape a part; a failure is a refusal of the address. -/
def escapePart (keeps : CodePoint → Bool) (t : Text) : Except Rejection Text :=
  (escape keeps t).mapError Rejection.unencodable

/-- The host stands in square brackets. -/
def isBracketed (host : Text) : Bool :=
  host.head? = some (CodePoint.ofChar '[') && host.getLast? = some (CodePoint.ofChar ']')

/-- The written form of a host. -/
def normalizeHost (host : Text) : Except Rejection Text :=
  if host.isEmpty then .ok []
  else if looksLikeIpv4 host then
    if isIpv4 host then .ok host else .error (.invalidIpv4 host)
  else if isBracketed host then
    let inside := (host.drop 1).dropLast
    if isIpv6 inside then .ok inside else .error (.invalidIpv6 host)
  else if host.all CodePoint.isAscii then escapePart keepsInHost (Text.lower host)
  else
    match Idna.encode? (Text.lower host) with
    | some name => .ok name
    | none => .error (.invalidName host)

/-- The port that a scheme implies. -/
def defaultPort? (scheme : Text) : Option Int :=
  if scheme = "ftp" then some 21
  else if scheme = "http" ∨ scheme = "ws" then some 80
  else if scheme = "https" ∨ scheme = "wss" then some 443
  else none

/-- The port to be written: none where it is missing or implied by the scheme. -/
def normalizePort (scheme port : Text) : Except Rejection (Option Int) :=
  if port.isEmpty then .ok none
  else
    match Integer.read port with
    | .error _ => .error (.invalidPort port)
    | .ok n => .ok (if defaultPort? scheme = some n then none else some n)

/-- Segments with single dots dropped, and a double dot taking the one before it along; the
leading empty segment stays.  Segments done are given last first. -/
def resolveDots (done : List Text) : List Text → List Text
  | [] => done.reverse
  | segment :: rest =>
    if segment = "." then resolveDots done rest
    else if segment = ".." then
      resolveDots (if done = [[]] then done else done.drop 1) rest
    else resolveDots (segment :: done) rest

/-- The path without dot segments. -/
def normalizePath (path : Text) : Text :=
  Text.join ['/'] (resolveDots [] (Text.splitOn '/' path))

/-- The condition on a path that its surroundings impose. -/
def checkPath (hasScheme hasAuthority : Bool) (path : Text) : Except Rejection Unit :=
  if hasAuthority then
    if path.isEmpty || Text.startsWith path "/" then .ok () else .error .pathWithoutSlash
  else if hasScheme then .ok ()
  else if Text.startsWith path "//" then .error .pathLikeAuthority
  else if Text.startsWith path ":" then .error .pathLikeScheme
  else .ok ()

end Url

/-! ## 4. Addresses -/

/-- An address with every part in its written form.  The host stands without brackets. -/
structure Url where
  scheme : Text
  userinfo : Text
  host : Text
  port? : Option Int
  rawPath : Text
  rawQuery? : Option Text
  rawFragment? : Option Text
deriving DecidableEq

namespace Url

/-- Escape a part that may be missing. -/
def escapePart? (keeps : CodePoint → Bool) : Option Text → Except Rejection (Option Text)
  | none => .ok none
  | some t => (escapePart keeps t).map some

/-- The address made of the given parts. -/
def Parts.normalize (p : Parts) : Except Rejection Url := do
  let authority := Authority.ofText p.authority
  let scheme := Text.lower p.scheme
  let userinfo ← escapePart keepsInUserinfo authority.userinfo
  let host ← normalizeHost authority.host
  let port? ← normalizePort p.scheme authority.port
  let hasScheme := !scheme.isEmpty
  let hasAuthority := !userinfo.isEmpty || !host.isEmpty || port?.isSome
  checkPath hasScheme hasAuthority p.path
  let path ← escapePart keepsInPath
    (if hasScheme || hasAuthority then normalizePath p.path else p.path)
  let query? ← escapePart? keepsInQuery p.query?
  let fragment? ← escapePart? keepsInFragment p.fragment?
  return ⟨scheme, userinfo, host, port?, path, query?, fragment?⟩

/-- The first ASCII character without a visible form, with its position. -/
def unprintable? (t : Text) : Option (CodePoint × Nat) :=
  t.zipIdx.find? fun (c, _) => c.isAscii && !c.isPrintable

/-- The address that a text writes. -/
def parse (t : Text) : Except Rejection Url :=
  if maxLength < t.length then .error .tooLong
  else
    match unprintable? t with
    | some (c, position) => .error (.unprintable c position)
    | none => (Parts.ofText t).normalize

/-- The user information, host and port in one. -/
def authority (u : Url) : Text :=
  (if u.userinfo.isEmpty then [] else u.userinfo ++ ("@" : Text)) ++
    (if (CodePoint.ofChar ':') ∈ u.host then "[" ++ u.host ++ "]" else u.host) ++
    (match u.port? with
      | none => []
      | some port => (":" : Text) ++ Integer.write port)

/-- The written form of an address. -/
def toText (u : Url) : Text :=
  (if u.scheme.isEmpty then [] else u.scheme ++ (":" : Text)) ++
    (if u.authority.isEmpty then [] else ("//" : Text) ++ u.authority) ++
    u.rawPath ++
    (match u.rawQuery? with
      | none => []
      | some query => ("?" : Text) ++ query) ++
    (match u.rawFragment? with
      | none => []
      | some fragment => ("#" : Text) ++ fragment)

/-- The path without escapes; an empty path is the root. -/
def path (u : Url) : Text := unescape (if u.rawPath.isEmpty then "/" else u.rawPath)

/-- The pairs of the query. -/
def params (u : Url) : List (Text × Text) := Form.decode (u.rawQuery?.getD [])

/-- The parts of an address as a text would give them. -/
def parts (u : Url) : Parts := ⟨u.scheme, u.authority, u.rawPath, u.rawQuery?, u.rawFragment?⟩

/-- The first part that is too long. -/
def Parts.tooLong? (p : Parts) : Option Component :=
  if maxLength < p.scheme.length then some .scheme
  else if maxLength < p.authority.length then some .authority
  else if maxLength < p.path.length then some .path
  else if p.query?.any (maxLength < ·.length) then some .query
  else if p.fragment?.any (maxLength < ·.length) then some .fragment
  else none

/-- The address with another path and query, both given escaped. -/
def withTarget (u : Url) (path query : Text) : Except Rejection Url :=
  let parts : Parts := { u.parts with path := path, query? := some query }
  match parts.tooLong? with
  | some component => .error (.componentTooLong component)
  | none => parts.normalize

end Url

end CloudAccess
