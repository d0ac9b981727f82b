import Bearer.Number.Integer
import Bearer.Text.Case
import Bearer.Text.Quoted
import Bearer.Url.Address
import Bearer.Url.Basic

/-!
# Reading URLs

Any text is first cut into parts, which always succeeds, and then each part is checked and brought
to the form in which it is sent: what is not allowed in a part is escaped, dot segments are removed
from a path and a name with characters beyond ASCII is encoded.
-/

namespace Bearer.Url

inductive Error where
  | tooLong
  | unprintable (c : Char) (position : Nat)
  | ipv4 (host : String)
  | ipv6 (host : String)
  | name (host : String)
  | port (text : String)
  | relativePath
  | doubleSlash
  | leadingColon
  | partTooLong (part : String)
  | unprintableIn (part : String) (c : Char) (position : Nat)
  deriving DecidableEq, Repr

def Error.message : Error → String
  | tooLong => "URL too long"
  | unprintable c position =>
    "Invalid non-printable ASCII character in URL, " ++ Text.quoted c.toString ++ " at position "
      ++ toString position ++ "."
  | ipv4 host => "Invalid IPv4 address: " ++ Text.quoted host
  | ipv6 host => "Invalid IPv6 address: " ++ Text.quoted host
  | name host => "Invalid IDNA hostname: " ++ Text.quoted host
  | port text => "Invalid port: " ++ Text.quoted text
  | relativePath => "For absolute URLs, path must be empty or begin with '/'"
  | doubleSlash => "Relative URLs cannot have a path starting with '//'"
  | leadingColon => "Relative URLs cannot have a path starting with ':'"
  | partTooLong part => "URL component " ++ Text.quoted part ++ " too long"
  | unprintableIn part c position =>
    "Invalid non-printable ASCII character in URL " ++ part ++ " component, " ++ Text.quoted c.toString
      ++ " at position " ++ toString position ++ "."

def maxLength : Nat := 65536

def isControl (c : Char) : Bool := c.toNat < 0x20 || c.toNat == 0x7f

/-! ### Parts -/

/-- The parts of a text, not yet checked. -/
structure Parts where
  scheme : List Char
  authority : List Char
  path : List Char
  query : Option (List Char)
  fragment : Option (List Char)
  deriving DecidableEq, Repr

def isSchemeChar (c : Char) : Bool := c.isAlphanum || c == '+' || c == '.' || c == '-'

/-- A scheme with its colon, and what follows. The scheme may be empty. -/
def takeScheme (cs : List Char) : List Char × List Char :=
  let scheme := cs.takeWhile isSchemeChar
  match cs.dropWhile isSchemeChar with
  | ':' :: rest =>
    if scheme.isEmpty || scheme.head?.any Char.isAlpha then (scheme, rest) else ([], cs)
  | _ => ([], cs)

/-- What follows a character up to the end, if it is the first one. -/
def after? (c : Char) : List Char → Option (List Char)
  | d :: cs => if d = c then some cs else none
  | [] => none

/-- Does an authority end in front of this character? -/
def endsAuthority (c : Char) : Bool := c == '/' || c == '?' || c == '#'

/-- The authority behind two slashes, and what follows. -/
def takeAuthority : List Char → List Char × List Char
  | '/' :: '/' :: cs => (cs.takeWhile (!endsAuthority ·), cs.dropWhile (!endsAuthority ·))
  | cs => ([], cs)

def Parts.ofChars (cs : List Char) : Parts :=
  let (scheme, rest) := takeScheme cs
  let (authority, rest) := takeAuthority rest
  let front := rest.takeWhile (· != '#')
  { scheme, authority
    path := front.takeWhile (· != '?')
    query := after? '?' (front.dropWhile (· != '?'))
    fragment := after? '#' (rest.dropWhile (· != '#')) }

/-- User information, up to the last at sign, and what follows. -/
def takeUserinfo (authority : List Char) : List Char × List Char :=
  if authority.contains '@' then
    let rest := (authority.reverse.takeWhile (· != '@')).reverse
    (authority.take (authority.length - rest.length - 1), rest)
  else ([], authority)

/-- A host between brackets, up to the last one, or else up to a colon, and what follows. -/
def takeHost (cs : List Char) : List Char × List Char :=
  if cs.head? = some '[' ∧ cs.contains ']' then
    let rest := (cs.reverse.takeWhile (· != ']')).reverse
    (cs.take (cs.length - rest.length), rest)
  else (cs.takeWhile (· != ':'), cs.dropWhile (· != ':'))

/-! ### Checking the parts -/

/-- Signs that separate parts of a part. -/
def isSubDelimiter (c : Char) : Bool :=
  ['!', '$', '&', '\'', '(', ')', '*', '+', ',', ';', '='].contains c

/-- A character of ASCII that shows and is not among the given ones. -/
def shownExcept (others : List Char) (c : Char) : Bool :=
  0x20 < c.toNat && c.toNat < 0x7f && !others.contains c

def safeInFragment : Char → Bool := shownExcept ['"', '<', '>', '`']
def safeInQuery : Char → Bool := shownExcept ['"', '#', '<', '>']
def safeInPath : Char → Bool := shownExcept ['"', '#', '<', '>', '?', '`', '\x7b', '\x7d']
def safeInUserinfo : Char → Bool :=
  shownExcept ['"', '#', '<', '>', '?', '`', '\x7b', '\x7d', '/', ';', '=', '@', '[', '\\', ']', '^', '|']
def safeInHost (c : Char) : Bool :=
  isSubDelimiter c || ['"', '`', '\x7b', '\x7d', '%', '|', '\\'].contains c

/-- A host in the form in which it is sent. -/
def encodeHost (host : List Char) : Except Error (List Char) :=
  if host.isEmpty then .ok []
  else if Address.isFourRuns host then
    if Address.isIPv4 host then .ok host else .error (.ipv4 (String.ofList host))
  else if host.head? = some '[' ∧ host.getLast? = some ']' then
    let address := (host.drop 1).dropLast
    if Address.isIPv6 address then .ok address else .error (.ipv6 (String.ofList host))
  else if host.all (·.toNat < 0x80) then
    .ok (Percent.encode safeInHost (host.map Char.toLower))
  else match DomainName.encode (Text.lowerChars host) with
    | .ok name => .ok name
    | .error _ => .error (.name (String.ofList host))

/-- The port that a scheme has if none is given. -/
def defaultPort? (scheme : List Char) : Option Int :=
  [("ftp", 21), ("http", 80), ("https", 443), ("ws", 80), ("wss", 443)].lookup
    (String.ofList scheme)

/-- A port, unless it is the one that the scheme, as it is written, has anyway. -/
def readPort (scheme cs : List Char) : Except Error (Option Int) :=
  if cs.isEmpty then .ok none
  else match readInteger? cs with
    | none => .error (.port (String.ofList cs))
    | some n => .ok (if defaultPort? scheme = some n then none else some n)

/-- Where a path may not start as it does. -/
def checkPath (hasScheme hasAuthority : Bool) (path : List Char) : Except Error Unit :=
  if hasAuthority then
    if !path.isEmpty && path.head? != some '/' then .error .relativePath else .ok ()
  else if hasScheme then .ok ()
  else if path.take 2 = ['/', '/'] then .error .doubleSlash
  else if path.head? = some ':' then .error .leadingColon
  else .ok ()

/-- One segment behind others, nearest first; a double dot takes the nearest away. -/
def pushSegment (done : List (List Char)) (segment : List Char) : List (List Char) :=
  if segment = ['.'] then done
  else if segment = ['.', '.'] then if done.isEmpty || done == [[]] then done else done.drop 1
  else segment :: done

def removeDots (path : List Char) : List Char :=
  Text.join '/' ((Text.pieces (· == '/') path).foldl pushSegment []).reverse

/-- Where a URL leads: the parts of its authority. -/
structure Authority where
  userinfo : List Char
  host : List Char
  port : Option Int
  deriving DecidableEq, Repr

def Authority.isGiven (a : Authority) : Bool :=
  !a.userinfo.isEmpty || !a.host.isEmpty || a.port.isSome

/-- The authority that a text writes, `scheme` being in front of it. -/
def readAuthority (scheme cs : List Char) : Except Error Authority := do
  let (userinfo, rest) := takeUserinfo cs
  let (host, rest) := takeHost rest
  let host ← encodeHost host
  let port ← readPort scheme ((after? ':' rest).getD rest)
  return { userinfo := Percent.encode safeInUserinfo userinfo, host, port }

def ofParts (p : Parts) : Except Error Url := do
  let a ← readAuthority p.scheme p.authority
  let hasScheme := !p.scheme.isEmpty
  let hasAuthority := a.isGiven
  checkPath hasScheme hasAuthority p.path
  return {
    scheme := p.scheme.map Char.toLower
    userinfo := a.userinfo
    host := a.host
    port := a.port
    path := Percent.encode safeInPath
      (if hasScheme || hasAuthority then removeDots p.path else p.path)
    query := p.query.map (Percent.encode safeInQuery)
    fragment := p.fragment.map (Percent.encode safeInFragment) }

def read (cs : List Char) : Except Error Url :=
  if maxLength < cs.length then .error .tooLong
  else match cs.find? isControl with
    | some c => .error (.unprintable c (cs.takeWhile (!isControl ·)).length)
    | none => ofParts (Parts.ofChars cs)

end Bearer.Url
