import Bearer.DomainName
import Bearer.Url.Percent

/-!
# URLs

A `Url` holds its parts as they are sent: in ASCII, escaped, with the scheme in lower case and
without the port that the scheme has anyway. `text` writes them behind one another.
-/

namespace Bearer

structure Url where
  scheme : List Char := []
  userinfo : List Char := []
  /-- A name in ASCII or an address without brackets. -/
  host : List Char := []
  port : Option Int := none
  path : List Char := []
  query : Option (List Char) := none
  fragment : Option (List Char) := none
  deriving DecidableEq, Repr, Inhabited

namespace Url

/-- Something with a character in front, if it is there. -/
def led (c : Char) : Option (List Char) → List Char
  | some cs => c :: cs
  | none => []

def netloc (u : Url) : List Char :=
  (if u.host.contains ':' then '[' :: u.host ++ [']'] else u.host)
    ++ led ':' (u.port.map fun n => (toString n).toList)

def authority (u : Url) : List Char :=
  (if u.userinfo.isEmpty then [] else u.userinfo ++ ['@']) ++ u.netloc

def chars (u : Url) : List Char :=
  (if u.scheme.isEmpty then [] else u.scheme ++ [':'])
    ++ (if u.authority.isEmpty then [] else '/' :: '/' :: u.authority)
    ++ u.path ++ led '?' u.query ++ led '#' u.fragment

def text (u : Url) : String := String.ofList u.chars

/-- The host as people read it. -/
def readableHost (u : Url) : Except DomainName.Error (List Char) :=
  if DomainName.mark.isPrefixOf u.host then DomainName.decode u.host else .ok u.host

/-- User name and password, if either is given. -/
def credentials? (u : Url) : Option (String × String) :=
  let user := String.ofList (Percent.decodeText (u.userinfo.takeWhile (· != ':')))
  let password := String.ofList (Percent.decodeText (u.userinfo.dropWhile (· != ':') |>.drop 1))
  if user.isEmpty && password.isEmpty then none else some (user, password)

def isAbsolute (u : Url) : Bool := !u.scheme.isEmpty && !u.host.isEmpty

/-- A URL that is not absolute keeps its path, from the root, and its query only. -/
def rooted (u : Url) : Url :=
  if u.isAbsolute then u
  else { path := '/' :: u.path.dropWhile (· == '/'), query := u.query }

end Url

end Bearer
