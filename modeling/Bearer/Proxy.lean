import Bearer.Environment
import Bearer.Text.Blank
import Bearer.Url.Address

/-!
# Proxies

An HTTP client goes through the proxies that the environment names, unless it exempts every host.
-/

namespace Bearer.Proxy

/-! ### Variables -/

/-- What a variable is a proxy for, in lower case, if it names one. -/
def kind? (name : String) : Option String :=
  let cs := name.toList
  let front := cs.take (cs.length - 6)
  let back := cs.drop (cs.length - 6)
  if back.head? = some '_' ∧ Text.lowerChars (back.drop 1) = "proxy".toList ∧ 6 ≤ cs.length then
    some (String.ofList (Text.lowerChars front))
  else none

/-- Is the name of a variable in the form that wins over others? -/
def isLower (name : String) : Bool := name.endsWith "_proxy"

/-- The proxy for something. A variable in lower case wins over others, also if it is empty; in a
program that a web server runs, the others may come from a request, and none of them is a proxy
for plain HTTP. -/
def value? (env : Environment) (kind : String) : Option String :=
  let named := env.filter fun (name, _) => kind? name = some kind
  match (named.filter fun (name, _) => isLower name).getLast? with
  | some (_, value) => if value.isEmpty then none else some value
  | none =>
    if kind = "http" ∧ (env.get? "REQUEST_METHOD").isSome then none
    else ((named.filter fun (_, value) => !value.isEmpty).getLast?).map (·.2)

def network (host : String) : List Char := host.toList.takeWhile (· != '/')

/-- Does a part stand anywhere in a text? -/
def occursIn (part : List Char) : List Char → Bool
  | [] => part.isEmpty
  | c :: cs => part.isPrefixOf (c :: cs) || occursIn part cs

def contains (s part : String) : Bool := occursIn part.toList s.toList

/-- The URL pattern of hosts that are exempt. -/
def exemption (host : String) : String :=
  if contains host "://" then host
  else if Address.isIPv4 (network host) then "all://" ++ host
  else if Address.isIPv6 (network host) then "all://[" ++ host ++ "]"
  else if Text.lower host = "localhost" then "all://" ++ host
  else "all://*" ++ host

def exempt (env : Environment) : List String :=
  ((Text.pieces (· == ',') ((value? env "no").getD "").toList).map
    fun cs => Text.strip (String.ofList cs)).filter (!·.isEmpty)

/-! ### Mounts -/

/-- URL patterns, each with the URL of the proxy for it, or without a proxy. -/
abbrev Mounts := List (String × Option String)

/-- A pattern that is there already keeps its place. -/
def Mounts.put (ms : Mounts) (pattern : String) (proxy : Option String) : Mounts :=
  if ms.any (·.1 == pattern) then ms.map fun (key, value) => (key, if key == pattern then proxy else value)
  else ms ++ [(pattern, proxy)]

/-- What the environment asks for; an exempt star exempts every host. -/
def mounts (env : Environment) : Mounts :=
  if (exempt env).contains "*" then []
  else
    let proxied := ["http", "https", "all"].filterMap fun kind => (value? env kind).map fun value =>
      (kind ++ "://", some (if contains value "://" then value else "http://" ++ value))
    (exempt env).foldl (fun ms host => ms.put (exemption host) none) proxied

end Bearer.Proxy
