import Bearer.Failure
import Bearer.Proxy
import Bearer.Url.Join

/-!
# HTTP clients

When an HTTP client is made, the URLs of its proxies are read, certificates are loaded, and each URL pattern gets
the transport for it. What goes wrong on the way is an exception of the HTTP layer or of what it rests on.
-/

namespace Bearer

/-- Where the certificates come from that servers are trusted by. -/
inductive Certificates where
  | bundled
  | file (path : String)
  | directory (path : String)
  deriving DecidableEq, Repr

/-- What the machine that a client runs on brings along. -/
structure Machine where
  /-- Loads certificates, and opens the file that keys are written to, if one is named. It may end with an
  exception, of which the class and the text are given. -/
  load : Certificates → Option String → Except (String × String) Unit := fun _ _ => .ok ()
  /-- Can SOCKS proxies be used? They take a package of their own. -/
  socks : Bool := false
  /-- How many containers of JSON may stand inside each other. -/
  nesting : Nat := 1000

namespace HttpClient

inductive Error where
  | invalidUrl (error : Url.Error)
  | unknownScheme (url : Url)
  | unreadableHost (error : DomainName.Error)
  | noSocks
  | notLoaded (name text : String)
  deriving DecidableEq, Repr

/-- A URL whose password does not show. -/
def maskedText (u : Url) : String :=
  if u.userinfo.contains ':' then
    let user := u.userinfo.takeWhile (· != ':')
    { u with userinfo := user ++ ":[secure]".toList }.text
  else u.text

def Error.toFailure : Error → Failure
  | invalidUrl e => .raised (.foreign "InvalidURL") e.message
  | unknownScheme u => .raised (.foreign "ValueError")
      ("Unknown scheme for proxy URL URL(" ++ Text.quoted (maskedText u) ++ ")")
  | unreadableHost e => .raised (.foreign e.kind) e.message
  | noSocks => .raised (.foreign "ImportError")
      ("Using SOCKS proxy, but the 'socksio' package is not installed. "
        ++ "Make sure to install httpx using " ++ "`pip install httpx[socks]`.")
  | notLoaded name text => .raised (.foreign name) text

def readUrl (text : String) : Except Error Url := (Url.read text.toList).mapError .invalidUrl

def isSocks (u : Url) : Bool := ["socks5", "socks5h"].contains (String.ofList u.scheme)

/-- The URL of a proxy. User and password are taken out of it. -/
def readProxy (text : String) : Except Error Url := do
  let url ← readUrl text
  if !(["http", "https", "socks5", "socks5h"].contains (String.ofList url.scheme)) then .error (.unknownScheme url)
  else
    if url.credentials?.isSome then (Url.checkParts url.withParts.named).mapError .invalidUrl
    return { url with userinfo := [] }

/-- The proxies of all patterns. -/
def readProxies : Proxy.Mounts → Except Error (List (String × Option Url))
  | [] => return []
  | (pattern, none) :: ms => do return (pattern, none) :: (← readProxies ms)
  | (pattern, some text) :: ms => do
    let url ← readProxy text
    return (pattern, some url) :: (← readProxies ms)

/-- The certificates that the environment names; a file wins over a directory. -/
def certificates (env : Environment) : Certificates :=
  let named (name : String) : Option String := (env.get? name).filter (!·.isEmpty)
  match named "SSL_CERT_FILE", named "SSL_CERT_DIR" with
  | some path, _ => .file path
  | none, some path => .directory path
  | none, none => .bundled

def secure (machine : Machine) (env : Environment) : Except Error Unit :=
  (machine.load (certificates env) ((env.get? "SSLKEYLOGFILE").filter (!·.isEmpty))).mapError
    fun (name, text) => .notLoaded name text

/-- Takes a URL pattern apart and makes the transport for it. -/
def mount (machine : Machine) (env : Environment) (pattern : String) (proxy : Option Url) : Except Error Unit := do
  let url ← readUrl pattern
  let _ ← url.readableHost.mapError Error.unreadableHost
  match proxy with
  | none => return ()
  | some proxy =>
    secure machine env
    if isSocks proxy && !machine.socks then .error .noSocks

/-- How making an HTTP client comes out. -/
def make (machine : Machine) (env : Environment) : Except Error Unit := do
  let mounts ← readProxies (Proxy.mounts env)
  secure machine env
  mounts.forM fun (pattern, proxy) => mount machine env pattern proxy

end HttpClient

end Bearer
