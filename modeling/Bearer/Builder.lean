import Bearer.HttpClient
import Bearer.Session
import Bearer.Settings

/-!
# Builders

A builder collects what a client is made of, one value after another, and makes a client of any
mode. Values are checked when the client is made, all at once; setting a value twice leaves the
later one.
-/

namespace Bearer

open Json (Value)

structure Builder where
  parser : Option Provider := none
  endpoint : Value := .null
  fallback : Value := .null
  queryParameter : Value := .null
  method : RawText := "GET"
  clientId : Value := .null
  clientSecret : Value := .null
  /-- Seconds; there is no limit without them. -/
  httpTimeout : Option Double := some (.ofInt 5)
  maxResponseBytes : Int := 1000000
  retryBudget : Option Budget := none
  salt : String := Token.defaultSalt

/-- A value to set. -/
inductive Setting where
  | parser (p : Provider)
  | endpoint (v : Value)
  | fallback (v : Value)
  | queryParameter (v : Value)
  | method (v : Value)
  | credentials (id secret : Value)
  | httpTimeout (seconds : Option Double)
  | maxResponseBytes (n : Int)
  | retryBudget (b : Option Budget)
  | salt (s : String)

/-- What a client is made of, with the settings of its HTTP connection. -/
structure Built where
  session : Session
  provider : Provider
  timeout : Option Double
  /-- Requests are traced, unless their URLs hold tokens. -/
  traced : Bool

namespace Builder

/-- Sets a value. A method is taken in upper case, without white space around it. -/
def set (b : Builder) : Setting → Except Failure Builder
  | .parser p => .ok { b with parser := some p }
  | .endpoint v => .ok { b with endpoint := v }
  | .fallback v => .ok { b with fallback := v }
  | .queryParameter v => .ok { b with queryParameter := v }
  | .method (.str s) => .ok { b with method := s.strip.upper }
  | .method v => .error <| .raised (.foreign "AttributeError")
      ("'" ++ v.kind ++ "' object has no attribute 'strip'")
  | .credentials id secret => .ok { b with clientId := id, clientSecret := secret }
  | .httpTimeout seconds => .ok { b with httpTimeout := seconds }
  | .maxResponseBytes n => .ok { b with maxResponseBytes := n }
  | .retryBudget budget => .ok { b with retryBudget := budget }
  | .salt s => .ok { b with salt := s }

/-! ### Making clients -/

def makeEndpoint (b : Builder) : Except Failure Endpoint :=
  match Endpoint.ofFields [
    ("endpoint", b.endpoint), ("query_parameter", b.queryParameter),
    ("fallback_endpoint", b.fallback), ("method", .str b.method), ("client_id", b.clientId),
    ("client_secret", b.clientSecret)] with
  | .ok e => .ok e
  | .error e =>
    let f := e.toFailure
    .error (if f.issues.isEmpty then f else .initialization "Invalid endpoint configuration" f.issues)

/-- The endpoint and the parser, which must both be there. -/
def resolve (b : Builder) : Except Failure (Endpoint × Provider) :=
  match b.parser, b.endpoint with
  | none, _ => .error (.raised .initialization "No token info parser.")
  | some _, .null => .error (.raised .initialization "No endpoint.")
  | some p, _ => b.makeEndpoint.map fun e => (e, p)

/-- Does a client have an HTTP client of its own? One that runs in the background always does, any other unless it is
lent one. -/
def ownsConnection (mode : Mode) (lent : Bool) : Bool := mode == .background || !lent

def connect (owned : Bool) (machine : Machine) (env : Environment) : Except Failure Unit :=
  if owned then (HttpClient.make machine env).mapError HttpClient.Error.toFailure else .ok ()

/-- The client that is made of an endpoint and a parser. -/
def assemble (b : Builder) (mode : Mode) (machine : Machine) (lent : Bool) (endpoint : Endpoint)
    (provider : Provider) : Built where
  session := {
    mode
    client := {
      endpoint
      parser := provider.fields.toParser machine.nesting
      maxResponseBytes := b.maxResponseBytes
      policy := mode.policy
      budget := b.retryBudget.getD mode.budget
      salt := b.salt
      awaits := mode.awaits }
    connection := { owned := ownsConnection mode lent } }
  provider
  timeout := b.httpTimeout
  traced := ownsConnection mode lent && endpoint.method = .post

/-- Makes a client, and its HTTP client unless that is lent. -/
def build (b : Builder) (mode : Mode) (env : Environment) (machine : Machine := {}) (lent : Bool := false) :
    Except Failure Built := do
  let (endpoint, provider) ← b.resolve
  connect (ownsConnection mode lent) machine env
  return b.assemble mode machine lent endpoint provider

/-! ### Starting points -/

def optionalValue (s : Option String) : Value := (s.map fun s => Value.str (.whole s)).getD .null

def planB (endpoint : Value) : Builder where
  parser := some .planB
  endpoint := endpoint
  queryParameter := .str Endpoint.accessTokenParameter

def googleV3 : Builder where
  parser := some .googleV3
  endpoint := .str Endpoint.googleUrl
  queryParameter := .str Endpoint.accessTokenParameter

def amazon : Builder where
  parser := some .amazon
  endpoint := .str Endpoint.amazonUrl
  queryParameter := .str Endpoint.accessTokenParameter

/-- Credentials are used only if both are given. -/
def rfc7662 (endpoint : Value) (clientId : Value := .null) (clientSecret : Value := .null) :
    Builder :=
  let b : Builder := { parser := some .rfc7662, endpoint, method := "POST" }
  match clientId, clientSecret with
  | .null, _ => b
  | _, .null => b
  | id, secret => { b with clientId := id, clientSecret := secret }

def ofSettings (s : Settings) (parser : Option Provider := none) : Builder where
  parser := parser
  endpoint := .str s.endpoint
  fallback := optionalValue s.fallback
  queryParameter := optionalValue s.queryParameter
  method := s.method.word
  clientId := optionalValue s.clientId
  clientSecret := optionalValue s.clientSecret
  httpTimeout := some s.httpTimeout
  maxResponseBytes := s.maxResponseBytes
  retryBudget := s.retryBudget.map .double
  salt := s.salt

/-- A builder from an environment, which also names the members that the parser reads. -/
def ofEnvironment (env : Environment) : Except Failure Builder := do
  let s ← Settings.ofEnvironment env
  let p ← FieldParser.ofEnvironment env
  return ofSettings s (some (.custom p))

/-- A builder from an environment for a provider with a query parameter. -/
def planBOfEnvironment (env : Environment) : Except Failure Builder := do
  let b := ofSettings (← Settings.ofEnvironment env) (some .planB)
  match b.queryParameter with
  | .null => return { b with queryParameter := .str Endpoint.accessTokenParameter }
  | _ => return b

end Builder

end Bearer
