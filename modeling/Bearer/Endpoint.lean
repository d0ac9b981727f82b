import Bearer.Failure
import Bearer.Field
import Bearer.Url.Reader

/-!
# Introspection endpoints

Where a token is sent and how: in the URL with GET, behind a query parameter or as the last segment
of the path, or in a form with POST. Every URL but an empty one is checked when the endpoint is made, so
making a request for a token does not fail.
-/

namespace Bearer

inductive Method where
  | get
  | post
  deriving DecidableEq, Repr, Inhabited

def Method.word : Method → String
  | get => "GET"
  | post => "POST"

def Field.method : Field.Read Method
  | .str (.whole "GET") => .ok .get
  | .str (.whole "POST") => .ok .post
  | .str (.broken _) => .error .notUnicode
  | _ => .error .notAMethod

/-! ### URL prefixes -/

inductive UrlRefusal where
  | invalid (error : Url.Error)
  | notAbsolute (url : String)
  | host (error : DomainName.Error)
  deriving DecidableEq, Repr

namespace UrlRefusal

def message : UrlRefusal → String
  | invalid e => "Invalid URL: " ++ e.message
  | notAbsolute url => "Invalid URL: '" ++ url ++ "' must be an absolute http(s) URL"
  | host e => e.message

def toFailure : UrlRefusal → Failure
  | invalid e => {
      kind := .initialization
      message := (invalid e).message
      cause := some (.foreign "InvalidURL") }
  | notAbsolute url => .raised .initialization (notAbsolute url).message
  | host e => .raised (.foreign e.kind) e.message

end UrlRefusal

/-- An absolute URL that can be asked over HTTP. -/
def checkUrl (url : String) : Except UrlRefusal Unit :=
  match Url.read url.toList with
  | .error e => .error (.invalid e)
  | .ok u =>
    if String.ofList u.scheme != "http" && String.ofList u.scheme != "https" then
      .error (.notAbsolute url)
    else match u.readableHost with
      | .error e => .error (.host e)
      | .ok host => if host.isEmpty then .error (.notAbsolute url) else .ok ()

def stripSlash (cs : List Char) : List Char :=
  if cs.getLast? = some '/' then cs.dropLast else cs

/-- What stands between an endpoint and a token. -/
def joint (bare : List Char) : Option String → List Char
  | none => ['/']
  | some p => (if bare.contains '?' then '&' else '?') :: p.toList ++ ['=']

/-- What stands in front of a token in a URL, not yet checked. An empty parameter is none. -/
def joinUrl (endpoint : String) (parameter : Option String) : String :=
  let bare := stripSlash endpoint.toList
  String.ofList (bare ++ joint bare (parameter.filter (!·.isEmpty)))

/-- The token that URLs are checked with. -/
def sampleToken : String := "test_token"

def urlPrefix (endpoint : String) (parameter : Option String) : Except UrlRefusal String :=
  let front := joinUrl endpoint parameter
  (checkUrl (front ++ sampleToken)).map fun _ => front

/-! ### Endpoints -/

structure Endpoint where
  endpoint : String
  queryParameter : Option String := none
  fallback : Option String := none
  method : Method := .get
  clientId : Option String := none
  clientSecret : Option String := none
  deriving DecidableEq, Repr, Inhabited

structure Request where
  method : Method
  url : String
  /-- The endpoint that is asked, without the token. -/
  endpoint : String
  form : Option (List (String × String)) := none
  /-- User name and password. -/
  credentials : Option (String × String) := none
  deriving DecidableEq, Repr, Inhabited

namespace Endpoint

inductive Error where
  | fields (issues : List Issue)
  | parameterWithPost
  | url (refusal : UrlRefusal)
  deriving DecidableEq, Repr

/-- A host that cannot be read counts as a value that breaks a rule. -/
def Error.toFailure : Error → Failure
  | fields issues => .ofIssues issues
  | parameterWithPost =>
    .raised .initialization "A query parameter cannot be used with POST introspection requests"
  | url (.host e) => .ofIssues [⟨[], .rule e.message⟩]
  | url refusal => refusal.toFailure

/-- The endpoints that are asked; an empty one is not looked at. -/
def urls (e : Endpoint) : List String := (e.endpoint :: e.fallback.toList).filter (!·.isEmpty)

/-- Checks that no request to an endpoint that is looked at can fail to be made. -/
def check (e : Endpoint) : Except Error Unit :=
  match e.method with
  | .post =>
    if e.queryParameter.any (!·.isEmpty) then .error .parameterWithPost
    else (e.urls.forM checkUrl).mapError .url
  | .get => (e.urls.forM fun url => (urlPrefix url e.queryParameter).map fun _ => ()).mapError .url

def fieldNames : List String :=
  ["endpoint", "query_parameter", "fallback_endpoint", "method", "client_id", "client_secret"]

/-- The values of an endpoint, not yet checked together. -/
def readFields (fields : Json.Members) : Checked Endpoint :=
  let optionalText (name : String) : Checked (Option String) :=
    Field.withDefault fields name none (Field.optional Field.text)
  let endpoint := Field.required fields "endpoint" Field.text
  let method := Field.withDefault fields "method" .get Field.method
  (endpoint.both <| (optionalText "query_parameter").both <| (optionalText "fallback_endpoint").both
      <| method.both <| (optionalText "client_id").both (optionalText "client_secret")).map
    (fun (endpoint, queryParameter, fallback, method, clientId, clientSecret) =>
      { endpoint, queryParameter, fallback, method, clientId, clientSecret })
    |> Checked.withIssues (Field.extras fieldNames fields)

def ofFields (fields : Json.Members) : Except Error Endpoint := do
  let e ← (readFields fields).mapError .fields
  e.check
  return e

/-! ### Well-known endpoints -/

def accessTokenParameter : String := "access_token"
def googleUrl : String := "https://www.googleapis.com/oauth2/v3/tokeninfo"
def amazonUrl : String := "https://api.amazon.com/auth/O2/tokeninfo"

def googleV3 : Except Error Endpoint :=
  ofFields [("endpoint", .str googleUrl), ("query_parameter", .str accessTokenParameter)]

def amazon : Except Error Endpoint :=
  ofFields [("endpoint", .str amazonUrl), ("query_parameter", .str accessTokenParameter)]

def planB (endpoint : Json.Value) (fallback : Json.Value := .null) : Except Error Endpoint :=
  ofFields [
    ("endpoint", endpoint), ("query_parameter", .str accessTokenParameter),
    ("fallback_endpoint", fallback)]

def rfc7662 (endpoint : Json.Value) (clientId : Json.Value := .null)
    (clientSecret : Json.Value := .null) : Except Error Endpoint :=
  ofFields [
    ("endpoint", endpoint), ("method", .str "POST"), ("client_id", clientId),
    ("client_secret", clientSecret)]

/-! ### Requests -/

/-- What stands in front of a token when the first endpoint is asked with GET. -/
def front (e : Endpoint) : Except UrlRefusal String := urlPrefix e.endpoint e.queryParameter

/-- User name and password; both must be given. -/
def credentials (e : Endpoint) : Option (String × String) :=
  match e.clientId, e.clientSecret with
  | some id, some secret => some (id, secret)
  | _, _ => none

def quoteToken (token : String) : String :=
  String.ofList (Percent.encode (fun _ => false) token.toList)

def requestTo (e : Endpoint) (url token : String) : Except Failure Request :=
  match e.method with
  | .post => .ok {
      method := .post, url, endpoint := url
      form := some [("token", token), ("token_type_hint", "access_token")]
      credentials := e.credentials }
  | .get => match urlPrefix url e.queryParameter with
    | .error refusal => .error refusal.toFailure
    | .ok front => .ok { method := .get, url := front ++ quoteToken token, endpoint := url }

def asked (e : Endpoint) (fallback : Bool) : Option String :=
  if fallback then e.fallback else some e.endpoint

def request (e : Endpoint) (token : String) (fallback : Bool := false) : Except Failure Request :=
  match e.asked fallback with
  | some url => e.requestTo url token
  | none => .error (.raised .initialization "No fallback endpoint configured")

end Endpoint

end Bearer
