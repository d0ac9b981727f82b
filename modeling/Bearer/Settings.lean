import Bearer.Endpoint
import Bearer.Environment
import Bearer.Text.Blank
import Bearer.Token
import Bearer.TokenInfo.Parser

/-!
# Settings

What a client is set up from: keywords, and an environment for whatever they leave out. Settings
that are accepted have endpoints without white space around them, which are asked over HTTPS
unless plain HTTP was allowed for local testing, and client credentials are complete.
-/

namespace Bearer

open Json (Members)

structure Settings where
  endpoint : String
  queryParameter : Option String := none
  fallback : Option String := none
  method : Method := .get
  clientId : Option String := none
  clientSecret : Option String := none
  httpTimeout : Double := .ofInt 5
  maxResponseBytes : Int := 1000000
  retryBudget : Option Double := none
  salt : String := Token.defaultSalt
  unsafeLocalDev : Bool := false
  deriving DecidableEq, Repr, Inhabited

namespace Settings

/-! ### Fields -/

/-- An endpoint without the white space around it. -/
def endpointText : Field.Read String := fun v =>
  match Field.text v with
  | .error why => .error why
  | .ok s =>
    let s := Text.strip s
    if s.isEmpty then .error (.rule "Endpoint must not be empty") else .ok s

/-- A method in any letter case, with white space around it. -/
def methodText : Field.Read Method
  | .str t => Field.method (.str t.strip.upper)
  | v => Field.method v

def fieldNames : List String := [
  "endpoint", "query_parameter", "fallback_endpoint", "method", "client_id", "client_secret",
  "http_timeout", "max_response_bytes", "retry_budget", "pii_salt", "unsafe_local_dev"]

/-- What the names of variables start with, in lower case. -/
def variablePrefix : String := "coreason_introspection_"

/-- The settings in named values, not yet checked together. -/
def readFields (fields : Members) : Checked Settings :=
  let optionalText (name : String) : Checked (Option String) :=
    Field.withDefault fields name none (Field.optional Field.text)
  let fallback := Field.withDefault fields "fallback_endpoint" none (Field.optional endpointText)
  let timeout := Field.withDefault fields "http_timeout" (.ofInt 5) (Field.numberAbove 0)
  let maxBytes := Field.withDefault fields "max_response_bytes" 1000000 (Field.integerAbove 0)
  let budget :=
    Field.withDefault fields "retry_budget" none (Field.optional (Field.numberAtLeast 0))
  let salt := Field.withDefault fields "pii_salt" Token.defaultSalt Field.text
  let address := (Field.required fields "endpoint" endpointText).both <|
    (optionalText "query_parameter").both <|
    fallback.both <| Field.withDefault fields "method" .get methodText
  let credentials := (optionalText "client_id").both (optionalText "client_secret")
  let limits := timeout.both <| maxBytes.both <| budget.both <| salt.both <|
    Field.withDefault fields "unsafe_local_dev" false Field.bool
  (address.both <| credentials.both limits).map
    (fun ((endpoint, queryParameter, fallback, method), (clientId, clientSecret), httpTimeout,
        maxResponseBytes, retryBudget, salt, unsafeLocalDev) =>
      { endpoint, queryParameter, fallback, method, clientId, clientSecret, httpTimeout
        maxResponseBytes, retryBudget, salt, unsafeLocalDev })
    |> Checked.withIssues (Field.extras fieldNames fields)

/-! ### Rules -/

/-- Would a token be sent in the clear? -/
def isPlainHttp (url : String) : Bool := (Text.lower url).startsWith "http://"

def plainHttpRefusal (field : String) : Refusal :=
  .rule ("HTTPS is required for '" ++ field ++ "' in production. "
    ++ "Set 'unsafe_local_dev=True' only for local testing.")

/-- The first rule that settings break. -/
def broken? (s : Settings) : Option Refusal :=
  if !s.unsafeLocalDev && isPlainHttp s.endpoint then some (plainHttpRefusal "endpoint")
  else if !s.unsafeLocalDev && s.fallback.any isPlainHttp then
    some (plainHttpRefusal "fallback_endpoint")
  else if s.clientId.isSome != s.clientSecret.isSome then
    some (.rule "'client_id' and 'client_secret' must be set together")
  else none

def check (s : Settings) : Checked Settings :=
  match s.broken? with
  | some why => .error [⟨[], why⟩]
  | none => .ok s

def read (env : Environment) (keywords : Members) : Checked Settings :=
  match readFields (Field.ofEnvironment fieldNames variablePrefix env keywords) with
  | .ok s => s.check
  | .error issues => .error issues

def ofEnvironment (env : Environment) : Except Failure Settings :=
  (read env []).mapError (.initialization "Invalid introspection configuration")

/-! ### Text -/

def optionalQuoted (s : Option String) : String := (s.map Text.quoted).getD "None"

/-- A secret, of which only shows whether it is empty. -/
def secretText (s : String) : String :=
  "SecretStr('" ++ (if s.isEmpty then "" else "**********") ++ "')"

/-- All settings, secrets hidden. -/
def text (s : Settings) : String :=
  "IntrospectionConfig(endpoint=" ++ Text.quoted s.endpoint
    ++ ", query_parameter=" ++ optionalQuoted s.queryParameter
    ++ ", fallback_endpoint=" ++ optionalQuoted s.fallback
    ++ ", method=" ++ Text.quoted s.method.word
    ++ ", client_id=" ++ optionalQuoted s.clientId
    ++ ", client_secret=" ++ (s.clientSecret.map secretText).getD "None"
    ++ ", http_timeout=" ++ s.httpTimeout.text
    ++ ", max_response_bytes=" ++ toString s.maxResponseBytes
    ++ ", retry_budget=" ++ (s.retryBudget.map Double.text).getD "None"
    ++ ", pii_salt=" ++ secretText s.salt
    ++ ", unsafe_local_dev=" ++ boolText s.unsafeLocalDev ++ ")"

end Settings

/-! ### Parsers -/

namespace FieldParser

def fieldNames : List String := [
  "active_field", "user_id_field", "scope_field", "expires_in_field", "client_id_field", "strict",
  "expires_is_timestamp"]

/-- What the names of variables start with, in lower case. -/
def variablePrefix : String := "coreason_introspection_parser_"

def read (env : Environment) (keywords : Members) : Checked FieldParser :=
  let fields := Field.ofEnvironment fieldNames variablePrefix env keywords
  let name (field : String) : Checked (Option RawText) :=
    Field.withDefault fields field none (Field.optional Field.rawText)
  let flag (field : String) (default : Bool) : Checked Bool :=
    Field.withDefault fields field default Field.bool
  let names := (name "active_field").both <| (name "user_id_field").both <|
    (name "scope_field").both <| (name "expires_in_field").both (name "client_id_field")
  (names.both <| (flag "strict" true).both (flag "expires_is_timestamp" false)).map
    (fun ((activeField, userIdField, scopeField, expiresInField, clientIdField), strict,
        expiresIsTimestamp) =>
      { activeField, userIdField, scopeField, expiresInField, clientIdField, strict
        expiresIsTimestamp })
    |> Checked.withIssues (Field.extras fieldNames fields)

def ofEnvironment (env : Environment) : Except Failure FieldParser :=
  (read env []).mapError (.initialization "Invalid token info parser configuration")

def optionalQuoted (t : Option RawText) : String := (t.map RawText.quoted).getD "None"

def text (p : FieldParser) : String :=
  "ParserConfig(active_field=" ++ optionalQuoted p.activeField
    ++ ", user_id_field=" ++ optionalQuoted p.userIdField
    ++ ", scope_field=" ++ optionalQuoted p.scopeField
    ++ ", expires_in_field=" ++ optionalQuoted p.expiresInField
    ++ ", client_id_field=" ++ optionalQuoted p.clientIdField
    ++ ", strict=" ++ boolText p.strict
    ++ ", expires_is_timestamp=" ++ boolText p.expiresIsTimestamp ++ ")"

end FieldParser

end Bearer
