import Bearer.Digest.Base64
import Bearer.Endpoint
import Bearer.Level
import Bearer.Response
import Bearer.Url.Form

/-!
# Events

What can be seen of a call besides its answer: the requests that are sent, the executions, each of
them one request and what came of it, the time that is waited, the log records, what a metrics collector
is told and the finished spans.
-/

namespace Bearer

/-! ### Requests -/

/-- A request as it is sent; an empty body is no body. -/
structure Sent where
  method : Method
  url : Url
  body : String
  accept : String := "application/json"
  authorization : Option String
  contentType : Option String
  deriving DecidableEq, Repr

def basicAuthorization (credentials : String × String) : String :=
  "Basic " ++ Base64.encode (Utf8.encode (credentials.1 ++ ":" ++ credentials.2).toList)

/-- A request on its way to a URL. User information in the URL is used as credentials if the
request has none of its own. -/
def Request.send (r : Request) (url : Url) : Sent where
  method := r.method
  url := url
  body := (r.form.map Form.encode).getD ""
  authorization := (r.credentials <|> url.credentials?).map basicAuthorization
  contentType := r.form.map fun _ => "application/x-www-form-urlencoded"

/-- A request and what came of it, also if it could not be sent. -/
structure Execution where
  request : Request
  response : Option Response
  outcome : Except Failure TokenInfo
  deriving Repr

/-! ### Metrics -/

/-- What a metrics collector is told. A request is one call of the client, a service call one
exchange with an endpoint; each comes with the time at which it started. -/
inductive Signal where
  | incoming
  | request (started : Double)
  | requestSuccess (started : Double)
  | requestFailure (started : Double)
  | serviceCall (started : Double)
  | serviceCallSuccess (started : Double)
  | serviceCallFailure (started : Double)
  deriving DecidableEq, Repr

namespace Signal

def word : Signal → String
  | incoming => "incoming_introspection_request"
  | request _ => "introspection_request"
  | requestSuccess _ => "introspection_request_success"
  | requestFailure _ => "introspection_request_failure"
  | serviceCall _ => "introspection_service_call"
  | serviceCallSuccess _ => "introspection_service_call_success"
  | serviceCallFailure _ => "introspection_service_call_failure"

def started? : Signal → Option Double
  | incoming => none
  | request s | requestSuccess s | requestFailure s | serviceCall s | serviceCallSuccess s
  | serviceCallFailure s => some s

def ofWord? (w : String) (started : Double) : Option Signal :=
  [incoming, request started, requestSuccess started, requestFailure started, serviceCall started,
    serviceCallSuccess started, serviceCallFailure started].find? (·.word == w)

end Signal

/-! ### Spans -/

/-- The finished span of one call. It succeeded if there is no description of a failure. -/
structure Span where
  endpoint : Option String := none
  fingerprint : Option String := none
  active : Option Bool := none
  failure : Option String := none
  /-- The failures that were recorded, with the words for their kinds. -/
  recorded : List (String × String) := []
  deriving DecidableEq, Repr

/-- The span of a call that failed: it records the failure as it was met and as it left the call,
and is described by the latter. -/
def Span.fail (s : Span) (met left : Failure) : Span :=
  { s with
    failure := some (left.kind.word ++ ": " ++ left.message)
    recorded := [(met.kind.word, met.message), (left.kind.word, left.message)] }

/-! ### Events -/

/-- What a record shows of a failure that is none of this library, as it was met: values of variables. -/
structure Trace where
  met : Failure
  shown : List String
  deriving DecidableEq, Repr

inductive Event where
  | request (sent : Sent)
  | execution (x : Execution)
  | attempt (number : Nat) (time nextWait : Double)
  | wait (seconds : Double)
  | log (level : Level) (message : String) (trace : Option Trace := none)
  | signal (s : Signal) (time : Double)
  | span (s : Span)
  deriving Repr

end Bearer
