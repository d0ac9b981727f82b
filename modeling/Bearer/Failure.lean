import Bearer.Issue
import Bearer.Json.Shown

/-!
# Failures

Every failure has a kind. The kinds of this library form a tree with `introspection` at its root;
`foreign` kinds come from a transport, a custom parser or the runtime and are known by name only.
Two properties of a kind steer a call: whether the same request may be tried again, and whether
another endpoint may be asked instead.
-/

namespace Bearer

inductive Kind where
  | introspection
  | initialization
  | tokenInput
  | tokenInfoParse
  | notAUser
  | tokenInfo
  | responseContent
  | oversized
  | url
  | notAuthenticated
  | connection
  | bodyRead
  | status
  | client
  | server
  | unexpected
  | budget
  | foreign (name : String)
  deriving DecidableEq, Repr, Inhabited

namespace Kind

def word : Kind → String
  | introspection => "CoreasonIntrospectionError"
  | initialization => "InitializationError"
  | tokenInput => "InvalidTokenInputError"
  | tokenInfoParse => "TokenInfoParseError"
  | notAUser => "NotAUserError"
  | tokenInfo => "TokenInfoError"
  | responseContent => "InvalidResponseContentError"
  | oversized => "OversizedResponseError"
  | url => "UrlError"
  | notAuthenticated => "NotAuthenticatedError"
  | connection => "IntrospectionConnectionError"
  | bodyRead => "IntrospectionIOError"
  | status => "StatusError"
  | client => "ClientError"
  | server => "ServerError"
  | unexpected => "UnexpectedResponseError"
  | budget => "BudgetExceededError"
  | foreign name => name

/-- The kinds of this library. -/
def own : List Kind := [
  introspection, initialization, tokenInput, tokenInfoParse, notAUser, tokenInfo, responseContent,
  oversized, url, notAuthenticated, connection, bodyRead, status, client, server, unexpected,
  budget]

def ofWord (w : String) : Kind := (own.find? (·.word == w)).getD (foreign w)

/-- Failures of the HTTP layer with the kind that each is a special case of. -/
def transportParents : List (String × String) := [
  ("HTTPError", "Exception"), ("RequestError", "HTTPError"), ("HTTPStatusError", "HTTPError"),
  ("TransportError", "RequestError"), ("DecodingError", "RequestError"),
  ("TooManyRedirects", "RequestError"), ("TimeoutException", "TransportError"),
  ("ConnectTimeout", "TimeoutException"), ("ReadTimeout", "TimeoutException"),
  ("WriteTimeout", "TimeoutException"), ("PoolTimeout", "TimeoutException"),
  ("NetworkError", "TransportError"), ("ConnectError", "NetworkError"),
  ("ReadError", "NetworkError"), ("WriteError", "NetworkError"), ("CloseError", "NetworkError"),
  ("ProxyError", "TransportError"), ("UnsupportedProtocol", "TransportError"),
  ("ProtocolError", "TransportError"), ("LocalProtocolError", "ProtocolError"),
  ("RemoteProtocolError", "ProtocolError"), ("InvalidURL", "Exception"),
  ("CookieConflict", "Exception"), ("StreamError", "RuntimeError"),
  ("StreamConsumed", "StreamError"), ("StreamClosed", "StreamError"),
  ("ResponseNotRead", "StreamError"), ("RequestNotRead", "StreamError")]

/-- Failures of the runtime with the kind that each is a special case of. -/
def runtimeParents : List (String × String) := [
  ("ArithmeticError", "Exception"), ("OverflowError", "ArithmeticError"),
  ("ZeroDivisionError", "ArithmeticError"), ("FloatingPointError", "ArithmeticError"),
  ("LookupError", "Exception"), ("KeyError", "LookupError"), ("IndexError", "LookupError"),
  ("OSError", "Exception"), ("TimeoutError", "OSError"), ("ConnectionError", "OSError"),
  ("ConnectionResetError", "ConnectionError"), ("ConnectionRefusedError", "ConnectionError"),
  ("ConnectionAbortedError", "ConnectionError"), ("BrokenPipeError", "ConnectionError"),
  ("PermissionError", "OSError"), ("FileNotFoundError", "OSError"), ("FileExistsError", "OSError"),
  ("IsADirectoryError", "OSError"), ("NotADirectoryError", "OSError"),
  ("InterruptedError", "OSError"), ("BlockingIOError", "OSError"),
  ("ChildProcessError", "OSError"), ("ProcessLookupError", "OSError"),
  ("RecursionError", "RuntimeError"), ("NotImplementedError", "RuntimeError"),
  ("RuntimeError", "Exception"), ("UnicodeError", "ValueError"),
  ("UnicodeDecodeError", "UnicodeError"), ("UnicodeEncodeError", "UnicodeError"),
  ("ModuleNotFoundError", "ImportError"), ("UnboundLocalError", "NameError"),
  ("IndentationError", "SyntaxError"), ("TabError", "IndentationError")]

/-- The chain of names above a foreign one. -/
def foreignAncestors : (fuel : Nat) → String → List String
  | 0, _ => []
  | fuel + 1, name =>
    if name = "Exception" then []
    else
      let parent := ((transportParents ++ runtimeParents).lookup name).getD "Exception"
      parent :: foreignAncestors fuel parent

/-- What a kind is a special case of, the nearest first. -/
def ancestors : Kind → List Kind
  | introspection => [foreign "Exception"]
  | initialization | tokenInfoParse | notAUser | tokenInfo => [introspection, foreign "Exception"]
  | tokenInput => [introspection, foreign "ValueError", foreign "Exception"]
  | responseContent | url | notAuthenticated | connection | bodyRead | status | budget =>
    [tokenInfo, introspection, foreign "Exception"]
  | oversized => [responseContent, tokenInfo, introspection, foreign "Exception"]
  | client | server | unexpected => [status, tokenInfo, introspection, foreign "Exception"]
  | foreign name => (foreignAncestors 8 name).map foreign

def isA (k ancestor : Kind) : Bool := k == ancestor || k.ancestors.contains ancestor

def isIntrospection : Kind → Bool
  | foreign _ => false
  | _ => true

/-- Did introspecting a token fail, rather than the call be wrong? -/
def isTokenInfo : Kind → Bool
  | introspection | initialization | tokenInput | tokenInfoParse | notAUser | foreign _ => false
  | _ => true

/-- May the same request succeed later? -/
def retrySuggested : Kind → Bool
  | tokenInfo | connection | bodyRead | status | server | unexpected => true
  | _ => false

/-- May another endpoint be asked instead? -/
def allowsFallback : Kind → Bool
  | client | budget => false
  | k => k.isTokenInfo

/-- Is it a failure to get or to read an HTTP answer? -/
def isTransport (k : Kind) : Bool := k.isA (foreign "HTTPError")

/-- What a failure that carries an HTTP status calls it. -/
def label? : Kind → Option String
  | status | unexpected => some "Unexpected response"
  | client => some "Client error"
  | server => some "Server error"
  | _ => none

end Kind

structure Failure where
  kind : Kind
  message : String
  cause : Option Kind := none
  response : Option (Int × String) := none
  issues : List Issue := []
  deriving DecidableEq, Repr, Inhabited

namespace Failure

/-- A failure that carries an HTTP status and the body that came with it. -/
def ofStatus (kind : Kind) (status : Int) (body : String) : Failure where
  kind := kind
  message := (kind.label?.getD "") ++ "(" ++ toString status ++ "): " ++ body
  response := some (status, body)

/-- A failure raised with one text. A missing key is shown in quotes. -/
def raised (kind : Kind) (text : String) : Failure where
  kind := kind
  message := if kind = .foreign "KeyError" then Text.quoted text else text

/-- A failure raised with any values: nothing, one value that stands alone, or several between
brackets. -/
def ofArguments (kind : Kind) (arguments : List Json.Value) : Failure where
  kind := kind
  message := match arguments with
    | [] => ""
    | [v] => if kind = .foreign "KeyError" then v.shown else v.alone
    | vs => "(" ++ ", ".intercalate (vs.map Json.Value.shown) ++ ")"

/-- The short form of a list of issues; the issues themselves go with the failure. -/
def issueSummary : String := "<validation errors>"

def ofIssues (issues : List Issue) : Failure where
  kind := .foreign "ValidationError"
  message := issueSummary
  issues := issues

/-- Values were refused while something was set up. -/
def initialization (what : String) (issues : List Issue) : Failure where
  kind := .initialization
  message := what ++ ": " ++ issueSummary
  cause := some (.foreign "ValidationError")
  issues := issues

/-- Assigning to a field of a value that never changes; a name with an underscore in front is no
field and may be set. -/
def assigning (field : String) : Except Failure Unit :=
  if field.startsWith "_" then .ok () else .error (ofIssues [⟨[.field field], .frozen⟩])

/-- Only transient failures of an introspection are tried again. -/
def isRetryable (f : Failure) : Bool := f.kind.retrySuggested

end Failure

end Bearer
