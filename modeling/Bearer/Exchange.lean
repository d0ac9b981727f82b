import Bearer.Network
import Bearer.Redirect
import Bearer.Response

/-!
# HTTP exchanges

One request is sent and its answer read. At most a given number of bytes is taken from a body, and
whatever goes wrong with the connection becomes a failure of the introspection.
-/

namespace Bearer

namespace Answer

/-- The values of a header, joined; names are compared without regard to letter case. -/
def header? (a : Answer) (name : String) : Option String :=
  let fold (s : String) : String := String.ofList (s.toList.map Char.toLower)
  match (a.headers.filter fun (n, _) => fold n == fold name).map (·.2) with
  | [] => none
  | vs => some (", ".intercalate vs)

/-- The length of the body as the headers declare it, if they do so legibly. -/
def declaredLength? (a : Answer) : Option Int :=
  (a.header? "content-length").bind fun s => if s.isEmpty then none else readInteger? s.toList

/-- The chunks that come before the body ends or breaks off. -/
def delivered (a : Answer) : List (List UInt8) :=
  match a.breakAfter with
  | some (k, _) => a.chunks.take k
  | none => a.chunks

/-- Do the chunks, of which empty ones are passed over, exceed a limit on the way? -/
def exceeds (limit : Int) : (size : Nat) → List (List UInt8) → Bool
  | _, [] => false
  | size, chunk :: chunks =>
    if chunk.isEmpty then exceeds limit size chunks
    else limit < ↑(size + chunk.length) || exceeds limit (size + chunk.length) chunks

/-- Where an answer sends the client, which does not follow. -/
def redirect? (a : Answer) : Option String :=
  if [301, 302, 303, 307, 308].contains a.status then a.header? "location" else none

end Answer

inductive ExchangeError where
  | invalidUrl (endpoint : String)
  | unreadableHost (error : DomainName.Error)
  | unknownHost (host : String)
  | notSent (cause : Failure)
  | declaredTooLarge (size limit : Int)
  | tooLarge (limit : Int)
  | brokenOff (cause : Failure)
  /-- A failure that says nothing about the connection. -/
  | other (cause : Failure)
  deriving DecidableEq, Repr

def ExchangeError.toFailure : ExchangeError → Failure
  | invalidUrl endpoint => {
      kind := .url
      message := "Invalid URL for endpoint " ++ endpoint
      cause := some (.foreign "InvalidURL") }
  | unreadableHost e => .raised (.foreign e.kind) e.message
  | unknownHost host => .raised (.foreign "KeyError") host
  | notSent f => {
      kind := .connection
      message := "Connection error: " ++ f.message
      cause := some f.kind }
  | declaredTooLarge size limit => .raised .oversized
      ("Response too large (" ++ toString size ++ " bytes, limit " ++ toString limit ++ ")")
  | tooLarge limit =>
      .raised .oversized ("Response too large (limit " ++ toString limit ++ " bytes)")
  | brokenOff f => {
      kind := .bodyRead
      message := "Could not read response body: " ++ f.message
      cause := some f.kind }
  | other f => f

/-- A failure of the HTTP layer: one with the URL, one in the given place, or none of its own. -/
def ExchangeError.ofFailure (endpoint : String) (place : Failure → ExchangeError) (f : Failure) :
    ExchangeError :=
  if f.kind = .foreign "InvalidURL" then .invalidUrl endpoint
  else if f.kind.isTransport then place f
  else .other f

/-- A redirect that leads nowhere; only a place that is no URL at all counts as the server's mistake. -/
def ExchangeError.ofRedirect (endpoint : String) : Redirect.Error → ExchangeError
  | .unread e => .notSent <| .raised (.foreign "RemoteProtocolError")
      ("Invalid URL in location header: " ++ e.message ++ ".")
  | .unjoined _ => .invalidUrl endpoint
  | .unreadableHost e => .unreadableHost e

/-- What is wrong with the place that an answer from a URL sends the client to. -/
def Answer.redirectError? (endpoint : String) (asked : Url) (a : Answer) : Option ExchangeError :=
  a.redirect?.bind fun place => (Redirect.refusal? asked place.toList).map (.ofRedirect endpoint)

/-- Reads an answer, of which no more than `limit` bytes are taken. -/
def Answer.read (endpoint : String) (limit : Int) (a : Answer) : Except ExchangeError Response :=
  match a.declaredLength?.filter (limit < ·) with
  | some size => .error (.declaredTooLarge size limit)
  | none =>
    if exceeds limit 0 a.delivered then .error (.tooLarge limit)
    else match a.breakAfter with
      | some (_, f) => .error (.ofFailure endpoint .brokenOff f)
      | none => .ok { status := a.status, body := a.chunks.flatten }

/-- What the reply of a host makes of a request to a URL; an unknown host gives none. -/
def received (limit : Int) (r : Request) (url : Url) (host : String) :
    Option (Except Failure Answer) → Except ExchangeError Response
  | none => .error (.unknownHost host)
  | some (.error f) => .error (.ofFailure r.endpoint .notSent f)
  | some (.ok answer) => match answer.redirectError? r.endpoint url with
    | some e => .error e
    | none => answer.read r.endpoint limit

def exchangeWith (limit : Int) (r : Request) (url : Url) :
    Action (Except ExchangeError Response) := do
  Action.emit (.request (r.send url))
  match url.readableHost with
  | .error e => return .error (.unreadableHost e)
  | .ok host =>
    let host := String.ofList host
    return received limit r url host (← Action.ask host)

/-- Logs that a request could not be sent; nothing else that goes wrong is logged here. -/
def ExchangeError.report (endpoint : String) : ExchangeError → Action Unit
  | notSent f => Action.log .debug ("Request to " ++ endpoint ++ " failed: " ++ f.kind.word)
  | _ => return ()

def exchange (limit : Int) (r : Request) : Action (Except Failure Response) := do
  match Url.read r.url.toList with
  | .error _ => return .error (ExchangeError.invalidUrl r.endpoint).toFailure
  | .ok url => match ← exchangeWith limit r url.rooted with
    | .ok response => return .ok response
    | .error e =>
      e.report r.endpoint
      return .error e.toFailure

/-! ### Asynchronously

The body is awaited chunk by chunk, and what came of it is kept on the way.
-/

namespace Async

/-- Adds a chunk to what came of a body. -/
def append (limit : Int) (content chunk : List UInt8) : Except ExchangeError (List UInt8) :=
  let content := content ++ chunk
  if limit < content.length then .error (.tooLarge limit) else .ok content

/-- Takes the chunks, of which empty ones are passed over; then the body ends or breaks off. -/
def gather (limit : Int) (broken : Option ExchangeError) (content : List UInt8) :
    List (List UInt8) → Except ExchangeError (List UInt8)
  | [] => match broken with
    | some e => .error e
    | none => .ok content
  | chunk :: chunks =>
    if chunk.isEmpty then gather limit broken content chunks
    else do gather limit broken (← append limit content chunk) chunks

def read (endpoint : String) (limit : Int) (a : Answer) : Except ExchangeError Response :=
  match a.declaredLength?.filter (limit < ·) with
  | some size => .error (.declaredTooLarge size limit)
  | none =>
    let broken := a.breakAfter.map fun (_, f) => .ofFailure endpoint .brokenOff f
    (gather limit broken [] a.delivered).map fun body => { status := a.status, body }

def received (limit : Int) (r : Request) (url : Url) (host : String) :
    Option (Except Failure Answer) → Except ExchangeError Response
  | none => .error (.unknownHost host)
  | some (.error f) => .error (.ofFailure r.endpoint .notSent f)
  | some (.ok answer) => match answer.redirectError? r.endpoint url with
    | some e => .error e
    | none => read r.endpoint limit answer

def exchangeWith (limit : Int) (r : Request) (url : Url) : Action (Except ExchangeError Response) := do
  Action.emit (.request (r.send url))
  match url.readableHost with
  | .error e => return .error (.unreadableHost e)
  | .ok host =>
    let host := String.ofList host
    return received limit r url host (← Action.ask host)

def exchange (limit : Int) (r : Request) : Action (Except Failure Response) := do
  match Url.read r.url.toList with
  | .error _ => return .error (ExchangeError.invalidUrl r.endpoint).toFailure
  | .ok url => match ← exchangeWith limit r url.rooted with
    | .ok response => return .ok response
    | .error e =>
      e.report r.endpoint
      return .error e.toFailure

end Async

end Bearer
