import Bearer.Exchange
import Bearer.Retry
import Bearer.Trace

/-!
# Introspection clients

A client asks its endpoint about a token and, if that fails for a reason that another endpoint need
not share, the fallback. Each endpoint is asked once, or with retries within a budget of its own.
Whatever happens, a call is logged and leaves one span; a failure that is none of this library is
wrapped in one that is.
-/

namespace Bearer

structure Client where
  endpoint : Endpoint
  parser : Parser
  maxResponseBytes : Int := 1000000
  policy : RetryPolicy := .blocking
  budget : Budget
  salt : String := Token.defaultSalt
  /-- Whether a metrics collector is told of what happens. -/
  listening : Bool := false
  /-- Whether exchanges are awaited. -/
  awaits : Bool := false

namespace Client

def fetch (c : Client) (r : Request) : Action (Except Failure Response) :=
  if c.awaits then Async.exchange c.maxResponseBytes r else exchange c.maxResponseBytes r

/-- Ends an exchange with the token information in its answer. -/
def settle (c : Client) (r : Request) (started : Double) : Except Failure Response → Action Execution
  | .error f => do
    Action.tell (c.listening && f.kind.isTokenInfo) (.serviceCallFailure started)
    return ⟨r, none, .error f⟩
  | .ok response => do
    Action.tell c.listening (.serviceCallSuccess started)
    return ⟨r, some response, response.tokenInfo c.parser (← Action.timeOfDay)⟩

/-- One exchange and what the parser makes of its answer. -/
def perform (c : Client) (r : Request) : Action Execution := do
  let started ← Action.clock
  Action.tell c.listening (.serviceCall started)
  c.settle r started (← c.fetch r)

def execute (c : Client) (r : Request) : Action (Except Failure TokenInfo) := do
  let x ← c.perform r
  Action.emit (.execution x)
  return x.outcome

def reportAttempt (r : Request) (n : Nat) (f : Failure) : Action Unit :=
  if f.isRetryable then
    Action.log .warning
      ("Attempt " ++ toString n ++ " against " ++ r.endpoint ++ " failed: " ++ f.message)
  else return ()

def attempt (c : Client) (r : Request) (n : Nat) : Action (Except Failure TokenInfo) := do
  match ← c.execute r with
  | .ok t => return .ok t
  | .error f =>
    reportAttempt r n f
    return .error f

/-- One exchange, or several within a budget. -/
def call (c : Client) (budget : Option Budget) (r : Request) :
    Action (Except Failure TokenInfo) :=
  match budget with
  | none => c.execute r
  | some b => c.policy.retrying b (c.attempt r)

def ask (c : Client) (budget : Option Budget) (token : String) (fallback : Bool) :
    Action (Except Failure TokenInfo) :=
  match c.endpoint.request token fallback with
  | .error f => return .error f
  | .ok r => c.call budget r

def askBoth (c : Client) (budget : Option Budget) (token : String) :
    Action (Except Failure TokenInfo) := do
  match ← c.ask budget token false with
  | .ok t => return .ok t
  | .error f =>
    if f.kind.allowsFallback && c.endpoint.fallback.isSome then
      Action.log .warning
        ("Introspection endpoint " ++ c.endpoint.endpoint ++ " failed, using fallback: "
          ++ f.message)
      c.ask budget token true
    else return .error f

/-- A failure as it leaves a call. -/
def leaving (f : Failure) : Failure :=
  if f.kind.isIntrospection then f
  else
    { kind := .introspection
      message := "Unexpected error during token introspection: " ++ f.message
      cause := some f.kind }

/-- Logs a failure; one that is none of this library comes with its trace. -/
def reportFailure (f : Failure) (shown : List String) : Action Unit :=
  if f.kind.isIntrospection then
    Action.log .warning ("Token introspection failed: " ++ f.message)
  else Action.log .error "Unexpected error during token introspection" (some ⟨f, shown⟩)

def fail (c : Client) (started : Double) (span : Span) (f : Failure) (shown : List String) :
    Action (Except Failure TokenInfo) := do
  Action.tell c.listening (.requestFailure started)
  reportFailure f shown
  Action.emit (.span (span.fail f (leaving f)))
  return .error (leaving f)

def succeed (c : Client) (started : Double) (span : Span) (fingerprint : String)
    (t : TokenInfo) : Action (Except Failure TokenInfo) := do
  Action.tell c.listening (.requestSuccess started)
  Action.log .debug ("Introspected token " ++ fingerprint ++ ": active=" ++ boolText t.active)
  Action.emit (.span { span with active := some t.active })
  return .ok t

/-- Ends a call that asked about a token; the events are those of the asking. -/
def conclude (c : Client) (started : Double) (given : GivenToken) (token : String) :
    Except Failure TokenInfo × List Event → Action (Except Failure TokenInfo) :=
  let fingerprint := Token.fingerprint c.salt token
  let span : Span := { endpoint := some c.endpoint.endpoint, fingerprint := some fingerprint }
  fun
    | (.error f, events) => c.fail started span f (given.shown ++ Trace.shownBy events)
    | (.ok t, _) => c.succeed started span fingerprint t

/-- Introspects whatever is given as a token. -/
def introspectWithin (c : Client) (budget : Option Budget) (given : GivenToken) :
    Action (Except Failure TokenInfo) := do
  let started ← Action.clock
  Action.tell c.listening .incoming
  Action.tell c.listening (.request started)
  match given.accept with
  | .error f => c.fail started {} f given.shown
  | .ok token => c.conclude started given token (← (c.askBoth budget token).recorded)

def introspect (c : Client) (given : GivenToken) : Action (Except Failure TokenInfo) :=
  c.introspectWithin none given

/-- Introspects a token with retries, within the client's budget unless another is given. -/
def introspectWithRetry (c : Client) (given : GivenToken) (budget : Option Budget := none) :
    Action (Except Failure TokenInfo) :=
  c.introspectWithin (some (budget.getD c.budget)) given

def userOf (a : Action (Except Failure TokenInfo)) : Action (Except Failure User) := do
  match ← a with
  | .ok t => return t.toUser
  | .error f => return .error f

def getUser (c : Client) (given : GivenToken) : Action (Except Failure User) :=
  userOf (c.introspect given)

end Client

end Bearer
