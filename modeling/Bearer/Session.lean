import Bearer.Client
import Bearer.Submission

/-!
# Sessions

A session is a client in use. A blocking and an async client stay usable after they are closed, as
their HTTP connection belongs to somebody else. A background client takes tokens to introspect with
retries, keeps books on them and their outcomes, and takes no more once it is closed.
-/

namespace Bearer

inductive Mode where
  | blocking
  | async
  | background
  deriving DecidableEq, Repr, Inhabited

namespace Mode

/-- Seconds that retries may take if no budget is given. -/
def budget : Mode → Budget
  | blocking => .double (.ofDecimal false 2 (-1))
  | async | background => .double (.ofInt 1)

def policy : Mode → RetryPolicy
  | blocking => .blocking
  | async | background => .background

/-- Only a blocking client reports to no metrics collector. -/
def listens : Mode → Bool
  | blocking => false
  | async | background => true

def awaits : Mode → Bool
  | blocking => false
  | async | background => true

end Mode

inductive Call where
  | introspect (token : GivenToken) (budget : Option Budget)
  | introspectWithRetry (token : GivenToken) (budget : Option Budget)
  | getUser (token : GivenToken) (budget : Option Budget)
  | submit (token : GivenToken) (budget : Option Budget) (name : String)
  | result (name : String)
  | close
  | state
  /-- Uses the client in a scope that closes it at its end. -/
  | scope
  deriving DecidableEq, Repr

inductive Reported where
  | info (t : TokenInfo)
  | user (u : User)
  | submitted
  | closed (closed : Bool)
  | left
  deriving DecidableEq, Repr

structure Session where
  mode : Mode
  client : Client
  closed : Bool := false
  /-- The outcomes of what was submitted, by name; of two with one name the later counts. -/
  outcomes : List (String × Except Failure TokenInfo) := []
  books : Books := {}
  /-- How far the caller is with the token of a number when its future is finished; nobody decides it. -/
  pace : Nat → Pace := fun _ => .awaited
  connection : Connection := {}

namespace Session

def opening (s : Session) : List Event :=
  match s.mode with
  | .background => [.log .debug
      ("Started background introspection client for " ++ s.client.endpoint.endpoint)]
  | _ => []

def closedRefusal : Failure := .raised .tokenInfo "Failed to send token request"

def introspect (s : Session) (token : GivenToken) (budget : Option Budget) :
    Action (Except Failure TokenInfo) :=
  match s.mode with
  | .background =>
    if s.closed then return .error closedRefusal else s.client.introspectWithRetry token budget
  | _ => s.client.introspect token

/-- The next token's way to the other thread and back. -/
def handover (s : Session) : Handover := s.books.submit (s.pace s.books.made)

/-- The session once it was asked about a token, which a background client hands over. -/
def asked (s : Session) : Session :=
  { s with books := if s.mode = .background && !s.closed then s.handover.books else s.books }

/-- Closing stops a background client, once. No future is pending then, so it need not wait. -/
def close (s : Session) : Action Session := do
  if s.mode = .background then
    if s.closed then return s
    else
      Action.log .debug "Stopped background introspection client"
      return { s with closed := true, connection := s.connection.release }
  else return { s with connection := s.connection.release }

/-- The outcome that has a name. -/
def outcome (s : Session) (name : String) : Except Failure TokenInfo :=
  (s.outcomes.lookup name).getD (.error (.raised (.foreign "KeyError") name))

/-- Submits a token; its introspection is over before anything else is asked. -/
def submit (s : Session) (token : GivenToken) (budget : Option Budget) (name : String) :
    Action (Session × Except Failure Reported) := do
  if s.closed then return (s, .error closedRefusal)
  else
    let r ← s.client.introspectWithRetry token budget
    return ({ s with books := s.handover.books, outcomes := (name, r) :: s.outcomes },
      .ok .submitted)

def run (s : Session) : Call → Action (Session × Except Failure Reported)
  | .introspect token budget => do
    return (s.asked, (← s.introspect token budget).map .info)
  | .introspectWithRetry token budget => do
    return (s, (← s.client.introspectWithRetry token budget).map .info)
  | .getUser token budget => do
    return (s.asked, (← Client.userOf (s.introspect token budget)).map .user)
  | .submit token budget name => s.submit token budget name
  | .result name => return (s, (s.outcome name).map .info)
  | .close => do
    let s ← s.close
    return (s, .ok (.closed s.closed))
  | .state => return (s, .ok (.closed s.closed))
  | .scope => do
    return (← s.close, .ok .left)

def runAll (s : Session) : List Call → Action Session
  | [] => return s
  | call :: calls => do
    let (s, _) ← s.run call
    s.runAll calls

end Session

end Bearer
