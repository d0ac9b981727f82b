/-!
# Levels of log records

Seven levels in ascending severity. Five of them are known to every logging library; `trace` and
`success` are finer ones.
-/

namespace Bearer

inductive Level where
  | trace
  | debug
  | info
  | success
  | warning
  | error
  | critical
  deriving DecidableEq, Repr, Inhabited

namespace Level

def all : List Level := [trace, debug, info, success, warning, error, critical]

def word : Level → String
  | trace => "TRACE"
  | debug => "DEBUG"
  | info => "INFO"
  | success => "SUCCESS"
  | warning => "WARNING"
  | error => "ERROR"
  | critical => "CRITICAL"

def severity : Level → Nat
  | trace => 5
  | debug => 10
  | info => 20
  | success => 25
  | warning => 30
  | error => 40
  | critical => 50

def ofWord? (w : String) : Option Level := all.find? (·.word == w)

/-- Is it one of the five levels that every library knows? -/
def isCommon (l : Level) : Bool := l != trace && l != success

end Level

end Bearer
