import Bearer.Environment
import Bearer.Level
import Bearer.Logging.Disk
import Bearer.Logging.FileName
import Bearer.Logging.Format

/-!
# Logging

Two logging systems, each with levels of its own. The package logs into sinks, each of which takes
records from a minimum on: the console, as text or as JSON, and a file if one is named. Other
libraries log through named loggers, whose records an interceptor takes to the same sinks; they are
filtered twice, by the threshold of the logger and by the minimum of the sinks. The loggers of the
HTTP libraries log URLs, which may hold tokens, so their threshold is set to a warning.

Both systems are reset in place each time logging is configured from an environment.
-/

namespace Bearer

namespace Logging

structure TraceContext where
  trace : Nat
  span : Nat
  deriving DecidableEq, Repr, Inhabited

/-- Identifiers are positive and fit into sixteen and eight bytes. -/
def TraceContext.isValid (c : TraceContext) : Bool :=
  0 < c.trace && c.trace < twoPow 128 && 0 < c.span && c.span < twoPow 64

structure Record where
  level : String
  severity : Int
  message : String
  context : Option TraceContext := none
  deriving DecidableEq, Repr, Inhabited

namespace Record

def make (context : Option TraceContext) (level : Level) (message : String) : Record where
  level := level.word
  severity := level.severity
  message := message
  context := context.filter TraceContext.isValid

/-- A record of a severity, which has a name of its own only if every library knows it. -/
def ofSeverity (context : Option TraceContext) (severity : Int) (message : String) : Record where
  level := match Level.all.find? fun l => l.isCommon && l.severity == severity with
    | some l => l.word
    | none => "Level " ++ toString severity
  severity := severity
  message := message
  context := context.filter TraceContext.isValid

def paddedLevel (r : Record) : String := r.level.pushn ' ' (8 - r.level.length)

/-- The named values that a record carries, identifiers in full length. -/
def extra (r : Record) : List (String × String) :=
  match r.context with
  | some c => [("trace_id", Text.hex 32 c.trace), ("span_id", Text.hex 16 c.span)]
  | none => []

end Record

/-- Where records go. -/
inductive Sink where
  /-- One line of text a record. -/
  | stderr
  /-- One line of JSON a record. -/
  | stdout
  /-- One line of JSON a record. -/
  | file (path : Path)
  deriving DecidableEq, Repr

abbrev Delivery := Sink × Record

/-- A sink and the least level that it takes. -/
structure Handler where
  sink : Sink
  minimum : Level
  deriving DecidableEq, Repr

/-- What the records of all loggers are handed to. -/
inductive Receiver where
  /-- Takes them to the sinks. -/
  | interceptor
  /-- Whatever does something else with them. -/
  | foreign
  deriving DecidableEq, Repr

end Logging

structure Logging where
  handlers : List Logging.Handler
  /-- Do records carry the identifiers of the span they were made in? -/
  traced : Bool
  receivers : List Logging.Receiver
  /-- The threshold of loggers that have none of their own, nor any above them. -/
  root : Nat
  /-- Loggers with a threshold of their own. -/
  thresholds : List (String × Nat)
  deriving DecidableEq, Repr

namespace Logging

/-- What a process starts with. -/
def fresh : Logging where
  handlers := [{ sink := .stderr, minimum := .debug }]
  traced := false
  receivers := []
  root := Level.warning.severity
  thresholds := []

/-! ### Sinks -/

/-- The sinks that take a record, with the record. -/
def deliver (l : Logging) (r : Record) : List Delivery :=
  l.handlers.filterMap fun h =>
    if (h.minimum.severity : Int) ≤ r.severity then some (h.sink, r) else none

/-- The context that records carry. -/
def carried (l : Logging) (context : Option TraceContext) : Option TraceContext :=
  if l.traced then context else none

/-- Logs a message at the level that a word names. -/
def log (l : Logging) (context : Option TraceContext) (word message : String) :
    Except Failure (List Delivery) :=
  match Level.ofWord? word with
  | some level => .ok (l.deliver (.make (l.carried context) level message))
  | none => .error (.raised (.foreign "ValueError") ("Level '" ++ word ++ "' does not exist"))

/-! ### Loggers -/

/-- Loggers whose records may hold URLs. -/
def quietLoggers : List String := ["httpx", "httpcore"]

/-- The names above a name, all of them written backwards. Each ends before a dot; the character
in front of such a dot is not looked at. -/
def namesAbove (behindDot : Bool) : List Char → List (List Char)
  | [] => []
  | c :: front =>
    if c = '.' && !behindDot then
      if front.isEmpty then [] else front :: namesAbove true front
    else namesAbove false front

/-- A logger and the loggers above it, nearest first. -/
def lineage (logger : String) : List String :=
  logger :: (namesAbove false logger.toList.reverse).map fun name => String.ofList name.reverse

/-- Is a logger one of the quiet ones or below one? -/
def isQuiet (logger : String) : Bool := (lineage logger).any quietLoggers.contains

def ownThreshold? (l : Logging) (logger : String) : Option Nat :=
  (l.thresholds.find? (·.1 == logger)).map (·.2)

/-- The least severity that a logger passes on. -/
def threshold (l : Logging) (logger : String) : Nat :=
  ((lineage logger).findSome? l.ownThreshold?).getD l.root

def setThreshold (l : Logging) (logger : String) (least : Nat) : Logging :=
  { l with thresholds := (logger, least) :: l.thresholds.filter (·.1 != logger) }

/-- What a receiver takes to the sinks. -/
def receive (l : Logging) (context : Option TraceContext) (severity : Int) (format : String)
    (arguments : List Json.Value) : Receiver → Except Failure (List Delivery)
  | .interceptor => match Format.fill format arguments with
    | .ok message => .ok (l.deliver (.ofSeverity (l.carried context) severity message))
    | .error e => .error e.toFailure
  | .foreign => .ok []

/-- Logs what a library hands to a logger: a format and its arguments, which are filled in if the
logger passes the record on. -/
def logThrough (l : Logging) (context : Option TraceContext) (logger : String) (severity : Int)
    (format : String) (arguments : List Json.Value) : Except Failure (List Delivery) :=
  if severity < l.threshold logger then .ok []
  else (l.receivers.mapM (l.receive context severity format arguments)).map List.flatten

/-! ### Configuration -/

/-- The level that an environment asks for; words that name none ask for the usual one. -/
def minimumOf (env : Environment) : Level :=
  ((env.get? "COREASON_LOG_LEVEL").bind fun w => Level.ofWord? (Text.upper w)).getD .info

def consoleOf (env : Environment) : Sink :=
  match env.get? "COREASON_LOG_JSON" with
  | some w => if Text.lower w = "true" then .stdout else .stderr
  | none => .stderr

/-- The name of a file that an environment asks for. -/
def fileOf (env : Environment) : Option String :=
  (env.get? "COREASON_LOG_FILE").filter (· ≠ "")

/-- Removes all sinks. From then on records carry the span they were made in. -/
def reset (l : Logging) : Logging := { l with handlers := [], traced := true }

def add (l : Logging) (sink : Sink) (minimum : Level) : Logging :=
  { l with handlers := l.handlers ++ [{ sink, minimum }] }

/-- The interceptor in place of what received the records of loggers, with thresholds to match a
minimum of the sinks. A level that only the package knows stands for no threshold. -/
def connect (l : Logging) (minimum : Level) : Logging :=
  let l := { l with
    receivers := [.interceptor]
    root := if minimum.isCommon then minimum.severity else Level.info.severity }
  quietLoggers.foldl (fun l logger => l.setThreshold logger Level.warning.severity) l

/-- A configuration, the disk that it leaves, what was logged meanwhile, and what broke it off. -/
structure Configured where
  logging : Logging
  disk : Disk
  deliveries : List Delivery := []
  failure : Option Failure := none
  deriving DecidableEq, Repr

/-- What a configuration is made from, at the time that it is made. -/
structure Moment where
  env : Environment
  /-- The current span. -/
  context : Option TraceContext := none
  /-- Fills in the fields of a file's name, such as the time. -/
  complete : String → Except Failure String

/-- A moment at which `time` says what stands for the time in the name of a file. -/
def Moment.make (env : Environment) (context : Option TraceContext) (time : String → Except Failure String) :
    Moment where
  env := env
  context := context
  complete := FileName.complete time

/-- Configures logging anew. If the file cannot be opened, the console says so and is the only sink.
If its name cannot be completed, nothing more is done: the loggers are left as they were. -/
def configure (l : Logging) (now : Moment) (disk : Disk) : Configured :=
  let minimum := minimumOf now.env
  let l := l.reset.add (consoleOf now.env) minimum
  match fileOf now.env with
  | none => { logging := l.connect minimum, disk }
  | some name => match now.complete name with
    | .error f => { logging := l, disk, failure := some f }
    | .ok text =>
      let path := Path.ofText text
      match disk.openFile path with
      | .ok disk => { logging := (l.add (.file path) minimum).connect minimum, disk }
      | .error e => {
          logging := l.connect minimum
          disk
          deliveries := l.deliver (.make (l.carried now.context) .warning
            ("Could not open log file " ++ name ++ ": " ++ e.text)) }

/-- Configures logging at one moment after the other, whether or not that fails. -/
def configureAll (l : Logging) (disk : Disk) : List Moment → Logging × Disk
  | [] => (l, disk)
  | now :: later =>
    let c := l.configure now disk
    c.logging.configureAll c.disk later

end Logging

end Bearer
