import Bearer.Event

/-!
# What a client meets

A `Network` is the time that passes and the servers that answer. An `Action` runs in it and leaves
a result, the events on the way, in order, and the network afterwards; actions in a row append
their events.
-/

namespace Bearer

/-! ### Scripts -/

/-- What happens one after another; the last one repeats for ever. -/
structure Script (α : Type) where
  next : α
  later : List α := []
  deriving Repr

namespace Script

def ofList? : List α → Option (Script α)
  | [] => none
  | x :: xs => some ⟨x, xs⟩

def advance (s : Script α) : Script α :=
  match s.later with
  | [] => s
  | x :: xs => ⟨x, xs⟩

/-- What happens the `n`-th time, counted from zero. -/
def get (s : Script α) (n : Nat) : α := (s.next :: s.later)[n]?.getD (s.later.getLastD s.next)

end Script

/-! ### Servers -/

/-- An HTTP answer whose body comes in chunks. What is met in a network is an answer as the HTTP client delivers it,
with its coding undone. -/
structure Answer where
  status : Int
  headers : List (String × String) := []
  chunks : List (List UInt8) := []
  /-- The number of chunks that come before the body breaks off, and why it does. -/
  breakAfter : Option (Nat × Failure) := none
  deriving Repr

/-- What becomes of a request, after some time. -/
structure Reply where
  latency : Double := .zero
  answer : Except Failure Answer

structure Network where
  /-- Seconds since the beginning. -/
  clock : Double := .zero
  /-- The time of day at the beginning. -/
  epoch : Double := .zero
  /-- The share of the greatest jitter that is added to waits. -/
  jitter : Double := .zero
  servers : List (String × Script Reply) := []

/-! ### Actions -/

/-- The result of an action, what happened and what is left. -/
structure Step (α : Type) where
  result : α
  events : List Event
  network : Network

/-- Something done in a network. -/
def Action (α : Type) := Network → Step α

namespace Action

def pure (x : α) : Action α := fun n => ⟨x, [], n⟩

def bind (a : Action α) (f : α → Action β) : Action β := fun n =>
  let s := a n
  let t := f s.result s.network
  ⟨t.result, s.events ++ t.events, t.network⟩

instance : Monad Action where
  pure := pure
  bind := bind

@[simp] theorem pure_apply (x : α) (n : Network) : (Pure.pure x : Action α) n = ⟨x, [], n⟩ := rfl

@[simp] theorem bind_apply (a : Action α) (f : α → Action β) (n : Network) :
    (a >>= f) n = ⟨(f (a n).result (a n).network).result,
      (a n).events ++ (f (a n).result (a n).network).events,
      (f (a n).result (a n).network).network⟩ := rfl

def emit (e : Event) : Action Unit := fun n => ⟨(), [e], n⟩

def log (level : Level) (message : String) (trace : Option Trace := none) : Action Unit :=
  emit (.log level message trace)

/-- An action that gives what happened along with its result. -/
def recorded (a : Action α) : Action (α × List Event) := fun n =>
  let s := a n
  ⟨(s.result, s.events), s.events, s.network⟩

theorem recorded_bind (a : Action α) (f : α × List Event → Action β) (n : Network) :
    (a.recorded >>= f) n = (a >>= fun x => f (x, (a n).events)) n := rfl

/-- Seconds since the beginning. -/
def clock : Action Double := fun n => ⟨n.clock, [], n⟩

def timeOfDay : Action Double := fun n => ⟨n.epoch + n.clock, [], n⟩

def jitter : Action Double := fun n => ⟨n.jitter, [], n⟩

def pass (seconds : Double) : Action Unit := fun n => ⟨(), [], { n with clock := n.clock + seconds }⟩

def wait (seconds : Double) : Action Unit := do
  emit (.wait seconds)
  pass seconds

/-- Tells a metrics collector, if there is one. -/
def tell (listening : Bool) (s : Signal) : Action Unit := do
  if listening then emit (.signal s (← clock))

/-- Takes the next reply of a server, if it exists, after the time that it takes. -/
def ask (host : String) : Action (Option (Except Failure Answer)) := fun n =>
  match n.servers.lookup host with
  | none => ⟨none, [], n⟩
  | some script =>
    let servers := n.servers.map fun (h, s) => if h = host then (h, s.advance) else (h, s)
    let reply := script.next
    ⟨some reply.answer, [], { n with clock := n.clock + reply.latency, servers }⟩

end Action

end Bearer
