import Bearer.Event

/-!
# Metrics

Signals are summed up in three counters and two histograms of durations, which tell failures from
successes. A duration is never negative, even if a clock was set back.
-/

namespace Bearer

/-- Durations in seconds: how many, their sum, the least and the greatest. -/
structure Histogram where
  count : Nat
  sum : Double
  least : Double
  greatest : Double
  deriving DecidableEq, Repr

namespace Histogram

def single (x : Double) : Histogram := ⟨1, .zero + x, x, x⟩

def add (h : Histogram) (x : Double) : Histogram :=
  ⟨h.count + 1, h.sum + x, .min h.least x, .max h.greatest x⟩

end Histogram

/-- A histogram for each outcome that occurred. -/
structure Durations where
  failure : Option Histogram := none
  success : Option Histogram := none
  deriving DecidableEq, Repr

namespace Durations

def extend (h : Option Histogram) (x : Double) : Option Histogram :=
  some (match h with
    | none => .single x
    | some h => h.add x)

def record (d : Durations) (succeeded : Bool) (x : Double) : Durations :=
  if succeeded then { d with success := extend d.success x }
  else { d with failure := extend d.failure x }

end Durations

/-- The sums of all signals so far. -/
structure Metrics where
  incoming : Nat := 0
  requests : Nat := 0
  requestDuration : Durations := {}
  serviceCalls : Nat := 0
  serviceCallDuration : Durations := {}
  deriving DecidableEq, Repr

namespace Metrics

def elapsed (now started : Double) : Double := .max .zero (now - started)

def record (m : Metrics) (s : Signal) (now : Double) : Metrics :=
  match s with
  | .incoming => { m with incoming := m.incoming + 1 }
  | .request _ => { m with requests := m.requests + 1 }
  | .requestSuccess started =>
    { m with requestDuration := m.requestDuration.record true (elapsed now started) }
  | .requestFailure started =>
    { m with requestDuration := m.requestDuration.record false (elapsed now started) }
  | .serviceCall _ => { m with serviceCalls := m.serviceCalls + 1 }
  | .serviceCallSuccess started =>
    { m with serviceCallDuration := m.serviceCallDuration.record true (elapsed now started) }
  | .serviceCallFailure started =>
    { m with serviceCallDuration := m.serviceCallDuration.record false (elapsed now started) }

def recordEvents (m : Metrics) (events : List Event) : Metrics :=
  events.foldl (fun m e => match e with
    | .signal s time => m.record s time
    | _ => m) m

/-! ### Instruments -/

/-- Where the instruments belong. -/
def meter : String := "coreason_introspection"

inductive Points where
  | count (n : Nat)
  | durations (d : Durations)
  deriving DecidableEq, Repr

structure Instrument where
  name : String
  unit : String
  description : String
  points : Metrics → Points

def instruments : List Instrument := [
  ⟨"introspection.requests.incoming", "1", "Tokens handed to the introspection client.",
    fun m => .count m.incoming⟩,
  ⟨"introspection.requests", "1", "Introspection requests executed.", fun m => .count m.requests⟩,
  ⟨"introspection.request.duration", "s",
    "Duration of introspection requests, including retries and fallback.",
    fun m => .durations m.requestDuration⟩,
  ⟨"introspection.service.calls", "1", "HTTP calls made to introspection endpoints.",
    fun m => .count m.serviceCalls⟩,
  ⟨"introspection.service.call.duration", "s",
    "Duration of single HTTP calls to introspection endpoints.",
    fun m => .durations m.serviceCallDuration⟩]

def Points.isEmpty : Points → Bool
  | .count n => n == 0
  | .durations d => d.failure.isNone && d.success.isNone

/-- The instruments that show anything. -/
def used (m : Metrics) : List Instrument := instruments.filter fun i => !(i.points m).isEmpty

end Metrics

end Bearer
