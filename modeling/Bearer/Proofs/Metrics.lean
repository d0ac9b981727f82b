import Bearer.Metrics
import Bearer.Proofs.Runs

/-!
The sums of a metrics collector. Counters and histograms count the signals of their kind, and no duration is
negative, whatever the clock does. Which signals a call gives is told by its run: one that opens each
service call and, unless the exchange failed by what was not foreseen, one that closes it
(`Client.signals_execute`).
-/

namespace Bearer

/-! ### Signals among events -/

def signals (events : List Event) : List Signal :=
  events.filterMap fun
    | .signal s _ => some s
    | _ => none

@[simp] theorem signals_append (es fs : List Event) : signals (es ++ fs) = signals es ++ signals fs :=
  List.filterMap_append

theorem signals_of_emits {a : Action α} {P : Event → Prop} (emits : a.Emits P)
    (silent : ∀ s time, ¬ P (.signal s time)) (n : Network) : signals (a n).events = [] := by
  apply List.filterMap_eq_nil_iff.2
  intro e member
  have kind := emits n e member
  cases e with
  | signal s time => exact absurd kind (silent s time)
  | _ => rfl

theorem signals_aside {e : Event} (aside : e.IsAside) (es : List Event) : signals (e :: es) = signals es := by
  cases e <;> first | rfl | cases aside

theorem tell_apply (s : Signal) (n : Network) : Action.tell true s n = ⟨(), [.signal s n.clock], n⟩ := rfl

def Signal.opensServiceCall : Signal → Bool
  | .serviceCall _ => true
  | _ => false

def Signal.closesServiceCall : Signal → Bool
  | .serviceCallSuccess _ | .serviceCallFailure _ => true
  | _ => false

def Signal.closesRequest : Signal → Bool
  | .requestSuccess _ | .requestFailure _ => true
  | _ => false

def Signal.opensRequest : Signal → Bool
  | .request _ => true
  | _ => false

/-! ### Durations -/

def Durations.count (d : Durations) : Nat :=
  (d.failure.map (·.count)).getD 0 + (d.success.map (·.count)).getD 0

theorem Durations.count_record (d : Durations) (succeeded : Bool) (x : Double) :
    (d.record succeeded x).count = d.count + 1 := by
  have extended (h : Option Histogram) :
      ((Durations.extend h x).map (·.count)).getD 0 = (h.map (·.count)).getD 0 + 1 := by
    cases h <;> rfl
  cases succeeded with
  | true => simp only [record, if_true, count, extended, Nat.add_assoc]
  | false =>
    simp only [record, Bool.false_eq_true, if_false, count, extended]
    omega

def Durations.NoneNegative (d : Durations) : Prop :=
  ∀ h, d.failure = some h ∨ d.success = some h → Double.le .zero h.least = true

theorem Metrics.zero_le_elapsed (now started : Double) : Double.le .zero (elapsed now started) = true := by
  unfold elapsed Double.max
  split
  next below =>
    generalize now - started = x at below
    cases x with
    | finite s u =>
      simp only [Double.lt, Double.zero, decide_eq_true_eq] at below
      simpa [Double.le, Double.zero] using Int.le_of_lt below
    | infinite s => simpa [Double.lt, Double.le, Double.zero] using below
    | nan => cases below
  next => rfl

theorem Durations.NoneNegative.record {d : Durations} {x : Double} (h : d.NoneNegative)
    (least : Double.le .zero x = true) (succeeded : Bool) : (d.record succeeded x).NoneNegative := by
  have extended {old : Option Histogram} {new : Histogram}
      (before : ∀ h, old = some h → Double.le .zero h.least = true)
      (same : Durations.extend old x = some new) : Double.le .zero new.least = true := by
    obtain rfl := Option.some.inj same
    cases old with
    | none => exact least
    | some h => exact Double.le_min (before h rfl) least
  intro new found
  cases succeeded with
  | true =>
    rcases found with failure | success
    · exact h new (.inl failure)
    · exact extended (fun old same => h old (.inr same)) success
  | false =>
    rcases found with failure | success
    · exact extended (fun old same => h old (.inl same)) failure
    · exact h new (.inr success)

namespace Metrics

/-! ### Sums -/

/-- What every signal of a kind raises by one counts the signals of that kind. -/
theorem recordEvents_count (total : Metrics → Nat) {kind : Signal → Bool}
    (one : ∀ m s now, total (record m s now) = total m + if kind s then 1 else 0) (m : Metrics)
    (es : List Event) : total (m.recordEvents es) = total m + (signals es).countP kind := by
  induction es generalizing m with
  | nil => rfl
  | cons e es ih =>
    cases e with
    | signal s now =>
      show total ((m.record s now).recordEvents es) = total m + (s :: signals es).countP kind
      rw [ih, one, List.countP_cons]
      omega
    | _ => exact ih m

theorem incoming_recordEvents (m : Metrics) (es : List Event) :
    (m.recordEvents es).incoming = m.incoming + (signals es).countP (· == .incoming) :=
  recordEvents_count incoming (fun m s now => by cases s <;> rfl) m es

theorem requests_recordEvents (m : Metrics) (es : List Event) :
    (m.recordEvents es).requests = m.requests + (signals es).countP Signal.opensRequest :=
  recordEvents_count requests (fun m s now => by cases s <;> rfl) m es

theorem serviceCalls_recordEvents (m : Metrics) (es : List Event) :
    (m.recordEvents es).serviceCalls = m.serviceCalls + (signals es).countP Signal.opensServiceCall :=
  recordEvents_count serviceCalls (fun m s now => by cases s <;> rfl) m es

theorem requestDuration_recordEvents (m : Metrics) (es : List Event) :
    (m.recordEvents es).requestDuration.count =
      m.requestDuration.count + (signals es).countP Signal.closesRequest := by
  apply recordEvents_count fun m => m.requestDuration.count
  intro m s now
  cases s <;> first | rfl | exact Durations.count_record _ _ _

theorem serviceCallDuration_recordEvents (m : Metrics) (es : List Event) :
    (m.recordEvents es).serviceCallDuration.count =
      m.serviceCallDuration.count + (signals es).countP Signal.closesServiceCall := by
  apply recordEvents_count fun m => m.serviceCallDuration.count
  intro m s now
  cases s <;> first | rfl | exact Durations.count_record _ _ _

structure NoneNegative (m : Metrics) : Prop where
  requests : m.requestDuration.NoneNegative
  serviceCalls : m.serviceCallDuration.NoneNegative

theorem noneNegative_empty : ({} : Metrics).NoneNegative := by
  constructor <;> rintro h (none | none) <;> cases none

theorem NoneNegative.record {m : Metrics} (h : m.NoneNegative) (s : Signal) (now : Double) :
    (m.record s now).NoneNegative := by
  cases s with
  | requestSuccess started => exact ⟨h.requests.record (zero_le_elapsed now started) true, h.serviceCalls⟩
  | requestFailure started => exact ⟨h.requests.record (zero_le_elapsed now started) false, h.serviceCalls⟩
  | serviceCallSuccess started =>
    exact ⟨h.requests, h.serviceCalls.record (zero_le_elapsed now started) true⟩
  | serviceCallFailure started =>
    exact ⟨h.requests, h.serviceCalls.record (zero_le_elapsed now started) false⟩
  | _ => exact ⟨h.requests, h.serviceCalls⟩

theorem NoneNegative.recordEvents {m : Metrics} (h : m.NoneNegative) (es : List Event) :
    (m.recordEvents es).NoneNegative := by
  induction es generalizing m with
  | nil => exact h
  | cons e es ih =>
    cases e with
    | signal s now => exact ih (h.record s now)
    | _ => exact ih h

end Metrics

/-! ### Signals of an execution -/

namespace Client

variable {c : Client}

def exchanged (c : Client) (x : Request × Network) : Except Failure Response :=
  (exchange c.maxResponseBytes x.1 x.2).result

/-- Did an exchange bring a response, or fail by a failure of the introspection? -/
def foreseen (c : Client) (x : Request × Network) : Bool :=
  match c.exchanged x with
  | .ok _ => true
  | .error f => f.kind.isTokenInfo

def ending (c : Client) (x : Request × Network) : Signal :=
  match c.exchanged x with
  | .ok _ => .serviceCallSuccess x.2.clock
  | .error _ => .serviceCallFailure x.2.clock

theorem closesServiceCall_ending (c : Client) (x : Request × Network) :
    (c.ending x).closesServiceCall = true := by
  unfold ending
  split <;> rfl

theorem opensServiceCall_ending (c : Client) (x : Request × Network) :
    (c.ending x).opensServiceCall = false := by
  unfold ending
  split <;> rfl

/-- An execution opens its service call, and closes it if the exchange went as foreseen. -/
theorem signals_execute (listening : c.listening = true) (r : Request) (n : Network) :
    signals (c.execute r n).events =
      .serviceCall n.clock :: if c.foreseen (r, n) then [c.ending (r, n)] else [] := by
  have quiet := signals_of_emits (emits_exchange c.maxResponseBytes r) (fun s time exchanged => exchanged) n
  have settled : signals (c.settle r n.clock (c.exchanged (r, n))
      (exchange c.maxResponseBytes r n).network).events =
        if c.foreseen (r, n) then [c.ending (r, n)] else [] := by
    unfold foreseen ending
    cases c.exchanged (r, n) with
    | ok response =>
      rw [settle, listening]
      rfl
    | error f =>
      rw [settle, listening]
      cases own : f.kind.isTokenInfo <;> simp only [own] <;> rfl
  have whole : (c.execute r n).events = .signal (.serviceCall n.clock) n.clock ::
      ((exchange c.maxResponseBytes r n).events ++ (c.settle r n.clock (c.exchanged (r, n))
        (exchange c.maxResponseBytes r n).network).events ++ [.execution (c.perform r n).result]) := by
    unfold execute perform
    simp [c.fetch_eq, listening, tell_apply, Action.clock_apply, Action.emit, exchanged]
  rw [whole]
  show Signal.serviceCall n.clock :: signals _ = _
  rw [signals_append, signals_append, quiet, settled]
  simp [signals]

end Client

end Bearer
