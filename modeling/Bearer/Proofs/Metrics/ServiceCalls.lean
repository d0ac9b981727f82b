import Bearer.Proofs.Metrics

/-!
Service calls are accounted for as long as exchanges go as foreseen: then each signal that opens one is
followed by the one that tells what came of it. An exchange that fails by what is no failure of the
introspection leaves its service call open (`service_calls_accounted_iff`).
-/

namespace Bearer

namespace Client

variable {c : Client} {n m : Network} {xs : List (Request × Network)} {es : List Event}

/-- Among signals, the service calls of exchanges are each opened and at once closed by what came of the
exchange, both with the time at which it started. -/
inductive Tallied (c : Client) : List (Request × Network) → List Signal → Prop
  | nil : Tallied c [] []
  | other {xs : List (Request × Network)} {s : Signal} {ss : List Signal} (other : s.isServiceCall = false)
    (rest : Tallied c xs ss) : Tallied c xs (s :: ss)
  | call {xs : List (Request × Network)} {ss : List Signal} (x : Request × Network)
    (rest : Tallied c xs ss) : Tallied c (x :: xs) (.serviceCall x.2.clock :: c.ending x :: ss)

theorem Tallied.closed {ss : List Signal} (h : c.Tallied xs ss) :
    ss.countP Signal.closesServiceCall = xs.length := by
  induction h with
  | nil => rfl
  | @other _ s _ other _ ih =>
    have open' : s.closesServiceCall = false := by cases s <;> first | rfl | cases other
    rw [List.countP_cons, open', ih]
    rfl
  | call x _ ih =>
    rw [List.countP_cons, List.countP_cons, closesServiceCall_ending, ih]
    rfl

section

variable (listening : c.listening = true)
include listening

theorem count_execute (r : Request) (n : Network) :
    (signals (c.execute r n).events).countP Signal.opensServiceCall = 1 ∧
      (signals (c.execute r n).events).countP Signal.closesServiceCall =
        if c.foreseen (r, n) then 1 else 0 := by
  have opens := opensServiceCall_ending c (r, n)
  have closes := closesServiceCall_ending c (r, n)
  rw [signals_execute listening]
  cases c.foreseen (r, n) with
  | true =>
    simp only [if_true, List.countP_cons, List.countP_nil, opens, closes]
    exact ⟨rfl, rfl⟩
  | false => exact ⟨rfl, rfl⟩

/-- A run opens one service call for each exchange, and closes those that go as foreseen. -/
theorem Runs.counted (h : c.Runs Event.IsRemark n xs es m) :
    (signals es).countP Signal.opensServiceCall = xs.length ∧
      (signals es).countP Signal.closesServiceCall = xs.countP c.foreseen := by
  induction h with
  | done n => exact ⟨rfl, rfl⟩
  | @note _ _ _ e es noted _ ih =>
    cases e with
    | signal s now =>
      have none : s.opensServiceCall = false ∧ s.closesServiceCall = false := by
        cases s <;> first | exact ⟨rfl, rfl⟩ | cases noted
      have one : signals (.signal s now :: es) = s :: signals es := rfl
      rw [one, List.countP_cons, List.countP_cons, none.1, none.2]
      exact ih
    | _ => exact ih
  | wait k _ ih => exact ih
  | @execute n _ xs es r _ ih =>
    obtain ⟨opens, closes⟩ := count_execute listening r n
    rw [signals_append, List.countP_append, List.countP_append, opens, closes, ih.1, ih.2, List.length_cons,
      List.countP_cons]
    exact ⟨Nat.add_comm _ _, Nat.add_comm _ _⟩

theorem Runs.tallied (h : c.Runs Event.IsRemark n xs es m) (went : ∀ x ∈ xs, c.foreseen x = true) :
    c.Tallied xs (signals es) := by
  induction h with
  | done n => exact .nil
  | @note _ _ _ e _ noted _ ih =>
    cases e with
    | signal s now => exact .other noted (ih went)
    | _ => exact ih went
  | wait k _ ih => exact ih went
  | @execute n _ _ _ r _ ih =>
    rw [signals_append, signals_execute listening, went _ List.mem_cons_self]
    exact .call (r, n) (ih fun x member => went x (List.mem_cons_of_mem _ member))

end

end Client

namespace Session

/-- Whatever a session with a metrics collector is asked, each signal that opens a service call is followed
by the one that tells what came of it, and the collector's sums agree, exactly if no exchange fails by
what is no failure of the introspection. -/
theorem service_calls_accounted_iff {s : Session} (listening : s.client.listening = true) (calls : List Call)
    (n : Network) :
    let run := s.runAll calls n
    let sums := Metrics.recordEvents {} run.events
    ∃ xs, s.client.Runs Event.IsRemark n xs run.events run.network ∧
      (s.client.Tallied xs (signals run.events) ↔ ∀ x ∈ xs, s.client.foreseen x = true) ∧
      (sums.serviceCalls = sums.serviceCallDuration.count ↔ ∀ x ∈ xs, s.client.foreseen x = true) := by
  intro run sums
  obtain ⟨xs, runs⟩ := s.runs_runAll calls n
  obtain ⟨opened, closed⟩ := runs.counted listening
  have all : xs.length = xs.countP s.client.foreseen ↔ ∀ x ∈ xs, s.client.foreseen x = true := by
    rw [eq_comm, List.countP_eq_length]
  refine ⟨xs, runs, ⟨fun tallied => ?_, runs.tallied listening⟩, ?_⟩
  · exact all.1 (tallied.closed.symm.trans closed)
  · have calls : sums.serviceCalls = xs.length :=
      (Metrics.serviceCalls_recordEvents {} _).trans ((Nat.zero_add _).trans opened)
    have durations : sums.serviceCallDuration.count = xs.countP s.client.foreseen :=
      (Metrics.serviceCallDuration_recordEvents {} _).trans ((Nat.zero_add _).trans closed)
    rw [calls, durations, all]

/-- The first exchange brings status 503 and the second one a response, and both service calls are closed. -/
theorem service_calls_accounted_retried :
    let client : Client := {
      endpoint := { endpoint := "https://a.example/i", method := .post }
      parser := fun _ body => .ok { userId := some (toString body.length) }
      policy := { waitInitial := .zero }
      budget := .whole 1
      listening := true }
    let s : Session := { mode := .async, client }
    let refused : Reply := ⟨.zero, .ok { status := 503 }⟩
    let granted : Reply := ⟨.zero, .ok { status := 200, chunks := [[0x7b, 0x7d]] }⟩
    let n : Network := { servers := [("a.example", ⟨refused, [granted]⟩)] }
    let run := s.runAll [.introspectWithRetry "t" none] n
    ∃ xs, client.Runs Event.IsRemark n xs run.events run.network ∧ xs.length = 2 ∧
      client.Tallied xs (signals run.events) := by
  intro client s refused granted n run
  obtain ⟨xs, runs, tallied, equal⟩ :=
    service_calls_accounted_iff (s := s) rfl [.introspectWithRetry "t" none] n
  have opened : (signals run.events).countP Signal.opensServiceCall = 2 := by decide +kernel
  refine ⟨xs, runs, (runs.counted rfl).1.symm.trans opened, tallied.2 (equal.1 ?_)⟩
  decide +kernel

/-- The transport raises an exception that is none of its own, and the service call stays open. -/
theorem not_every_service_call_closed :
    ¬ ∀ (s : Session) (calls : List Call) (n : Network), s.client.listening = true →
      ∃ xs, s.client.Runs Event.IsRemark n xs (s.runAll calls n).events (s.runAll calls n).network ∧
        s.client.Tallied xs (signals (s.runAll calls n).events) := by
  intro always
  let s : Session := {
    mode := .async
    client := {
      endpoint := { endpoint := "https://a.example/i", method := .post }
      parser := FieldParser.planB.toParser 1000
      budget := .whole 1
      listening := true } }
  let broken : Reply := ⟨.zero, .error (.raised (.foreign "ValueError") "broken")⟩
  let n : Network := { servers := [("a.example", ⟨broken, []⟩)] }
  obtain ⟨xs, runs, tallied⟩ := always s [.introspect "t" none] n rfl
  have opened : (signals (s.runAll [.introspect "t" none] n).events).countP
      Signal.opensServiceCall = 1 := by decide +kernel
  have closed : (signals (s.runAll [.introspect "t" none] n).events).countP
      Signal.closesServiceCall = 0 := by decide +kernel
  have calls := (runs.counted rfl).1.symm.trans opened
  cases (tallied.closed.symm.trans closed).symm.trans calls

end Session

end Bearer
