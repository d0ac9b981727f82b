import Bearer.Proofs.Metrics

/-!
Requests are accounted for. Whatever comes of a call that introspects a token, its signals open one request,
go on with service calls, none of which started earlier, and close the request; over all calls the
collector's sums agree with their number (`requests_accounted`).
-/

namespace Bearer

open Double (NotNegative)

/-- The signals of one request that started at a time. It is opened, service calls that did not start earlier
follow, and what came of it closes it. -/
def RequestSignals (started : Double) (succeeded : Bool) (ss : List Signal) : Prop :=
  ∃ service, ss = .incoming :: .request started ::
      (service ++ [if succeeded then .requestSuccess started else .requestFailure started]) ∧
    ∀ s ∈ service, s.isServiceCall = true ∧ ∃ t, s.started? = some t ∧ started.le t = true

theorem RequestSignals.counted {started : Double} {succeeded : Bool} {ss : List Signal}
    (h : RequestSignals started succeeded ss) : ss.countP (· == .incoming) = 1 ∧
      ss.countP Signal.opensRequest = 1 ∧ ss.countP Signal.closesRequest = 1 := by
  obtain ⟨service, rfl, calls⟩ := h
  have none (kind : Signal → Bool) (other : ∀ s, s.isServiceCall = true → kind s = false) :
      service.countP kind = 0 := by
    apply List.countP_eq_zero.2
    intro s member
    simp [other s (calls s member).1]
  have incoming := none (· == .incoming) fun s call => by cases s <;> first | rfl | cases call
  have opens := none Signal.opensRequest fun s call => by cases s <;> first | rfl | cases call
  have closes := none Signal.closesRequest fun s call => by cases s <;> first | rfl | cases call
  simp only [List.countP_cons, List.countP_append, incoming, opens, closes]
  cases succeeded <;> exact ⟨rfl, rfl, rfl⟩

namespace Client

variable {c : Client} {n m : Network} {xs : List (Request × Network)} {es : List Event}
  (listening : c.listening = true)
include listening

/-- The signals of a run that makes no others are about its exchanges. -/
theorem Runs.of_exchange (h : c.Runs Event.IsAside n xs es m) :
    ∀ s ∈ signals es, ∃ x ∈ xs, s = .serviceCall x.2.clock ∨ s = c.ending x := by
  induction h with
  | done n => simp [signals]
  | note noted _ ih =>
    rw [signals_aside noted]
    exact ih
  | wait k _ ih => exact ih
  | @execute n _ _ _ r _ ih =>
    intro s member
    rw [signals_append, signals_execute listening] at member
    rcases List.mem_append.1 member with own | later
    · refine ⟨(r, n), List.mem_cons_self, ?_⟩
      rcases List.mem_cons.1 own with opened | closed
      · exact .inl opened
      · refine .inr ?_
        split at closed
        · exact List.mem_singleton.1 closed
        · cases closed
    · obtain ⟨x, before, about⟩ := ih s later
      exact ⟨x, List.mem_cons_of_mem _ before, about⟩

theorem signals_fail (started : Double) (span : Span) (f : Failure) (shown : List String) (n : Network) :
    signals (c.fail started span f shown n).events = [.requestFailure started] := by
  have reported : signals (reportFailure f shown n).events = [] := by
    unfold reportFailure
    split <;> rfl
  simp only [fail, Action.bind_apply, listening, tell_apply, signals_append, reported]
  rfl

theorem signals_succeed (started : Double) (span : Span) (fingerprint : String) (t : TokenInfo)
    (n : Network) : signals (c.succeed started span fingerprint t n).events = [.requestSuccess started] := by
  simp only [succeed, Action.bind_apply, listening, tell_apply, signals_append]
  rfl

section

variable (sound : c.policy.Sound) (ordinary : n.Ordinary) (share : NotNegative n.jitter)
include sound ordinary share

theorem serviceCalls_askBoth (budget : Option Budget) (token : String) :
    ∀ s ∈ signals (c.askBoth budget token n).events,
      s.isServiceCall = true ∧ ∃ t, s.started? = some t ∧ n.clock.le t = true := by
  obtain ⟨xs, runs⟩ := c.does_askBoth budget token n
  obtain ⟨-, met⟩ := runs.later sound ordinary share
  intro s member
  obtain ⟨x, executed, rfl | rfl⟩ := runs.of_exchange listening s member
  · exact ⟨rfl, _, rfl, met x executed⟩
  · unfold ending
    split <;> exact ⟨rfl, _, rfl, met x executed⟩

theorem requestSignals_introspectWithin (budget : Option Budget) (given : GivenToken) :
    let run := c.introspectWithin budget given n
    RequestSignals n.clock run.result.isOk (signals run.events) := by
  unfold introspectWithin
  simp only [Action.bind_apply, Action.clock_apply, listening, tell_apply, signals_append]
  cases given.accept with
  | error f =>
    rw [signals_fail listening]
    exact ⟨[], rfl, by simp⟩
  | ok text =>
    have service := serviceCalls_askBoth listening sound ordinary share budget text
    simp only [Action.bind_apply, Action.recorded, signals_append]
    cases (c.askBoth budget text n).result with
    | error f =>
      rw [conclude, signals_fail listening]
      exact ⟨_, rfl, service⟩
    | ok t =>
      rw [conclude, signals_succeed listening]
      exact ⟨_, rfl, service⟩

end

end Client

/-! ### Sessions -/

namespace Session

def introspection (s : Session) : Call → Option (Action (Except Failure TokenInfo))
  | .introspect token budget | .getUser token budget => some (s.introspect token budget)
  | .introspectWithRetry token budget => some (s.client.introspectWithRetry token budget)
  | _ => none

variable {s : Session} {n : Network} {call : Call} {a : Action (Except Failure TokenInfo)}

variable (mode : s.mode ≠ .background)
include mode

theorem asked_eq : s.asked = s := by
  unfold Session.asked
  rw [decide_eq_false mode]
  rfl

/-- A call that introspects does nothing else, and leaves the session as it is. -/
theorem run_of_introspection (asked : s.introspection call = some a) (n : Network) :
    (s.run call n).events = (a n).events ∧ (s.run call n).network = (a n).network ∧
      (s.run call n).result.1 = s := by
  cases call with
  | introspect token budget =>
    obtain rfl := Option.some.inj asked
    exact ⟨List.append_nil _, rfl, asked_eq mode⟩
  | introspectWithRetry token budget =>
    obtain rfl := Option.some.inj asked
    exact ⟨List.append_nil _, rfl, rfl⟩
  | getUser token budget =>
    obtain rfl := Option.some.inj asked
    refine ⟨?_, ?_, asked_eq mode⟩
    · show (_ ++ _) ++ [] = _
      rw [List.append_nil]
      cases (s.introspect token budget n).result <;> exact List.append_nil _
    · show (Client.userOf (s.introspect token budget) n).network = _
      unfold Client.userOf
      rw [Action.bind_apply]
      cases (s.introspect token budget n).result <;> rfl
  | _ => cases asked

theorem introspection_cases (asked : s.introspection call = some a) :
    ∃ budget token, a = s.client.introspectWithin budget token := by
  have alone (token : GivenToken) (budget : Option Budget) :
      s.introspect token budget = s.client.introspectWithin none token := by
    unfold introspect
    split
    next background => exact absurd background mode
    next => rfl
  cases call with
  | introspect token budget =>
    obtain rfl := Option.some.inj asked
    exact ⟨none, token, alone token budget⟩
  | introspectWithRetry token budget =>
    obtain rfl := Option.some.inj asked
    exact ⟨_, token, rfl⟩
  | getUser token budget =>
    obtain rfl := Option.some.inj asked
    exact ⟨none, token, alone token budget⟩
  | _ => cases asked

variable (listening : s.client.listening = true)
include listening

section

variable (sound : s.client.policy.Sound)
include sound

theorem requestSignals_run (asked : s.introspection call = some a) (ordinary : n.Ordinary)
    (share : NotNegative n.jitter) : n.Later (s.run call n).network ∧
      RequestSignals n.clock (a n).result.isOk (signals (s.run call n).events) := by
  obtain ⟨events, network, -⟩ := run_of_introspection mode asked n
  obtain ⟨budget, token, rfl⟩ := introspection_cases mode asked
  obtain ⟨xs, runs⟩ := s.client.does_introspectWithin budget token n
  rw [events, network]
  exact ⟨(runs.later sound ordinary share).1,
    Client.requestSignals_introspectWithin listening sound ordinary share budget token⟩

/-- Calls that introspect leave the session as it is, and their signals are those of as many requests. -/
theorem counted_runAll {calls : List Call} (asked : ∀ call ∈ calls, (s.introspection call).isSome = true)
    (ordinary : n.Ordinary) (share : NotNegative n.jitter) :
    let run := s.runAll calls n
    (run.result = s ∧ n.Later run.network) ∧ (signals run.events).countP (· == .incoming) = calls.length ∧
      (signals run.events).countP Signal.opensRequest = calls.length ∧
      (signals run.events).countP Signal.closesRequest = calls.length := by
  induction calls generalizing n with
  | nil => exact ⟨⟨rfl, .refl n⟩, rfl, rfl, rfl⟩
  | cons call calls ih =>
    obtain ⟨a, introspects⟩ := Option.isSome_iff_exists.1 (asked call List.mem_cons_self)
    obtain ⟨later, request⟩ := requestSignals_run mode listening sound introspects ordinary share
    obtain ⟨-, -, same⟩ := run_of_introspection mode introspects n
    obtain ⟨⟨result, after⟩, incoming, opens, closes⟩ :=
      ih (fun call member => asked call (List.mem_cons_of_mem _ member)) (later.forward ordinary).1
        (later.jitter.symm ▸ share)
    obtain ⟨incoming', opens', closes'⟩ := request.counted
    rw [runAll_cons, same]
    simp only [signals_append, List.countP_append, List.length_cons, incoming, incoming', opens, opens',
      closes, closes', Nat.add_comm 1]
    exact ⟨⟨result, later.trans after⟩, trivial, trivial, trivial⟩

end

/-- After any calls of an async client that introspect, whatever came of them, the next one's signals are
those of one request, which succeeds exactly if token information was brought. The sums of the collector
tell how many calls there were, and no duration is negative. -/
theorem requests_accounted {fields : Json.Members}
    (accepted : RetryPolicy.ofFields fields = .ok s.client.policy) {calls : List Call}
    (asked : ∀ call ∈ calls, (s.introspection call).isSome = true) (ordinary : n.Ordinary)
    (share : Double.le .zero n.jitter = true) :
    (∀ earlier call later, calls = earlier ++ call :: later →
      let t := (s.runAll earlier n).result
      let m := (s.runAll earlier n).network
      ∃ a, t.introspection call = some a ∧
        RequestSignals m.clock (a m).result.isOk (signals (t.run call m).events)) ∧
    let sums := Metrics.recordEvents {} (s.runAll calls n).events
    sums.incoming = calls.length ∧ sums.requests = calls.length ∧
      sums.requestDuration.count = calls.length ∧ sums.NoneNegative := by
  have sound := RetryPolicy.sound_of_ofFields accepted
  obtain ⟨-, incoming, opens, closes⟩ := counted_runAll mode listening sound asked ordinary (.inr share)
  refine ⟨?_, ?_, ?_, ?_, Metrics.noneNegative_empty.recordEvents _⟩
  · rintro earlier call later rfl
    have before : ∀ call ∈ earlier, (s.introspection call).isSome = true :=
      fun call member => asked call (List.mem_append_left _ member)
    obtain ⟨⟨same, after⟩, -⟩ := counted_runAll mode listening sound before ordinary (.inr share)
    obtain ⟨a, introspects⟩ := Option.isSome_iff_exists.1
      (asked call (List.mem_append_right _ List.mem_cons_self))
    dsimp only
    rw [same]
    exact ⟨a, introspects, (requestSignals_run mode listening sound introspects (after.forward ordinary).1
      (after.jitter.symm ▸ .inr share)).2⟩
  · rw [Metrics.incoming_recordEvents, incoming]
    exact Nat.zero_add _
  · rw [Metrics.requests_recordEvents, opens]
    exact Nat.zero_add _
  · rw [Metrics.requestDuration_recordEvents, closes]
    exact Nat.zero_add _

omit mode listening

/-- A token that is not active makes no user, but its introspection succeeds; a blank one is refused. -/
theorem requests_accounted_inactive :
    let client : Client := {
      endpoint := { endpoint := "https://a.example/i", method := .post }
      parser := fun _ _ => .ok { active := false }
      policy := {}
      budget := .whole 1
      listening := true }
    let s : Session := { mode := .async, client }
    let n : Network := {
      servers := [("a.example", ⟨⟨.ofDecimal false 15 (-2), .ok { status := 200 }⟩, []⟩)] }
    let first : Call := .getUser "t" none
    let calls := [first, .introspectWithRetry " " none]
    let sums := Metrics.recordEvents {} (s.runAll calls n).events
    (s.run first n).result.2 = .error (.raised .notAUser "Token is not active") ∧
      RequestSignals .zero true (signals (s.run first n).events) ∧
      sums.incoming = 2 ∧ sums.requests = 2 ∧ sums.requestDuration.count = 2 ∧ sums.NoneNegative := by
  intro client s n first calls sums
  have accepted : RetryPolicy.ofFields [] = .ok client.policy := by decide +kernel
  have asked : ∀ call ∈ calls, (s.introspection call).isSome = true := by simp [calls, first, introspection]
  have ordinary : n.Ordinary := by
    refine ⟨Double.isTime_of_finite (Double.proper_finite_zero false) rfl, fun entry member k => ?_⟩
    obtain rfl := List.mem_singleton.1 member
    rw [get_alone]
    decide +kernel
  obtain ⟨each, totals⟩ := requests_accounted (s := s) (by decide) rfl accepted asked ordinary (by decide +kernel)
  obtain ⟨a, introspects, request⟩ := each [] first _ rfl
  obtain rfl := Option.some.inj introspects
  have brought : (s.introspect "t" none n).result.isOk = true := by decide +kernel
  have request : RequestSignals .zero (s.introspect "t" none n).result.isOk
    (signals (s.run first n).events) := request
  rw [brought] at request
  exact ⟨by decide +kernel, request, totals⟩

end Session

end Bearer
