import Bearer.Proofs.GivenToken
import Bearer.Proofs.Network
import Bearer.Proofs.Retry

/-!
The frame of a call. Around the events of asking the endpoints stand the signals that a metrics collector is told,
then the record of the outcome, and at the end the span (`events_of_accepted`, `events_of_refused`).
-/

namespace Bearer

def Event.IsSignal : Event → Prop
  | .signal .. => True
  | _ => False

theorem isSignal_of_tell {listening : Bool} {s : Signal} {n : Network} :
    ∀ e ∈ (Action.tell listening s n).events, e.IsSignal := emits_tell listening (fun _ => trivial) n

/-- Events matter to a trace by the executions and the waits among them. -/
theorem Trace.shownBy_filter {keep : Event → Bool} (executions : ∀ x, keep (.execution x) = true)
    (waits : ∀ seconds, keep (.wait seconds) = true) (es : List Event) :
    shownBy (es.filter keep) = shownBy es := by
  have passed (last : Option Execution) : lastExecutions last (es.filter keep) = lastExecutions last es := by
    induction es generalizing last with
    | nil => rfl
    | cons e es ih =>
      cases kept : keep e with
      | true =>
        rw [List.filter_cons_of_pos kept]
        cases e <;> simp only [lastExecutions, ih]
      | false =>
        rw [List.filter_cons_of_neg (Bool.not_eq_true _ ▸ kept)]
        cases e with
        | execution x => cases (executions x).symm.trans kept
        | wait seconds => cases (waits seconds).symm.trans kept
        | _ => exact ih last
  exact congrArg (List.flatMap shownOf) (passed none)

namespace Client

/-- The record of a failure as it is met, before it leaves the call. -/
def failureRecord (f : Failure) (shown : List String) : Event :=
  if f.kind.isIntrospection then .log .warning ("Token introspection failed: " ++ f.message)
  else .log .error "Unexpected error during token introspection" (some ⟨f, shown⟩)

/-- The record of what came of asking the endpoints about a token. -/
def outcomeRecord (c : Client) (token : String) (shown : List String) : Except Failure TokenInfo → Event
  | .ok t => .log .debug
    ("Introspected token " ++ Token.fingerprint c.salt token ++ ": active=" ++ boolText t.active)
  | .error f => failureRecord f shown

def outcomeSpan (c : Client) (token : String) : Except Failure TokenInfo → Span
  | .ok t => {
    endpoint := some c.endpoint.endpoint
    fingerprint := some (Token.fingerprint c.salt token)
    active := some t.active }
  | .error f => Span.fail {
    endpoint := some c.endpoint.endpoint
    fingerprint := some (Token.fingerprint c.salt token) } f (leaving f)

theorem reportFailure_eq (f : Failure) (shown : List String) :
    reportFailure f shown = Action.emit (failureRecord f shown) := by
  unfold reportFailure failureRecord
  split <;> rfl

theorem isNote_failureRecord (f : Failure) (shown : List String) : (failureRecord f shown).IsNote := by
  unfold failureRecord
  split <;> trivial

theorem events_fail (c : Client) (started : Double) (span : Span) (f : Failure) (shown : List String)
    (n : Network) : ∃ told, (∀ e ∈ told, e.IsSignal) ∧ (c.fail started span f shown n).events =
      told ++ [failureRecord f shown, .span (span.fail f (leaving f))] := by
  have reported (m : Network) : (reportFailure f shown m).events = [failureRecord f shown] := by
    rw [reportFailure_eq]
    rfl
  have whole : (c.fail started span f shown n).events =
      (Action.tell c.listening (.requestFailure started) n).events ++
        [failureRecord f shown, .span (span.fail f (leaving f))] := by
    simp only [fail, Action.bind_apply, reported]
    rfl
  exact ⟨_, isSignal_of_tell, whole⟩

theorem events_succeed (c : Client) (started : Double) (span : Span) (fingerprint : String) (t : TokenInfo)
    (n : Network) :
    ∃ told, (∀ e ∈ told, e.IsSignal) ∧ (c.succeed started span fingerprint t n).events = told ++
      [.log .debug ("Introspected token " ++ fingerprint ++ ": active=" ++ boolText t.active),
        .span { span with active := some t.active }] := by
  have whole : (c.succeed started span fingerprint t n).events =
      (Action.tell c.listening (.requestSuccess started) n).events ++ _ := rfl
  exact ⟨_, isSignal_of_tell, whole⟩

theorem events_begin (c : Client) (n : Network) :
    ∀ e ∈ (Action.tell c.listening .incoming n).events ++
      (Action.tell c.listening (.request n.clock) n).events, e.IsSignal := by
  intro e member
  rcases List.mem_append.1 member with member | member <;> exact isSignal_of_tell e member

theorem events_conclude (c : Client) (started : Double) (given : GivenToken) (token : String)
    (outcome : Except Failure TokenInfo) (asked : List Event) (n : Network) :
    let run := c.conclude started given token (outcome, asked) n
    run.result = outcome.mapError leaving ∧ ∃ told, (∀ e ∈ told, e.IsSignal) ∧
      run.events = told ++ [c.outcomeRecord token (given.shown ++ Trace.shownBy asked) outcome,
        .span (c.outcomeSpan token outcome)] := by
  cases outcome with
  | ok t => exact ⟨rfl, c.events_succeed ..⟩
  | error f => exact ⟨rfl, c.events_fail ..⟩

variable {c : Client} {given : GivenToken}

theorem events_of_accepted {token : String} (accepted : given.accept = .ok token)
    (budget : Option Budget) (n : Network) :
    let asked := c.askBoth budget token n
    let run := c.introspectWithin budget given n
    run.result = asked.result.mapError leaving ∧
      ∃ front back, (∀ e ∈ front, e.IsSignal) ∧ (∀ e ∈ back, e.IsSignal) ∧
        run.events = front ++ asked.events ++
          (back ++ [c.outcomeRecord token (given.shown ++ Trace.shownBy asked.events) asked.result,
            .span (c.outcomeSpan token asked.result)]) := by
  intro asked run
  obtain ⟨result, back, told, concluded⟩ :=
    c.events_conclude n.clock given token asked.result asked.events asked.network
  have whole : run = ((Action.tell c.listening .incoming >>= fun _ =>
      Action.tell c.listening (.request n.clock) >>= fun _ =>
        (c.askBoth budget token).recorded >>= c.conclude n.clock given token) n) := by
    simp only [run, introspectWithin, Action.bind_apply, Action.clock_apply, accepted, List.nil_append]
  rw [whole]
  simp only [Action.bind_apply, network_of_tell]
  refine ⟨result, _, back, c.events_begin n, told, ?_⟩
  rw [List.append_assoc, List.append_assoc, ← concluded]
  rfl

/-- A call whose token is refused ends with that. -/
theorem events_of_refused {f : Failure} (refused : given.accept = .error f) (budget : Option Budget)
    (n : Network) :
    (c.introspectWithin budget given n).result = .error (leaving f) ∧
      ∃ front, (∀ e ∈ front, e.IsSignal) ∧ (c.introspectWithin budget given n).events =
        front ++ [failureRecord f given.shown, .span (Span.fail {} f (leaving f))] := by
  obtain ⟨told, signals, closing⟩ := c.events_fail n.clock {} f given.shown n
  have begins := c.events_begin n
  simp only [introspectWithin, Action.bind_apply, Action.clock_apply, network_of_tell, refused, closing,
    List.nil_append]
  refine ⟨rfl, _ ++ told, fun e member => (List.mem_append.1 member).elim (begins e) (signals e), ?_⟩
  simp only [List.append_assoc]

/-- What a call catches of a failure, before it is wrapped, or else comes to. -/
def caught (c : Client) (budget : Option Budget) (given : GivenToken) (n : Network) : Except Failure TokenInfo :=
  match given.accept with
  | .ok token => (c.askBoth budget token n).result
  | .error f => .error f

end Client

end Bearer
