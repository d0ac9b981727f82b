import Bearer.Proofs.Fallback
import Bearer.Proofs.Retry.Wait

/-!
The retry loop of a call. It ends after at least one execution and at most as many as the policy allows;
all but the last failed with what may pass, and the last one brings the result. Between two executions
there is one wait, which the policy makes (`call_retried`).
-/

namespace Bearer

open Double (NotNegative)

/-! ### Waits among events -/

def waits (events : List Event) : List Double :=
  events.filterMap fun
    | .wait seconds => some seconds
    | _ => none

@[simp] theorem waits_append (es fs : List Event) : waits (es ++ fs) = waits es ++ waits fs :=
  List.filterMap_append

def Event.IsInner : Event → Prop
  | .attempt .. | .wait _ => False
  | _ => True

theorem waits_of_inner {es : List Event} (inner : ∀ e ∈ es, e.IsInner) : waits es = [] := by
  apply List.filterMap_eq_nil_iff.2
  intro e member
  have kind := inner e member
  cases e with
  | wait seconds => cases kind
  | _ => rfl

namespace Client

variable {c : Client} {r : Request}

theorem inner_execute (c : Client) (r : Request) : (c.execute r).Emits Event.IsInner := by
  have exchanged : (exchange c.maxResponseBytes r).Emits Event.IsInner :=
    (emits_exchange _ r).mono fun e exchanged => by cases e <;> trivial
  refine emits_bind (emits_perform (fun _ _ => trivial) exchanged) fun x => ?_
  exact emits_bind (emits_emit (e := .execution x) trivial) fun _ => emits_silent fun _ => rfl

theorem inner_attempt (c : Client) (r : Request) (k : Nat) : (c.attempt r k).Emits Event.IsInner := by
  apply emits_bind (inner_execute c r)
  intro outcome
  cases outcome with
  | ok t => exact emits_silent fun _ => rfl
  | error f =>
    refine emits_bind (?_ : (reportAttempt r k f).Emits _) fun _ => emits_silent fun _ => rfl
    unfold reportAttempt
    split
    · exact emits_emit (e := .log ..) trivial
    · exact emits_silent fun _ => rfl

end Client

/-! ### Networks after an execution -/

namespace Network

/-- A clock that shows a time, and servers that take none back. -/
structure Ordinary (n : Network) : Prop where
  time : n.clock.IsTime
  latencies : ∀ entry ∈ n.servers, ∀ k, Double.le .zero (entry.2.get k).latency = true

structure Later (n m : Network) : Prop where
  jitter : m.jitter = n.jitter
  forward : n.Ordinary → m.Ordinary ∧ n.clock.le m.clock = true

theorem Later.refl (n : Network) : n.Later n :=
  ⟨rfl, fun ordinary => ⟨ordinary, Double.le_refl ordinary.time.number⟩⟩

theorem Later.trans {n₁ n₂ n₃ : Network} (h : n₁.Later n₂) (h' : n₂.Later n₃) : n₁.Later n₃ := by
  refine ⟨h'.jitter.trans h.jitter, fun ordinary => ?_⟩
  obtain ⟨between, first⟩ := h.forward ordinary
  obtain ⟨after, second⟩ := h'.forward between
  exact ⟨after, Double.le_trans first second⟩

end Network

def passing : Action.Law where
  holds a := ∀ n, n.Later (a n).network
  bind first later n := (first n).trans (later _ _)
  still h n := by
    rw [(h n).2]
    exact Network.Later.refl n
  note _ n := Network.Later.refl n
  recorded h := h

theorem later_ask (host : String) (n : Network) : n.Later (Action.ask host n).network := by
  unfold Action.ask
  split
  next => exact Network.Later.refl n
  next script found =>
    refine ⟨rfl, fun ordinary => ?_⟩
    have asked : (host, script) ∈ n.servers := by
      obtain ⟨front, back, whole, -⟩ := List.lookup_eq_some_iff.1 found
      rw [whole]
      exact List.mem_append_right _ List.mem_cons_self
    have latency : Double.le .zero script.next.latency = true := ordinary.latencies _ asked 0
    refine ⟨⟨ordinary.time.add latency, fun entry member k => ?_⟩, ordinary.time.le_add latency⟩
    obtain ⟨⟨name, before⟩, known, rfl⟩ := List.mem_map.1 member
    by_cases same : name = host
    · simp only [same, if_true, get_advance]
      exact ordinary.latencies _ known (k + 1)
    · simp only [same, if_false]
      exact ordinary.latencies _ known k

theorem later_exchangeWith (limit : Int) (r : Request) (url : Url) (n : Network) :
    n.Later (exchangeWith limit r url n).network := by
  unfold exchangeWith
  cases url.readableHost with
  | error e => exact Network.Later.refl n
  | ok host => exact later_ask _ n

theorem later_exchange (limit : Int) (r : Request) : passing.holds (exchange limit r) := by
  unfold exchange
  cases Url.read r.url.toList with
  | error e => exact passing.pure _
  | ok url =>
    apply passing.bind (later_exchangeWith limit r _)
    intro outcome
    cases outcome with
    | ok response => exact passing.pure _
    | error e => exact passing.bind (passing.report _ e) fun _ => passing.pure _

theorem Client.later_execute (c : Client) (r : Request) : passing.holds (c.execute r) :=
  passing.bind (passing.perform (later_exchange _ r)) fun _ =>
    passing.bind (a := Action.emit _) Network.Later.refl fun _ => passing.pure _

theorem Client.later_attempt (c : Client) (r : Request) (k : Nat) : passing.holds (c.attempt r k) := by
  apply passing.bind (later_execute c r)
  intro outcome
  cases outcome with
  | ok t => exact passing.pure _
  | error f => exact passing.bind (passing.reportAttempt r k f) fun _ => passing.pure _

/-! ### Rounds -/

namespace Client

variable {c : Client} {r : Request} {p : RetryPolicy} {budget : Budget} {started : Double} {left k : Nat}
  {n : Network}

/-- What a loop of executions of `r` does from attempt `k` on, which `left` others may follow. -/
structure Rounds (p : RetryPolicy) (budget : Budget) (r : Request) (started : Double) (left k : Nat)
    (n : Network) (run : Step (Except Failure TokenInfo)) : Prop where
  atMost : (executions run.events).length ≤ left + 1
  last : ∃ x, (executions run.events).getLast? = some x ∧ x.request = r ∧ x.outcome = run.result
  earlier : ∀ x ∈ (executions run.events).dropLast, ∃ f, x.outcome = .error f ∧ f.isRetryable = true
  ended : (∃ t, run.result = .ok t) ∨ (∃ f, run.result = .error f ∧ f.isRetryable = false) ∨
    (executions run.events).length = left + 1 ∨ budget.seconds.le (run.network.clock - started) = true
  waited : waits run.events =
    (List.range' k ((executions run.events).length - 1)).map (p.wait n.jitter)

theorem Rounds.pos {run : Step (Except Failure TokenInfo)} (h : Rounds p budget r started left k n run) :
    1 ≤ (executions run.events).length := by
  rw [Nat.one_le_iff_ne_zero, ne_eq, List.length_eq_zero_iff]
  intro none
  obtain ⟨x, last, -⟩ := h.last
  rw [none] at last
  cases last

theorem executions_announced (p : RetryPolicy) (c : Client) (r : Request) (k : Nat) (n : Network) :
    executions (p.announcement k n :: (c.attempt r k n).events) = [c.executed r n] := by
  rw [executions_note (e := p.announcement k n) trivial, executions_attempt]

theorem waits_attempt (c : Client) (r : Request) (k : Nat) (n : Network) :
    waits (c.attempt r k n).events = [] := waits_of_inner (inner_attempt c r k n)

/-- A round that is the last one, as no others are left or it ends the loop. -/
theorem rounds_last (stops : left = 0 ∨ RetryPolicy.Ends budget started (c.attempt r k n)) :
    Rounds p budget r started left k n ⟨(c.attempt r k n).result,
      p.announcement k n :: (c.attempt r k n).events, (c.attempt r k n).network⟩ := by
  have one := executions_announced p c r k n
  have last : (executions (p.announcement k n :: (c.attempt r k n).events)).getLast? = some (c.executed r n) := by
    rw [one]
    rfl
  have result : (c.executed r n).outcome = (c.attempt r k n).result := by rw [outcome_executed, result_attempt]
  refine ⟨by simp [one], ⟨_, last, request_executed c r n, result⟩, by simp [one], ?_, ?_⟩
  · cases came : (c.attempt r k n).result with
    | ok t => exact .inl ⟨t, rfl⟩
    | error f =>
      rcases stops with rfl | ends
      · exact .inr (.inr (.inl (by simp [one])))
      · rcases ends f came with permanent | late
        · exact .inr (.inl ⟨f, rfl, permanent⟩)
        · exact .inr (.inr (.inr late))
  · have none : waits (p.announcement k n :: (c.attempt r k n).events) = [] := waits_attempt c r k n
    simp [none, one]

/-- A round in front of others: its execution failed with what may pass, and a wait follows. -/
theorem rounds_again {f : Failure} {rest : Step (Except Failure TokenInfo)}
    (failed : (c.attempt r k n).result = .error f) (retryable : f.isRetryable = true)
    (h : Rounds p budget r started left (k + 1) (p.waited k (c.attempt r k n).network) rest) :
    Rounds p budget r started (left + 1) k n ⟨rest.result, p.announcement k n ::
      ((c.attempt r k n).events ++ .log .warning "stamina.retry_scheduled" ::
        .wait (p.wait (c.attempt r k n).network.jitter k) :: rest.events), rest.network⟩ := by
  have outcome : (c.executed r n).outcome = .error f := by rw [outcome_executed, ← result_attempt c r k n, failed]
  have jitter : (c.attempt r k n).network.jitter = n.jitter := (later_attempt c r k n).jitter
  have pos := h.pos
  have executed : executions (p.announcement k n :: ((c.attempt r k n).events ++
      .log .warning "stamina.retry_scheduled" :: .wait (p.wait (c.attempt r k n).network.jitter k) ::
        rest.events)) = c.executed r n :: executions rest.events := by
    rw [executions_note (e := p.announcement k n) trivial, executions_append, executions_attempt]
    rfl
  have waited : waits (p.announcement k n :: ((c.attempt r k n).events ++
      .log .warning "stamina.retry_scheduled" :: .wait (p.wait (c.attempt r k n).network.jitter k) ::
        rest.events)) = p.wait n.jitter k :: waits rest.events := by
    show waits ((c.attempt r k n).events ++ _) = _
    rw [waits_append, waits_attempt, jitter]
    rfl
  refine ⟨?_, ?_, ?_, ?_, ?_⟩
  · rw [executed, List.length_cons]
    exact Nat.succ_le_succ h.atMost
  · obtain ⟨x, last, own, brings⟩ := h.last
    refine ⟨x, ?_, own, brings⟩
    rw [executed, List.getLast?_cons, last]
    rfl
  · rw [executed, List.dropLast_cons_of_ne_nil (by rintro none; simp [none] at pos)]
    intro x member
    rcases List.mem_cons.1 member with rfl | member
    · exact ⟨f, outcome, retryable⟩
    · exact h.earlier x member
  · rw [executed, List.length_cons, Nat.add_right_cancel_iff]
    exact h.ended
  · rw [executed, waited, h.waited, List.length_cons, Nat.add_sub_cancel]
    have count : (executions rest.events).length = (executions rest.events).length - 1 + 1 := by omega
    rw [count, List.range'_succ, List.map_cons, Nat.add_sub_cancel]
    exact congrArg (fun j => _ :: List.map (p.wait j) _) jitter

theorem rounds_attemptFrom (p : RetryPolicy) (budget : Budget) (c : Client) (r : Request) (started : Double)
    (left k : Nat) (n : Network) : Rounds p budget r started left k n
      (p.attemptFrom budget (c.attempt r) started left k n) :=
  RetryPolicy.attemptFrom_induction (motive := fun left k n run => Rounds p budget r started left k n run)
    (fun _ _ _ stops => rounds_last stops)
    (fun _ _ _ _ _ failed retryable _ h => rounds_again failed retryable h) left k n

/-! ### The loop of a call -/

structure Retried (p : RetryPolicy) (budget : Budget) (r : Request) (n : Network)
    (run : Step (Except Failure TokenInfo)) : Prop where
  atLeastOnce : 1 ≤ (executions run.events).length
  atMost : (executions run.events).length ≤ p.attempts
  earlier : ∀ x ∈ (executions run.events).dropLast,
    ∃ f, x.outcome = .error f ∧ f.kind.isTokenInfo = true ∧ f.isRetryable = true
  last : ∃ x, (executions run.events).getLast? = some x ∧ x.request = r ∧ x.outcome = run.result
  ended : (∃ t, run.result = .ok t) ∨ (∃ f, run.result = .error f ∧ f.isRetryable = false) ∨
    (executions run.events).length = p.attempts ∨
    budget.seconds.le (run.network.clock - n.clock) = true
  between : (waits run.events).length + 1 = (executions run.events).length
  waited : ∀ i w, (waits run.events)[i]? = some w → p.IsWait n.jitter (i + 1) w
  bounded : ∀ w ∈ waits run.events, Double.le .zero w = true ∧ w.le p.waitMax = true
  growing : (waits run.events).Pairwise fun w w' => w.le w' = true

theorem isTokenInfo_of_retrySuggested {k : Kind} (h : k.retrySuggested = true) : k.isTokenInfo = true := by
  cases k <;> first | rfl | cases h

theorem Rounds.retried {run : Step (Except Failure TokenInfo)} (sound : p.Sound) (finite : p.IsFinite)
    (share : NotNegative n.jitter) (number : n.jitter.isFinite = true)
    (h : Rounds p budget r n.clock (p.attempts - 1) 1 n run) : Retried p budget r n run := by
  have all : p.attempts - 1 + 1 = p.attempts := Nat.sub_add_cancel sound.attempts
  have atMost := h.atMost
  have ended := h.ended
  rw [all] at atMost ended
  have between : (waits run.events).length + 1 = (executions run.events).length := by
    rw [h.waited, List.length_map, List.length_range', Nat.sub_add_cancel h.pos]
  refine ⟨h.pos, atMost, fun x member => ?_, h.last, ended, between, fun i w found => ?_,
    fun w member => ?_, ?_⟩
  · obtain ⟨f, failed, retryable⟩ := h.earlier x member
    exact ⟨f, failed, isTokenInfo_of_retrySuggested retryable, retryable⟩
  · rw [h.waited, List.getElem?_map] at found
    obtain ⟨k, place, rfl⟩ := Option.map_eq_some_iff.1 found
    obtain ⟨inside, rfl⟩ := List.getElem?_eq_some_iff.1 place
    rw [List.getElem_range', Nat.one_mul, Nat.add_comm]
    exact p.isWait_wait sound finite _ _
  · rw [h.waited] at member
    obtain ⟨k, -, rfl⟩ := List.mem_map.1 member
    exact ⟨RetryPolicy.zero_le_wait sound share k, RetryPolicy.wait_le_waitMax sound _ k⟩
  · rw [h.waited]
    refine List.Pairwise.map _ (fun j k earlier => ?_) (List.pairwise_lt_range' 1)
    exact RetryPolicy.wait_mono sound finite share number (Nat.le_of_lt earlier)

/-- A call with retries ends after at least one execution and at most as many as its policy allows, whatever
the servers answer and for how ever long. All but the last failed with what may pass, the last one brings the
result, and the waits between them are those of the policy. -/
theorem call_retried {fields : Json.Members} (accepted : RetryPolicy.ofFields fields = .ok c.policy)
    (finite : c.policy.IsFinite) {b : Budget} (within : b.isExhausted = false)
    (least : Double.le .zero n.jitter = true) (most : n.jitter.le (.finite false Double.one) = true) :
    Retried c.policy b r n (c.call (some b) r n) := by
  have number : n.jitter.isFinite = true := Double.isFinite_of_between rfl rfl least most
  rw [call_within within]
  exact (rounds_attemptFrom c.policy b c r n.clock _ 1 n).retried (RetryPolicy.sound_of_ofFields accepted)
    finite (.inr least) number

/-- Two executions fail with status 503, and the third one succeeds after waits of 0.01 and 0.02 seconds. -/
theorem call_retried_unavailable :
    let client : Client := {
      endpoint := { endpoint := "https://a.example/i", method := .post }
      parser := fun _ body => .ok { userId := some (toString body.length) }
      policy := {}
      budget := .whole 1 }
    let r : Request := { endpoint := "https://a.example/i", method := .post, url := "https://a.example/i" }
    let refused : Reply := ⟨.zero, .ok { status := 503 }⟩
    let granted : Reply := ⟨.zero, .ok { status := 200, chunks := [[0x7b, 0x7d]] }⟩
    let n : Network := { servers := [("a.example", ⟨refused, [refused, granted]⟩)] }
    let run := client.call (some (.whole 1)) r n
    Retried client.policy (.whole 1) r n run ∧ run.result = .ok { userId := some "2" } ∧
      waits run.events = [.ofDecimal false 1 (-2), .ofDecimal false 2 (-2)] := by
  intro client r refused granted n run
  have accepted : RetryPolicy.ofFields [] = .ok client.policy := by decide +kernel
  have finite : client.policy.IsFinite := by constructor <;> decide +kernel
  have retried := call_retried (r := r) (n := n) accepted finite (b := .whole 1) (by decide +kernel)
    (by decide +kernel) (by decide +kernel)
  exact ⟨retried, by decide +kernel, by decide +kernel⟩

end Client

end Bearer
