import Bearer.Proofs.Call
import Bearer.Proofs.Endpoint.Validity
import Bearer.Proofs.Retry

/-!
The fallback protocol. The executions of one call are a block against the endpoint and perhaps one
against the fallback, which is asked exactly if the first block ended with a failure that another endpoint
need not share. What the last execution brought leaves the call, wrapped if it is a failure that is none
of this library (`fallback_protocol`). A token without an encoding brings no execution about.
-/

namespace Bearer

/-! ### Executions among events -/

def executions (events : List Event) : List Execution :=
  events.filterMap fun
    | .execution x => some x
    | _ => none

@[simp] theorem executions_append (es fs : List Event) :
    executions (es ++ fs) = executions es ++ executions fs := List.filterMap_append

theorem executions_note {e : Event} (note : e.IsNote) (es : List Event) :
    executions (e :: es) = executions es := by
  cases e <;> first | rfl | cases note

def Action.Idle (a : Action α) : Prop := ∀ n, executions (a n).events = []

def idleness : Action.Law where
  holds := Action.Idle
  bind := by
    intro _ _ a f first later n
    rw [Action.bind_apply, executions_append, first, later]
    rfl
  still h n := by rw [(h n).1]; rfl
  note note _ := executions_note note []
  recorded h := h

theorem executions_idle_bind {a : Action α} (idle : a.Idle) (f : α → Action β) (n : Network) :
    executions ((a >>= f) n).events = executions (f (a n).result (a n).network).events := by
  rw [Action.bind_apply, executions_append, idle, List.nil_append]

theorem executions_bind_idle {f : α → Action β} (idle : ∀ x, (f x).Idle) (a : Action α) (n : Network) :
    executions ((a >>= f) n).events = executions (a n).events := by
  rw [Action.bind_apply, executions_append, idle, List.append_nil]

theorem idle_exchange (limit : Int) (r : Request) : (exchange limit r).Idle := by
  intro n
  apply List.filterMap_eq_nil_iff.2
  intro e member
  have exchanged := emits_exchange limit r n e member
  cases e with
  | request _ => rfl
  | log level message trace => rfl
  | _ => cases exchanged

/-! ### Blocks -/

/-- Executions of one request, the last of which brought what they are about. -/
structure Block (r : Request) (result : Except Failure TokenInfo) (xs : List Execution) : Prop where
  alike : ∀ x ∈ xs, x.request = r
  last : ∃ x, xs.getLast? = some x ∧ x.outcome = result

theorem Block.one (x : Execution) : Block x.request x.outcome [x] :=
  ⟨fun y member => by rw [List.mem_singleton.1 member], x, rfl, rfl⟩

theorem Block.cons {r : Request} {result : Except Failure TokenInfo} {xs : List Execution}
    (h : Block r result xs) {earlier : Execution} (same : earlier.request = r) :
    Block r result (earlier :: xs) := by
  obtain ⟨x, last, brought⟩ := h.last
  refine ⟨fun y member => ?_, x, by rw [List.getLast?_cons, last]; rfl, brought⟩
  rcases List.mem_cons.1 member with rfl | member
  · exact same
  · exact h.alike y member

theorem Block.ne_nil {r : Request} {result : Except Failure TokenInfo} {xs : List Execution}
    (h : Block r result xs) : xs ≠ [] := by
  rintro rfl
  obtain ⟨x, last, -⟩ := h.last
  cases last

namespace Client

variable {c : Client} {n : Network} {r : Request}

def executed (c : Client) (r : Request) (n : Network) : Execution := (c.perform r n).result

theorem request_executed (c : Client) (r : Request) (n : Network) : (c.executed r n).request = r := by
  have settled (started : Double) (outcome : Except Failure Response) (m : Network) :
      (c.settle r started outcome m).result.request = r := by
    cases outcome <;> rfl
  exact settled ..

theorem outcome_executed (c : Client) (r : Request) (n : Network) :
    (c.executed r n).outcome = (c.execute r n).result := rfl

theorem executions_execute (c : Client) (r : Request) (n : Network) :
    executions (c.execute r n).events = [c.executed r n] := by
  have idle : (c.perform r).Idle := idleness.perform (idle_exchange _ r)
  rw [execute, executions_idle_bind idle]
  rfl

theorem block_execute (c : Client) (r : Request) (n : Network) :
    Block r (c.execute r n).result (executions (c.execute r n).events) := by
  have one := Block.one (c.executed r n)
  rwa [request_executed, outcome_executed, ← executions_execute] at one

theorem result_attempt (c : Client) (r : Request) (k : Nat) (n : Network) :
    (c.attempt r k n).result = (c.execute r n).result := by
  rw [attempt, Action.bind_apply]
  dsimp only
  cases (c.execute r n).result <;> rfl

theorem executions_attempt (c : Client) (r : Request) (k : Nat) (n : Network) :
    executions (c.attempt r k n).events = [c.executed r n] := by
  rw [← executions_execute, attempt]
  apply executions_bind_idle
  intro outcome
  cases outcome with
  | ok t => exact idleness.pure _
  | error f => exact idleness.bind (idleness.reportAttempt r k f) fun _ => idleness.pure _

theorem block_attemptFrom {p : RetryPolicy} {budget : Budget}
    {body : Nat → Action (Except Failure TokenInfo)}
    (one : ∀ k n, ∃ x, executions (body k n).events = [x] ∧ x.request = r ∧ x.outcome = (body k n).result)
    (started : Double) (left k : Nat) (n : Network) :
    Block r (p.attemptFrom budget body started left k n).result
      (executions (p.attemptFrom budget body started left k n).events) := by
  have single (k : Nat) (n : Network) : Block r (body k n).result
      (executions (p.announcement k n :: (body k n).events)) := by
    obtain ⟨x, alone, rfl, brought⟩ := one k n
    rw [executions_note (e := p.announcement k n) trivial, alone, ← brought]
    exact Block.one x
  -- a round that goes on puts its execution in front of a block
  refine RetryPolicy.attemptFrom_induction (motive := fun _ _ _ run =>
    Block r run.result (executions run.events)) (fun _ k n _ => single k n) ?_ left k n
  intro left k n f rest _ _ _ ih
  obtain ⟨x, alone, same, -⟩ := one k n
  have noted (level : Level) (message : String) (seconds : Double) (es : List Event) :
      executions (p.announcement k n :: ((body k n).events ++
        .log level message :: .wait seconds :: es)) = x :: executions es := by
    rw [executions_note (e := p.announcement k n) trivial, executions_append, alone]
    rfl
  dsimp only
  rw [noted]
  exact ih.cons same

variable {budget : Option Budget}

theorem call_within {b : Budget} (within : b.isExhausted = false) (c : Client) (r : Request) (n : Network) :
    c.call (some b) r n = c.policy.attemptFrom b (c.attempt r) n.clock (c.policy.attempts - 1) 1 n := by
  rw [call, RetryPolicy.retrying, within]
  rfl

/-- A call that is within its budget executes its request, and brings what the last execution did. -/
theorem block_call (c : Client) (within : ∀ b, budget = some b → b.isExhausted = false) (r : Request)
    (n : Network) :
    Block r (c.call budget r n).result (executions (c.call budget r n).events) := by
  cases budget with
  | none => exact block_execute c r n
  | some b =>
    rw [call_within (within b rfl)]
    refine block_attemptFrom (fun k n => ⟨_, executions_attempt c r k n, request_executed c r n, ?_⟩) _ _ _ _
    rw [result_attempt, outcome_executed]

theorem length_call (c : Client) (once : budget = none) (r : Request) (n : Network) :
    (executions (c.call budget r n).events).length = 1 := by
  subst once
  exact congrArg List.length (executions_execute c r n)

theorem call_exhausted {b : Budget} (exhausted : b.isExhausted = true) (r : Request) :
    c.call (some b) r = (return .error b.refusal) := by
  rw [call, RetryPolicy.retrying, exhausted]
  rfl

/-! ### Both endpoints -/

/-- The executions of a call of a token in two blocks, `outcome` being what the last of them brought.
An exhausted budget leaves both of them empty. -/
structure Blocks (c : Client) (budget : Option Budget) (token : String) (events : List Event)
    (outcome : Except Failure TokenInfo) (primary backup : List Execution) : Prop where
  executed : executions events = primary ++ backup
  first : ∀ x ∈ primary, c.endpoint.request token false = .ok x.request
  second : ∀ x ∈ backup, c.endpoint.request token true = .ok x.request
  switched : backup ≠ [] ↔ c.endpoint.fallback.isSome = true ∧ ∃ x f, primary.getLast? = some x ∧
    x.outcome = .error f ∧ f.kind.isTokenInfo = true ∧ f.kind.allowsFallback = true
  once : budget = none → primary.length = 1 ∧ backup.length ≤ 1
  refused : ∀ b, budget = some b → b.isExhausted = true →
    primary = [] ∧ backup = [] ∧ outcome = .error b.refusal
  last : (∀ b, budget = some b → b.isExhausted = false) →
    ∃ x, (primary ++ backup).getLast? = some x ∧ x.outcome = outcome

/-- What one outcome becomes on its way out of a call: a failure that is none of this library is wrapped
in one that is, of which it is the cause. -/
inductive Conveyed : Except Failure TokenInfo → Except Failure TokenInfo → Prop where
  | info (t : TokenInfo) : Conveyed (.ok t) (.ok t)
  | own {f : Failure} (introspection : f.kind.isIntrospection = true) : Conveyed (.error f) (.error f)
  | wrapped {f g : Failure} (foreign : f.kind.isIntrospection = false) (kind : g.kind = .introspection)
    (cause : g.cause = some f.kind) : Conveyed (.error f) (.error g)

theorem conveyed_leaving (outcome : Except Failure TokenInfo) :
    Conveyed outcome (outcome.mapError leaving) := by
  cases outcome with
  | ok t => exact .info t
  | error f =>
    rw [mapError_error, leaving]
    cases own : f.kind.isIntrospection with
    | true => exact .own own
    | false => exact .wrapped own rfl rfl

theorem isTokenInfo_of_allowsFallback {k : Kind} (h : k.allowsFallback = true) : k.isTokenInfo = true := by
  cases k <;> first | rfl | cases h

theorem ask_of_request {token : String} {fallback : Bool}
    (made : c.endpoint.request token fallback = .ok r) : c.ask budget token fallback = c.call budget r := by
  rw [ask, made]

/-- Without a failure that switches to the fallback, the endpoint alone is asked. -/
theorem askBoth_stays {token : String} (stays : ∀ f, (c.ask budget token false n).result = .error f →
      (f.kind.allowsFallback && c.endpoint.fallback.isSome) = false) :
    c.askBoth budget token n = c.ask budget token false n := by
  rw [askBoth, Action.bind_apply]
  cases came : (c.ask budget token false n).result with
  | ok t => simp [← came]
  | error f => simp [stays f came, ← came]

theorem askBoth_switches {token : String} {f : Failure}
    (failed : (c.ask budget token false n).result = .error f)
    (switches : (f.kind.allowsFallback && c.endpoint.fallback.isSome) = true) :
    let first := c.ask budget token false n
    let second := c.ask budget token true first.network
    c.askBoth budget token n =
      ⟨second.result, first.events ++ .log .warning
        ("Introspection endpoint " ++ c.endpoint.endpoint ++ " failed, using fallback: " ++ f.message) ::
        second.events, second.network⟩ := by
  rw [askBoth, Action.bind_apply, failed]
  simp only [switches, if_true]
  rfl

/-! ### The protocol -/

section

variable {token : String} {first : Request} (made : c.endpoint.request token false = .ok first)
include made

theorem blocks_exhausted {b : Budget} (exhausted : b.isExhausted = true) (n : Network) :
    c.Blocks (some b) token (c.askBoth (some b) token n).events (c.askBoth (some b) token n).result
      [] [] := by
  have asked : c.ask (some b) token false = (return .error b.refusal) := by
    rw [ask_of_request made, call_exhausted exhausted]
  have same : c.askBoth (some b) token n = ⟨.error b.refusal, [], n⟩ := by
    rw [askBoth_stays, asked]
    · rfl
    · intro f failed
      rw [asked] at failed
      obtain rfl := Except.error.inj failed
      rfl
  rw [same]
  refine ⟨rfl, by simp, by simp, by simp, by simp, fun b' given _ => ?_, fun within => ?_⟩
  · obtain rfl := Option.some.inj given
    exact ⟨rfl, rfl, rfl⟩
  · rw [within b rfl] at exhausted
    cases exhausted

variable (within : ∀ b, budget = some b → b.isExhausted = false)
include within

theorem blocks_stays (stays : ∀ f, (c.call budget first n).result = .error f →
      (f.kind.allowsFallback && c.endpoint.fallback.isSome) = false) :
    c.Blocks budget token (c.askBoth budget token n).events (c.askBoth budget token n).result
      (executions (c.call budget first n).events) [] := by
  have asked : c.ask budget token false = c.call budget first := ask_of_request made
  have block := block_call c within first n
  rw [askBoth_stays (by rwa [asked]), asked]
  refine ⟨by rw [List.append_nil], fun x member => ?_, by simp, ?_, fun once => ?_,
    fun b given exhausted => ?_, fun _ => ?_⟩
  · rw [block.alike x member, made]
  · refine iff_of_false (fun h => h rfl) ?_
    rintro ⟨given, x, f, last, failed, -, allowed⟩
    obtain ⟨y, last', brought⟩ := block.last
    obtain rfl := Option.some.inj (last'.symm.trans last)
    have none := stays f (brought.symm.trans failed)
    rw [allowed, given] at none
    cases none
  · exact ⟨length_call c once first n, Nat.zero_le _⟩
  · rw [within b given] at exhausted
    cases exhausted
  · rw [List.append_nil]
    exact block.last

theorem blocks_switches {second : Request} (made' : c.endpoint.request token true = .ok second) {f : Failure}
    (failed : (c.call budget first n).result = .error f)
    (switches : (f.kind.allowsFallback && c.endpoint.fallback.isSome) = true) :
    c.Blocks budget token (c.askBoth budget token n).events (c.askBoth budget token n).result
      (executions (c.call budget first n).events)
      (executions (c.call budget second (c.call budget first n).network).events) := by
  have asked : c.ask budget token false = c.call budget first := ask_of_request made
  have asked' : c.ask budget token true = c.call budget second := ask_of_request made'
  have block := block_call c within first n
  have block' := block_call c within second (c.call budget first n).network
  rw [askBoth_switches (by rwa [asked]) switches, asked, asked']
  obtain ⟨allowed, given⟩ := Bool.and_eq_true_iff.1 switches
  refine ⟨?_, fun x member => ?_, fun x member => ?_, ?_, fun once => ?_, fun b given exhausted => ?_,
    fun _ => ?_⟩
  · rw [executions_append]
    rfl
  · rw [block.alike x member, made]
  · rw [block'.alike x member, made']
  · obtain ⟨x, last, brought⟩ := block.last
    refine iff_of_true block'.ne_nil ⟨given, x, f, last, brought.trans failed, ?_, allowed⟩
    exact isTokenInfo_of_allowsFallback allowed
  · exact ⟨length_call c once first n, (length_call c once second _).le⟩
  · rw [within b given] at exhausted
    cases exhausted
  · obtain ⟨x, last, brought⟩ := block'.last
    rw [List.getLast?_append, last]
    exact ⟨x, rfl, brought⟩

end

theorem blocks_askBoth {token : String} {first : Request}
    (made : c.endpoint.request token false = .ok first)
    (made' : c.endpoint.fallback.isSome = true → ∃ second, c.endpoint.request token true = .ok second)
    (budget : Option Budget) (n : Network) :
    ∃ primary backup, c.Blocks budget token (c.askBoth budget token n).events
      (c.askBoth budget token n).result primary backup := by
  by_cases within : ∀ b, budget = some b → b.isExhausted = false
  · cases came : (c.call budget first n).result with
    | ok t => exact ⟨_, _, blocks_stays made within fun f failed => by cases came.symm.trans failed⟩
    | error f =>
      cases switches : f.kind.allowsFallback && c.endpoint.fallback.isSome with
      | true =>
        obtain ⟨second, made'⟩ := made' (Bool.and_eq_true_iff.1 switches).2
        exact ⟨_, _, blocks_switches made within made' came switches⟩
      | false =>
        refine ⟨_, _, blocks_stays made within fun g failed => ?_⟩
        obtain rfl := Except.error.inj (came.symm.trans failed)
        exact switches
  · simp only [not_forall, Bool.not_eq_false] at within
    obtain ⟨b, rfl, exhausted⟩ := within
    exact ⟨[], [], blocks_exhausted made exhausted n⟩

theorem executions_of_signals {es : List Event} (signals : ∀ e ∈ es, e.IsSignal) : executions es = [] := by
  refine List.filterMap_eq_nil_iff.2 fun e member => ?_
  have signal := signals e member
  cases e with
  | execution x => cases signal
  | _ => rfl

theorem isNote_outcomeRecord (c : Client) (token : String) (shown : List String)
    (outcome : Except Failure TokenInfo) : (c.outcomeRecord token shown outcome).IsNote := by
  cases outcome with
  | ok t => trivial
  | error f => exact isNote_failureRecord f shown

/-- A call of a token that has an encoding asks both endpoints and then only takes note. -/
theorem introspectWithin_of_accepted {given : GivenToken} {token : String} (accepted : given.accept = .ok token)
    (budget : Option Budget) (n : Network) :
    executions (c.introspectWithin budget given n).events = executions (c.askBoth budget token n).events ∧
      (c.introspectWithin budget given n).result = (c.askBoth budget token n).result.mapError leaving := by
  obtain ⟨result, front, back, before, behind, events⟩ := events_of_accepted (c := c) accepted budget n
  refine ⟨?_, result⟩
  rw [events, executions_append, executions_append, executions_append, executions_of_signals before,
    executions_of_signals behind, executions_note (isNote_outcomeRecord ..)]
  exact List.append_nil _

/-- A call of any other token executes nothing. -/
theorem executions_of_refused {given : GivenToken} {f : Failure} (refused : given.accept = .error f)
    (budget : Option Budget) (n : Network) : executions (c.introspectWithin budget given n).events = [] := by
  obtain ⟨-, front, before, events⟩ := events_of_refused (c := c) refused budget n
  rw [events, executions_append, executions_of_signals before, executions_note (isNote_failureRecord ..)]
  rfl

/-- A token without an encoding is refused, and that is wrapped as any exception that is none of this library. -/
theorem wrapped_of_unencoded {given : GivenToken} {t : RawText} {f : Failure}
    (normalized : given.normalize = .ok t) (unencoded : GivenToken.encode t = .error f) (budget : Option Budget)
    (n : Network) : executions (c.introspectWithin budget given n).events = [] ∧
      ∃ g, (c.introspectWithin budget given n).result = .error g ∧ g.kind = .introspection ∧
        g.cause = some (.foreign "UnicodeEncodeError") := by
  have refused : given.accept = .error f := by
    rw [GivenToken.accept_eq, normalized]
    exact unencoded
  refine ⟨executions_of_refused refused budget n, _, (events_of_refused refused budget n).1, ?_⟩
  cases t with
  | whole s => cases unencoded
  | broken t =>
    obtain rfl := Except.error.inj unencoded
    exact ⟨rfl, rfl⟩

def Protocol (c : Client) (budget : Option Budget) (token : String)
    (run : Step (Except Failure TokenInfo)) : Prop :=
  ∃ primary backup outcome,
    c.Blocks budget token run.events outcome primary backup ∧ Conveyed outcome run.result

section

variable {fields : Json.Members} (accepted : Endpoint.ofFields fields = .ok c.endpoint)
  (nonempty : c.endpoint.endpoint ≠ "") (nonemptyFallback : c.endpoint.fallback ≠ some "")
include accepted nonempty nonemptyFallback

/-- No request of an accepted endpoint fails to be made, if its URLs are not empty. -/
theorem exists_requests (token : String) : ∃ first, c.endpoint.request token false = .ok first ∧
    (c.endpoint.fallback.isSome = true → ∃ second, c.endpoint.request token true = .ok second) := by
  have asked : c.endpoint.asked false = some c.endpoint.endpoint := rfl
  obtain ⟨first, made⟩ := Endpoint.exists_request accepted asked nonempty token
  refine ⟨first, made, fun given => ?_⟩
  obtain ⟨url, found⟩ := Option.isSome_iff_exists.1 given
  have asked : c.endpoint.asked true = some url := found
  refine Endpoint.exists_request accepted asked ?_ token
  rintro rfl
  exact nonemptyFallback found

theorem protocol_introspectWithin {given : GivenToken} {token : String} (encoded : given.accept = .ok token)
    (budget : Option Budget) (n : Network) : c.Protocol budget token (c.introspectWithin budget given n) := by
  obtain ⟨first, made, made'⟩ := exists_requests accepted nonempty nonemptyFallback token
  obtain ⟨events, result⟩ := introspectWithin_of_accepted (c := c) encoded budget n
  obtain ⟨primary, backup, blocks⟩ := blocks_askBoth made made' budget n
  refine ⟨primary, backup, _, ⟨events.trans blocks.executed, blocks.first, blocks.second, blocks.switched,
    blocks.once, blocks.refused, blocks.last⟩, ?_⟩
  rw [result]
  exact conveyed_leaving _

end

end Client

end Bearer
