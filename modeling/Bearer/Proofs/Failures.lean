import Bearer.Proofs.Endpoint.Validity
import Bearer.Proofs.Fault

/-!
What leaves a client is a failure of the library. Which one it is depends on the last execution alone: what
was foreseen is a failure of the introspection, and any exception that is none of the library is the cause
of one that is (`failures_accounted`). The exception to it is a fallback that is empty: with GET no request
can be made for it, so that the set-up is blamed for what the endpoint did.
-/

namespace Bearer

namespace Client

/-! ### The last execution of a run -/

/-- The last execution among the events of a run from `n` is that of `r` in `m`. -/
def LastExecution (c : Client) (n : Network) (events : List Event) (r : Request) (m : Network) : Prop :=
  ∃ before after, events = before ++ (c.execute r m).events ++ after ∧ executions after = [] ∧
    Follows n (requests before) m

variable {c : Client} {r : Request} {n m n' : Network} {events more : List Event}

theorem lastExecution_execute (c : Client) (r : Request) (n : Network) :
    c.LastExecution n (c.execute r n).events r n :=
  ⟨[], [], by rw [List.nil_append, List.append_nil], rfl, follows_refl n⟩

theorem LastExecution.append (h : c.LastExecution n events r m) (idle : executions more = []) :
    c.LastExecution n (events ++ more) r m := by
  obtain ⟨before, after, rfl, none, follows⟩ := h
  refine ⟨before, after ++ more, by rw [List.append_assoc _ after], ?_, follows⟩
  rw [executions_append, none, idle]
  rfl

theorem LastExecution.behind (follows : Follows n (requests more) n') (h : c.LastExecution n' events r m) :
    c.LastExecution n (more ++ events) r m := by
  obtain ⟨before, after, rfl, none, follows'⟩ := h
  refine ⟨more ++ before, after, by simp only [List.append_assoc], none, ?_⟩
  rw [requests_append]
  exact follows_trans follows follows'

theorem LastExecution.last (h : c.LastExecution n events r m) :
    (executions events).getLast? = some (c.executed r m) := by
  obtain ⟨before, after, rfl, none, -⟩ := h
  rw [executions_append, executions_append, none, List.append_nil, executions_execute]
  exact List.getLast?_concat

theorem lastExecution_attempt (c : Client) (r : Request) (k : Nat) (n : Network) :
    c.LastExecution n (c.attempt r k n).events r n := by
  rw [attempt, Action.bind_apply]
  apply (lastExecution_execute c r n).append
  cases (c.execute r n).result with
  | ok t => rfl
  | error f => exact idleness.bind (idleness.reportAttempt r k f) (fun _ => idleness.pure _) _

variable {budget : Option Budget} {token : String}

theorem lastExecution_call (within : ∀ b, budget = some b → b.isExhausted = false) (c : Client) (r : Request)
    (n : Network) : ∃ m, c.LastExecution n (c.call budget r n).events r m ∧
      (c.call budget r n).result = (c.execute r m).result := by
  cases budget with
  | none => exact ⟨n, lastExecution_execute c r n, rfl⟩
  | some b =>
    rw [call_within (within b rfl)]
    refine RetryPolicy.attemptFrom_induction (motive := fun _ _ n run =>
      ∃ m, c.LastExecution n run.events r m ∧ run.result = (c.execute r m).result) ?_ ?_ _ _ n
    · intro _ k n _
      have announced : Follows n (requests [c.policy.announcement k n]) n := follows_refl n
      exact ⟨n, (lastExecution_attempt c r k n).behind announced, result_attempt c r k n⟩
    · intro _ k n f rest _ _ _ ih
      -- what this round does comes before the last execution, and leads to where the others start
      obtain ⟨m, last, result⟩ := ih
      refine ⟨m, ?_, result⟩
      let round := c.policy.announcement k n :: ((c.attempt r k n).events ++
        [.log .warning "stamina.retry_scheduled", .wait (c.policy.wait (c.attempt r k n).network.jitter k)])
      have follows : Follows n (requests round) (c.policy.waited k (c.attempt r k n).network) := by
        show Follows n (requests ((c.attempt r k n).events ++ _)) _
        rw [requests_append]
        exact (List.append_nil _).symm ▸ follows_waited c.policy c r k n
      have whole := last.behind follows
      rwa [List.cons_append, List.append_assoc] at whole

/-! ### Both endpoints -/

/-- With GET, no request can be made for an empty text, which the check of an endpoint passes over. -/
def Unaskable (c : Client) : Prop := c.endpoint.method = .get ∧ c.endpoint.fallback = some ""

/-- What comes of a call whose last execution ended with `executed`: that, or the set-up is blamed. -/
inductive Concludes (c : Client) (executed : Except Failure TokenInfo) : Except Failure TokenInfo → Prop
  | same (stays : c.Unaskable → ∀ f, executed = .error f → f.kind.allowsFallback = false) :
    Concludes c executed executed
  | unasked {f e : Failure} (failed : executed = .error f) (allowed : f.kind.allowsFallback = true)
    (unaskable : c.Unaskable) (blamed : e.kind = .initialization) : Concludes c executed (.error e)

def Concluded (c : Client) (n : Network) (run : Step α) (outcome : Except Failure TokenInfo) : Prop :=
  executions run.events = [] ∨
    ∃ r m, c.LastExecution n run.events r m ∧ c.Concludes (c.execute r m).result outcome

variable {fields : Json.Members}

theorem tracks_call (budget : Option Budget) (c : Client) (r : Request) : (c.call budget r).Tracks :=
  tracking.call (tracks_exchange _ r)

theorem concluded_switched (accepted : Endpoint.ofFields fields = .ok c.endpoint)
    (within : ∀ b, budget = some b → b.isExhausted = false) {first : Request} {f : Failure}
    (made : c.endpoint.request token false = .ok first)
    (failed : (c.call budget first n).result = .error f)
    (switches : (f.kind.allowsFallback && c.endpoint.fallback.isSome) = true) :
    c.Concluded n (c.askBoth budget token n) (c.askBoth budget token n).result := by
  have asked : c.ask budget token false = c.call budget first := ask_of_request made
  obtain ⟨allowed, given⟩ := Bool.and_eq_true_iff.1 switches
  rw [askBoth_switches (by rwa [asked]) switches, asked]
  cases made' : c.endpoint.request token true with
  | ok second =>
    have asked' : c.ask budget token true = c.call budget second := ask_of_request made'
    obtain ⟨m, last, result⟩ := lastExecution_call within c second (c.call budget first n).network
    rw [asked']
    refine .inr ⟨second, m, ?_, ?_⟩
    · have follows : Follows n (requests ((c.call budget first n).events ++ [.log .warning
          ("Introspection endpoint " ++ c.endpoint.endpoint ++ " failed, using fallback: " ++ f.message)]))
          (c.call budget first n).network := by
        rw [requests_append]
        exact (List.append_nil _).symm ▸ tracks_call budget c first n
      have whole := last.behind follows
      rwa [List.append_assoc] at whole
    · rw [result]
      -- a request was made for the fallback, which therefore is not empty
      refine .same fun unaskable => ?_
      have empty : c.endpoint.asked true = some "" := unaskable.2
      obtain ⟨e, unmade, -⟩ := Endpoint.request_of_empty unaskable.1 empty token
      cases made'.symm.trans unmade
  | error e =>
    -- no execution follows, so the endpoint's own is the last one
    obtain ⟨m, last, result⟩ := lastExecution_call within c first n
    have unasked : c.ask budget token true = (return .error e) := by rw [ask, made']
    have unaskable : c.Unaskable := by
      obtain missing | ⟨get, empty⟩ := (Endpoint.request_eq_error_iff accepted token).1 ⟨e, made'⟩
      · have missing : c.endpoint.fallback = none := missing
        rw [missing] at given
        cases given
      · exact ⟨get, empty⟩
    rw [unasked]
    refine .inr ⟨first, m, last.append rfl, ?_⟩
    exact .unasked (result.symm.trans failed) allowed unaskable (Endpoint.kind_of_request accepted made')

theorem concluded_askBoth (accepted : Endpoint.ofFields fields = .ok c.endpoint) (budget : Option Budget)
    (token : String) (n : Network) :
    c.Concluded n (c.askBoth budget token n) (c.askBoth budget token n).result := by
  cases made : c.endpoint.request token false with
  | error e =>
    have unasked : c.ask budget token false = (return .error e) := by rw [ask, made]
    have stays (f : Failure) (failed : (c.ask budget token false n).result = .error f) :
        (f.kind.allowsFallback && c.endpoint.fallback.isSome) = false := by
      rw [unasked] at failed
      obtain rfl := Except.error.inj failed
      rw [Endpoint.kind_of_request accepted made]
      rfl
    rw [askBoth_stays stays, unasked]
    exact .inl rfl
  | ok first =>
    by_cases within : ∀ b, budget = some b → b.isExhausted = false
    · have asked : c.ask budget token false = c.call budget first := ask_of_request made
      by_cases switches : ∃ f, (c.call budget first n).result = .error f ∧
          (f.kind.allowsFallback && c.endpoint.fallback.isSome) = true
      · obtain ⟨f, failed, switches⟩ := switches
        exact concluded_switched accepted within made failed switches
      · have stays (f : Failure) (failed : (c.call budget first n).result = .error f) :
            (f.kind.allowsFallback && c.endpoint.fallback.isSome) = false := by
          rw [← Bool.not_eq_true]
          exact fun h => switches ⟨f, failed, h⟩
        obtain ⟨m, last, result⟩ := lastExecution_call within c first n
        rw [askBoth_stays (by rwa [asked]), asked]
        refine .inr ⟨first, m, last, ?_⟩
        rw [result]
        refine .same fun unaskable f failed => ?_
        have skipped := stays f (result.trans failed)
        rwa [unaskable.2, Option.isSome_some, Bool.and_true] at skipped
    · simp only [not_forall, Bool.not_eq_false] at within
      obtain ⟨b, rfl, exhausted⟩ := within
      exact .inl (blocks_exhausted made exhausted n).executed

theorem requests_of_signals {es : List Event} (signals : ∀ e ∈ es, e.IsSignal) : requests es = [] := by
  refine List.filterMap_eq_nil_iff.2 fun e member => ?_
  have signal := signals e member
  cases e with
  | request sent => cases signal
  | _ => rfl

theorem events_introspectWithin {given : GivenToken} (encoded : given.accept = .ok token)
    (c : Client) (budget : Option Budget) (n : Network) :
    ∃ front back, (c.introspectWithin budget given n).events =
      front ++ (c.askBoth budget token n).events ++ back ∧ requests front = [] ∧ executions back = [] := by
  obtain ⟨-, front, back, before, behind, events⟩ := events_of_accepted (c := c) encoded budget n
  refine ⟨front, _, events, requests_of_signals before, ?_⟩
  rw [executions_append, executions_of_signals behind, executions_note (isNote_outcomeRecord ..)]
  rfl

theorem concluded_introspectWithin (accepted : Endpoint.ofFields fields = .ok c.endpoint)
    (budget : Option Budget) (given : GivenToken) (n : Network) :
    ∃ outcome, (c.introspectWithin budget given n).result = outcome.mapError leaving ∧
      c.Concluded n (c.introspectWithin budget given n) outcome := by
  cases encoded : given.accept with
  | error f =>
    exact ⟨.error f, (events_of_refused encoded budget n).1, .inl (executions_of_refused encoded budget n)⟩
  | ok token =>
    obtain ⟨executed, result⟩ := introspectWithin_of_accepted (c := c) encoded budget n
    refine ⟨_, result, ?_⟩
    obtain ⟨front, back, whole, silent, idle⟩ := events_introspectWithin encoded c budget n
    obtain none | ⟨r, m, last, concludes⟩ := concluded_askBoth accepted budget token n
    · exact .inl (executed.trans none)
    · refine .inr ⟨r, m, ?_, concludes⟩
      rw [whole]
      exact (last.behind (silent.symm ▸ follows_refl n)).append idle

/-! ### Failures that leave a call -/

theorem isIntrospection_leaving (f : Failure) : (leaving f).kind.isIntrospection = true := by
  unfold leaving
  split
  next own => exact own
  next => rfl

theorem isIntrospection_of_isTokenInfo {k : Kind} (h : k.isTokenInfo = true) : k.isIntrospection = true := by
  cases k <;> first | rfl | cases h

theorem leaving_of_own {f : Failure} (own : f.kind.isIntrospection = true) : leaving f = f := by
  rw [leaving, if_pos own]

def LastFails (c : Client) (n : Network) (events : List Event) (fault : Fault) : Prop :=
  ∃ r m, c.LastExecution n events r m ∧ c.FailsBy r m fault

/-- What is known of a failure that leaves a call, by what the last execution of the call failed by. -/
structure Accounted (c : Client) (n : Network) (events : List Event) (f : Failure) : Prop where
  own : f.kind.isIntrospection = true
  expected : ∀ fault, c.LastFails n events fault → fault.Expected →
    (f.kind.isTokenInfo = true ↔ ¬ (c.Unaskable ∧ ¬ fault.BlamesRequest))
  unexpected : ∀ fault name, c.LastFails n events fault → ¬ fault.Expected →
    fault.raised? = some (.foreign name) → f.kind = .introspection ∧ f.cause = some (.foreign name)
  traced : ∀ x g, (executions events).getLast? = some x → x.outcome = .error g →
    ∃ fault, c.LastFails n events fault

variable {run : Step (Except Failure TokenInfo)} {outcome : Except Failure TokenInfo} {fault : Fault}
  {f : Failure}

theorem Concluded.of_lastFails {run : Step α} (h : c.Concluded n run outcome)
    (last : c.LastFails n run.events fault) :
    ∃ g, fault.Becomes g ∧ c.Concludes (.error g) outcome := by
  obtain ⟨r, m, last, fails⟩ := last
  obtain ⟨g, failed, becomes⟩ := becomes_of_failsBy fails
  have executed := last.last
  obtain none | ⟨r', m', last', concludes⟩ := h
  · rw [none] at executed
    cases executed
  · have same := congrArg Execution.outcome (Option.some.inj (last'.last.symm.trans executed))
    rw [outcome_executed, outcome_executed, failed] at same
    exact ⟨g, becomes, same ▸ concludes⟩

theorem Concluded.traced {run : Step α} (h : c.Concluded n run outcome) {x : Execution} {g : Failure}
    (last : (executions run.events).getLast? = some x) (failed : x.outcome = .error g) :
    ∃ fault, c.LastFails n run.events fault := by
  obtain none | ⟨r, m, last', -⟩ := h
  · rw [none] at last
    cases last
  · obtain rfl := Option.some.inj (last'.last.symm.trans last)
    have failed : (c.execute r m).result = .error g := failed
    obtain ⟨fault, fails⟩ := failsBy_iff.2 ⟨g, failed⟩
    exact ⟨fault, r, m, last', fails⟩

theorem Concluded.accounted {run : Step α} {e : Failure} (h : c.Concluded n run (.error e)) :
    c.Accounted n run.events (leaving e) := by
  refine ⟨isIntrospection_leaving e, fun fault last expected => ?_, fun fault name last other raised => ?_,
    fun x g last failed => h.traced last failed⟩
  · obtain ⟨g, becomes, concludes⟩ := h.of_lastFails last
    obtain ⟨tokenInfo, allows⟩ := becomes.expected expected
    cases concludes with
    | same stays =>
      rw [leaving_of_own (isIntrospection_of_isTokenInfo tokenInfo)]
      refine iff_of_true tokenInfo fun skipped => ?_
      have blocked := stays skipped.1 e rfl
      rw [allows.2 skipped.2] at blocked
      cases blocked
    | unasked failed allowed unaskable blamed =>
      obtain rfl := Except.error.inj failed
      rw [leaving_of_own (by rw [blamed]; rfl), blamed]
      exact iff_of_false Bool.false_ne_true fun h => h ⟨unaskable, allows.1 allowed⟩
  · obtain ⟨g, becomes, concludes⟩ := h.of_lastFails last
    have kind : Kind.foreign name = g.kind := Option.some.inj (raised.symm.trans (becomes.unexpected other))
    cases concludes with
    | same stays =>
      have foreign : e.kind.isIntrospection ≠ true := by rw [← kind]; exact Bool.false_ne_true
      rw [leaving, if_neg foreign, ← kind]
      exact ⟨rfl, rfl⟩
    | unasked failed allowed =>
      obtain rfl := Except.error.inj failed
      rw [← kind] at allowed
      cases allowed

theorem Concluded.not_lastFails {run : Step α} {t : TokenInfo} (h : c.Concluded n run (.ok t)) :
    ¬ c.LastFails n run.events fault := by
  intro last
  obtain ⟨g, -, concludes⟩ := h.of_lastFails last
  cases concludes

theorem accounted_of_silent {events : List Event} (own : f.kind.isIntrospection = true)
    (silent : executions events = []) : c.Accounted n events f := by
  have none (fault : Fault) : ¬ c.LastFails n events fault := by
    rintro ⟨r, m, last, -⟩
    have some := last.last
    rw [silent] at some
    cases some
  refine ⟨own, fun fault last => absurd last (none fault), fun fault _ last => absurd last (none fault),
    fun x g last _ => ?_⟩
  rw [silent] at last
  cases last

theorem accounted_introspectWithin (accepted : Endpoint.ofFields fields = .ok c.endpoint) {given : GivenToken}
    (failed : (c.introspectWithin budget given n).result = .error f) :
    c.Accounted n (c.introspectWithin budget given n).events f := by
  obtain ⟨outcome, same, concluded⟩ := concluded_introspectWithin accepted budget given n
  rw [failed] at same
  cases outcome with
  | ok t => cases same
  | error e =>
    obtain rfl := Except.error.inj same
    exact concluded.accounted

theorem accounted_of_introspectWithin_ok (accepted : Endpoint.ofFields fields = .ok c.endpoint)
    {given : GivenToken} {t : TokenInfo} (brought : (c.introspectWithin budget given n).result = .ok t)
    (own : f.kind.isIntrospection = true) : c.Accounted n (c.introspectWithin budget given n).events f := by
  obtain ⟨outcome, same, concluded⟩ := concluded_introspectWithin accepted budget given n
  rw [brought] at same
  obtain rfl := mapError_eq_ok_iff.1 same.symm
  exact ⟨own, fun fault last => absurd last concluded.not_lastFails,
    fun fault _ last => absurd last concluded.not_lastFails, fun x g last failed => concluded.traced last failed⟩

/-- An empty fallback puts the blame on the set-up, and hides by what the endpoint failed. -/
theorem blamed_of_unaskable (unaskable : c.Unaskable) {given : GivenToken}
    (encoded : given.accept = .ok token) (made : c.endpoint.request token false = .ok r)
    (fails : c.FailsBy r n fault) (expected : fault.Expected) (blameless : ¬ fault.BlamesRequest) :
    c.LastFails n (c.introspectWithin none given n).events fault ∧
      ∃ e, (c.introspectWithin none given n).result = .error e ∧ e.kind = .initialization := by
  obtain ⟨g, failed, becomes⟩ := becomes_of_failsBy fails
  have allowed : g.kind.allowsFallback = true := (becomes.expected expected).2.2 blameless
  have asked : c.ask none token false = c.execute r := ask_of_request made
  have empty : c.endpoint.asked true = some "" := unaskable.2
  obtain ⟨e, unmade, kind⟩ := Endpoint.request_of_empty unaskable.1 empty token
  have unasked : c.ask none token true = (return .error e) := by rw [ask, unmade]
  have switches : (g.kind.allowsFallback && c.endpoint.fallback.isSome) = true := by
    rw [allowed, unaskable.2]
    rfl
  have first : (c.ask none token false n).result = .error g := by
    rw [asked]
    exact failed
  have both := askBoth_switches first switches
  rw [asked, unasked] at both
  obtain ⟨front, back, whole, silent, idle⟩ := events_introspectWithin encoded c none n
  have last : c.LastExecution n (c.askBoth none token n).events r n := by
    rw [both]
    exact (lastExecution_execute c r n).append rfl
  refine ⟨⟨r, n, ?_, fails⟩, e, ?_, kind⟩
  · rw [whole]
    exact (last.behind (silent.symm ▸ follows_refl n)).append idle
  · rw [(introspectWithin_of_accepted encoded none n).2, both]
    exact congrArg Except.error (leaving_of_own (by rw [kind]; rfl))

end Client

/-! ### Sessions -/

namespace Session

variable {s : Session} {n : Network} {fields : Json.Members} {f : Failure} {token : GivenToken}
  {budget : Option Budget}

theorem introspect_cases (s : Session) (token : GivenToken) (budget : Option Budget) :
    (∃ b, s.introspect token budget = s.client.introspectWithin b token) ∨
      s.introspect token budget = (return .error closedRefusal) := by
  unfold introspect
  cases s.mode with
  | background =>
    cases s.closed with
    | true => exact .inr rfl
    | false => exact .inl ⟨_, rfl⟩
  | _ => exact .inl ⟨none, rfl⟩

theorem accounted_introspect (accepted : Endpoint.ofFields fields = .ok s.client.endpoint)
    (failed : (s.introspect token budget n).result = .error f) :
    s.client.Accounted n (s.introspect token budget n).events f := by
  obtain ⟨b, same⟩ | refused := s.introspect_cases token budget
  · rw [same] at failed ⊢
    exact Client.accounted_introspectWithin accepted failed
  · rw [refused] at failed ⊢
    obtain rfl := Except.error.inj failed
    exact Client.accounted_of_silent rfl rfl

theorem accounted_of_introspect_ok (accepted : Endpoint.ofFields fields = .ok s.client.endpoint)
    {t : TokenInfo} (brought : (s.introspect token budget n).result = .ok t)
    (own : f.kind.isIntrospection = true) : s.client.Accounted n (s.introspect token budget n).events f := by
  obtain ⟨b, same⟩ | refused := s.introspect_cases token budget
  · rw [same] at brought ⊢
    exact Client.accounted_of_introspectWithin_ok accepted brought own
  · rw [refused] at brought
    cases brought

theorem kind_of_toUser {t : TokenInfo} (h : t.toUser = .error f) : f.kind = .notAUser := by
  unfold TokenInfo.toUser at h
  split at h
  · obtain rfl := Except.error.inj h
    rfl
  · split at h
    · obtain rfl := Except.error.inj h
      rfl
    · cases h

theorem accounted_userOf (accepted : Endpoint.ofFields fields = .ok s.client.endpoint)
    (failed : (Client.userOf (s.introspect token budget) n).result = .error f) :
    s.client.Accounted n (Client.userOf (s.introspect token budget) n).events f := by
  unfold Client.userOf at failed ⊢
  rw [Action.bind_apply] at failed ⊢
  dsimp only at failed ⊢
  cases came : (s.introspect token budget n).result with
  | ok t =>
    rw [came] at failed
    have kind : f.kind = .notAUser := kind_of_toUser failed
    dsimp only
    rw [Action.pure_apply, List.append_nil]
    exact accounted_of_introspect_ok accepted came (by rw [kind]; rfl)
  | error e =>
    rw [came] at failed
    obtain rfl := Except.error.inj failed
    dsimp only
    rw [Action.pure_apply, List.append_nil]
    exact accounted_introspect accepted came

def OwnOutcomes (s : Session) : Prop :=
  ∀ name f, (name, .error f) ∈ s.outcomes → f.kind.isIntrospection = true

theorem ownOutcomes_run (accepted : Endpoint.ofFields fields = .ok s.client.endpoint) (own : s.OwnOutcomes)
    (call : Call) (n : Network) : (s.run call n).result.1.OwnOutcomes := by
  have closed : (s.close n).result.OwnOutcomes := by
    obtain ⟨_, _, left⟩ := s.result_close n
    rw [left]
    exact own
  cases call with
  | submit token budget name =>
    show (s.submit token budget name n).result.1.OwnOutcomes
    unfold submit
    split
    · exact own
    · intro name' f member
      rcases List.mem_cons.1 member with same | member
      · obtain ⟨-, failed⟩ := Prod.mk.inj same
        exact (Client.accounted_introspectWithin accepted failed.symm).own
      · exact own name' f member
  | close => exact closed
  | scope => exact closed
  | _ => exact own

theorem client_runAll (s : Session) (calls : List Call) (n : Network) :
    (s.runAll calls n).result.client = s.client := by
  induction calls generalizing s n with
  | nil => rfl
  | cons call calls ih =>
    show (Session.runAll _ calls _).result.client = s.client
    rw [ih, client_run]

theorem ownOutcomes_runAll (accepted : Endpoint.ofFields fields = .ok s.client.endpoint) (own : s.OwnOutcomes)
    (calls : List Call) (n : Network) : (s.runAll calls n).result.OwnOutcomes := by
  induction calls generalizing s n with
  | nil => exact own
  | cons call calls ih =>
    refine ih ?_ (ownOutcomes_run accepted own call n) _
    rw [client_run]
    exact accepted

theorem own_outcome (own : s.OwnOutcomes) {name : String} (known : name ∈ s.outcomes.map Prod.fst)
    (failed : s.outcome name = .error f) : f.kind.isIntrospection = true := by
  unfold outcome at failed
  cases found : s.outcomes.lookup name with
  | none =>
    obtain ⟨entry, member, rfl⟩ := List.mem_map.1 known
    have missing := List.lookup_eq_none_iff.1 found entry member
    simp at missing
  | some result =>
    rw [found, Option.getD_some] at failed
    obtain ⟨front, back, whole, -⟩ := List.lookup_eq_some_iff.1 found
    apply own name f
    rw [whole, failed]
    exact List.mem_append_right _ List.mem_cons_self

theorem accounted_run (accepted : Endpoint.ofFields fields = .ok s.client.endpoint) (own : s.OwnOutcomes)
    {call : Call} (known : ∀ name, call = .result name → name ∈ s.outcomes.map Prod.fst)
    (failed : (s.run call n).result.2 = .error f) : s.client.Accounted n (s.run call n).events f := by
  cases call with
  | introspect token budget =>
    show s.client.Accounted n ((s.introspect token budget n).events ++ []) f
    rw [List.append_nil]
    exact accounted_introspect accepted (map_eq_error_iff.1 failed)
  | introspectWithRetry token budget =>
    show s.client.Accounted n ((s.client.introspectWithRetry token budget n).events ++ []) f
    rw [List.append_nil]
    exact Client.accounted_introspectWithin accepted (map_eq_error_iff.1 failed)
  | getUser token budget =>
    show s.client.Accounted n ((Client.userOf (s.introspect token budget) n).events ++ []) f
    rw [List.append_nil]
    exact accounted_userOf accepted (map_eq_error_iff.1 failed)
  | submit token budget name =>
    have submitted : (s.submit token budget name n).result.2 = .error f := failed
    show s.client.Accounted n (s.submit token budget name n).events f
    unfold submit at submitted ⊢
    cases closed : s.closed with
    | true =>
      rw [closed] at submitted
      obtain rfl := Except.error.inj submitted
      exact Client.accounted_of_silent rfl rfl
    | false =>
      rw [closed] at submitted
      cases submitted
  | result name =>
    have failed := map_eq_error_iff.1 failed
    exact Client.accounted_of_silent (own_outcome own (known name rfl) failed) rfl
  | close => cases failed
  | state => cases failed
  | scope => cases failed

theorem accounted_submit (accepted : Endpoint.ofFields fields = .ok s.client.endpoint) {name : String}
    {s' : Session} (submitted : (s.run (.submit token budget name) n).result = (s', .ok .submitted))
    (failed : s'.outcome name = .error f) :
    s.client.Accounted n (s.run (.submit token budget name) n).events f := by
  have submitted : (s.submit token budget name n).result = (s', .ok .submitted) := submitted
  show s.client.Accounted n (s.submit token budget name n).events f
  unfold submit at submitted ⊢
  cases closed : s.closed with
  | true =>
    rw [closed] at submitted
    cases submitted
  | false =>
    rw [closed] at submitted
    obtain ⟨rfl, -⟩ := Prod.mk.inj submitted
    have failed : (s.client.introspectWithRetry token budget n).result = .error f := by
      simpa [outcome] using failed
    show s.client.Accounted n ((s.client.introspectWithRetry token budget n).events ++ []) f
    rw [List.append_nil]
    exact Client.accounted_introspectWithin accepted failed

/-- Whatever was called before, every failure that a call raises, or the future that it makes, is one of the
library. It is a failure of the introspection if the last execution failed by what was foreseen, unless
the fallback is empty and the set-up is blamed; any other exception is its cause. -/
theorem failures_accounted (accepted : Endpoint.ofFields fields = .ok s.client.endpoint)
    (fresh : s.outcomes = []) (calls : List Call) (n : Network) :
    let t := (s.runAll calls n).result
    let m := (s.runAll calls n).network
    (∀ call f, (∀ name, call = .result name → name ∈ t.outcomes.map Prod.fst) →
      (t.run call m).result.2 = .error f → s.client.Accounted m (t.run call m).events f) ∧
    ∀ token budget name t' f, (t.run (.submit token budget name) m).result = (t', .ok .submitted) →
      t'.outcome name = .error f →
        s.client.Accounted m (t.run (.submit token budget name) m).events f := by
  intro t m
  have client : t.client = s.client := client_runAll s calls n
  have own : t.OwnOutcomes := by
    apply ownOutcomes_runAll accepted
    intro name f member
    rw [fresh] at member
    cases member
  rw [← client] at accepted ⊢
  exact ⟨fun call f known failed => accounted_run accepted own known failed,
    fun token budget name t' f submitted failed => accounted_submit accepted submitted failed⟩

/-- The parser raises an exception of its own, which a background client reports as the cause. -/
theorem failures_accounted_foreign :
    let client : Client := {
      endpoint := { endpoint := "https://a.example/i", method := .post }
      parser := Parser.failing (.raised (.foreign "ValueError") "no")
      budget := .whole 1 }
    let s : Session := { mode := .background, client }
    let n : Network := { servers := [("a.example", ⟨⟨.zero, .ok { status := 200 }⟩, []⟩)] }
    let run := s.run (.introspect "t" none) n
    let f : Failure := {
      kind := .introspection
      message := "Unexpected error during token introspection: no"
      cause := some (.foreign "ValueError") }
    run.result.2 = .error f ∧ client.Accounted n run.events f ∧ ∃ fault, client.LastFails n run.events fault := by
  intro client s n run f
  have accepted : Endpoint.ofFields [("endpoint", .str "https://a.example/i"), ("method", .str "POST")] =
      .ok s.client.endpoint := by decide +kernel
  have failed : run.result.2 = .error f := by decide +kernel
  have accounted : client.Accounted n run.events f :=
    (failures_accounted accepted rfl [] n).1 (.introspect "t" none) f (fun name same => by cases same)
      failed
  have executed : (executions run.events).getLast?.map (·.outcome) =
      some (.error (.raised (.foreign "ValueError") "no")) := by decide +kernel
  obtain ⟨x, last, outcome⟩ := Option.map_eq_some_iff.1 executed
  exact ⟨failed, accounted, accounted.traced x _ last outcome⟩

def misguided : Session where
  mode := .blocking
  client := {
    endpoint := { endpoint := "https://a.example/i", queryParameter := some "q", fallback := some "" }
    parser := FieldParser.planB.toParser 1000
    budget := .whole 1 }

def misguidedRequest : Request where
  method := .get
  url := "https://a.example/i?q=t"
  endpoint := "https://a.example/i"

def outOfOrder : Network where
  servers := [("a.example", ⟨⟨.zero, .ok { status := 500 }⟩, []⟩)]

theorem failsBy_misguided : misguided.client.FailsBy misguidedRequest outOfOrder (.status 500) := by
  have leads : (Url.read misguidedRequest.url.toList).map (·.rooted.readableHost) =
      .ok (.ok "a.example".toList) := by decide +kernel
  have found : outOfOrder.servers.lookup (String.ofList "a.example".toList) =
      some ⟨⟨.zero, .ok { status := 500 }⟩, []⟩ := by
    rw [String.ofList_toList]
    rfl
  obtain ⟨url, read, readable⟩ := map_eq_ok_iff.1 leads
  have readable : (misguidedRequest.send url.rooted).url.readableHost = .ok "a.example".toList := readable
  have replied := replyTo_alone readable found []
  have stays : ({ status := 500 } : Answer).redirect? = none := by decide +kernel
  have fits : ({ status := 500 } : Answer).Fits misguided.client.maxResponseBytes := by
    refine ⟨fun size declared => ?_, .inl rfl⟩
    cases declared
  have got : misguidedRequest.Gets url.rooted outOfOrder (.ok { status := 500 }) := ⟨by rw [read]; rfl, replied⟩
  exact .status got (by rw [Answer.redirectError?, stays]; rfl) rfl fits (by decide)

/-- The endpoint fails with status 500, and its empty fallback makes that a failure of the set-up. -/
theorem not_every_failure_of_introspection :
    ¬ ∀ (s : Session) (fields : Json.Members) (token : GivenToken) (n : Network) (f : Failure) (fault : Fault),
      Endpoint.ofFields fields = .ok s.client.endpoint → s.outcomes = [] →
      (s.run (.introspect token none) n).result.2 = .error f →
      s.client.LastFails n (s.run (.introspect token none) n).events fault → fault.Expected →
      f.kind.isTokenInfo = true := by
  intro always
  have accepted : Endpoint.ofFields [("endpoint", .str "https://a.example/i"), ("query_parameter", .str "q"),
      ("fallback_endpoint", .str "")] = .ok misguided.client.endpoint := by decide +kernel
  have normalized : GivenToken.accept "t" = .ok "t" := by decide +kernel
  have made : misguided.client.endpoint.request "t" false = .ok misguidedRequest := by decide +kernel
  have blameless : ¬ (Fault.status 500).BlamesRequest := by
    rintro ⟨-, -, below⟩
    exact absurd below (by decide)
  obtain ⟨last, e, failed, kind⟩ :=
    Client.blamed_of_unaskable ⟨rfl, rfl⟩ normalized made failsBy_misguided trivial blameless
  have events : (misguided.run (.introspect "t" none) outOfOrder).events =
      (misguided.client.introspectWithin none "t" outOfOrder).events := List.append_nil _
  have raised : (misguided.run (.introspect "t" none) outOfOrder).result.2 = .error e := by
    show (misguided.client.introspectWithin none "t" outOfOrder).result.map Reported.info = _
    rw [failed]
    rfl
  have tokenInfo := always misguided _ "t" outOfOrder e (.status 500) accepted rfl raised
    (events ▸ last) trivial
  rw [kind] at tokenInfo
  cases tokenInfo

end Session

end Bearer
