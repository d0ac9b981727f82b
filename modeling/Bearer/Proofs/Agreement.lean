import Bearer.Proofs.Lifecycle
import Bearer.Proofs.Likeness
import Bearer.Proofs.Retry.Loop

/-!
The modes of a client agree. A metrics collector only listens: if what it is told is left out, a client
that has one goes on as a client that has none, event by event (`quiet`). So a blocking and an async client
look the same call by call to those who see everything else, and to submit a token and to ask for its
outcome is to introspect it with retries.
-/

namespace Bearer

/-! ### What is seen of a call -/

def logs (events : List Event) : List (Level × String × Option Trace) :=
  events.filterMap fun
    | .log level message trace => some (level, message, trace)
    | _ => none

def spans (events : List Event) : List Span :=
  events.filterMap fun
    | .span s => some s
    | _ => none

structure Observation where
  outcome : Except Failure Reported
  requests : List Sent
  waits : List Double
  logs : List (Level × String × Option Trace)
  spans : List Span
  /-- The time at the end. -/
  clock : Double

def Step.observation (step : Step (Session × Except Failure Reported)) : Observation where
  outcome := step.result.2
  requests := Bearer.requests step.events
  waits := Bearer.waits step.events
  logs := Bearer.logs step.events
  spans := Bearer.spans step.events
  clock := step.network.clock

abbrev Command := Session → Action (Session × Except Failure Reported)

namespace Session

def performing (call : Call) : Command := fun s => s.run call

def performingBoth (first second : Call) : Command := fun s => do
  let (s, _) ← s.run first
  s.run second

def observe (s : Session) : List Command → Network → List Observation
  | [], _ => []
  | command :: commands, n =>
    let step := command s n
    step.observation :: step.result.1.observe commands step.network

end Session

/-! ### Without the collector -/

/-- Events but for what a metrics collector is told. -/
def unsignalled (events : List Event) : List Event :=
  events.filter fun
    | .signal .. => false
    | _ => true

@[simp] theorem unsignalled_append (es fs : List Event) :
    unsignalled (es ++ fs) = unsignalled es ++ unsignalled fs := List.filter_append ..

theorem unsignalled_append_congr {es es' fs fs' : List Event} (before : unsignalled es = unsignalled es')
    (after : unsignalled fs = unsignalled fs') : unsignalled (es ++ fs) = unsignalled (es' ++ fs') := by
  rw [unsignalled_append, unsignalled_append, before, after]

theorem filterMap_unsignalled {f : Event → Option β} (deaf : ∀ s time, f (.signal s time) = none)
    (events : List Event) : (unsignalled events).filterMap f = events.filterMap f := by
  unfold unsignalled
  rw [List.filterMap_filter]
  congr 1
  funext e
  cases e with
  | signal s time => exact (deaf s time).symm
  | _ => rfl

theorem filterMap_congr {es fs : List Event} {f : Event → Option β}
    (deaf : ∀ s time, f (.signal s time) = none) (same : unsignalled es = unsignalled fs) :
    es.filterMap f = fs.filterMap f := by
  rw [← filterMap_unsignalled deaf, same, filterMap_unsignalled deaf]

/-- Steps that only a collector tells apart are seen alike. -/
theorem observation_congr {x y : Step (Session × Except Failure Reported)} (result : x.result.2 = y.result.2)
    (events : unsignalled x.events = unsignalled y.events) (network : x.network = y.network) :
    x.observation = y.observation := by
  have sent : requests x.events = requests y.events := filterMap_congr (fun _ _ => rfl) events
  have waited : waits x.events = waits y.events := filterMap_congr (fun _ _ => rfl) events
  have logged : logs x.events = logs y.events := filterMap_congr (fun _ _ => rfl) events
  have spanned : spans x.events = spans y.events := filterMap_congr (fun _ _ => rfl) events
  unfold Step.observation
  rw [result, sent, waited, logged, spanned, network]

namespace Likeness

theorem times_of_eq {n m : Network} (met : n = m) :
    n.clock = m.clock ∧ n.epoch = m.epoch ∧ n.jitter = m.jitter := by
  rw [met]
  exact ⟨rfl, rfl, rfl⟩

theorem pass_of_eq {n m : Network} (met : n = m) (seconds : Double) :
    { n with clock := n.clock + seconds } = { m with clock := m.clock + seconds } := by rw [met]

/-- The likeness of runs in one network of which a collector may hear. -/
def quiet : Likeness where
  network := Eq
  events es fs := unsignalled es = unsignalled fs
  times := times_of_eq
  pass := pass_of_eq
  nil := rfl
  append := unsignalled_append_congr
  note _ := rfl

theorem quiet_self {V : α → α → Prop} (refl : ∀ x, V x x) (a : Action α) : quiet.Pairs V a a := by
  rintro n _ rfl
  exact ⟨refl _, rfl, rfl⟩

theorem quiet_tell (heard heard' : Bool) (s : Signal) :
    quiet.Pairs Eq (Action.tell heard s) (Action.tell heard' s) := by
  rintro n _ rfl
  cases heard <;> cases heard' <;> exact ⟨rfl, rfl, rfl⟩

variable (c : Client) (heard heard' awaits awaits' : Bool)

theorem quiet_clients : quiet.Clients Eq { c with listening := heard, awaits }
    { c with listening := heard', awaits := awaits' } where
  policy := rfl
  budget := rfl
  endpoint := rfl
  fallback := rfl
  told := quiet_tell heard heard'
  active := by
    rintro t _ rfl
    rfl

/-- Both exchange alike, although one of them awaits it. -/
theorem quiet_execute (r : Request) : quiet.Pairs (OutcomeAlike Eq)
    ({ c with listening := heard, awaits }.execute r)
    ({ c with listening := heard', awaits := awaits' }.execute r) := by
  refine pairs_execute (P := Eq) (quiet_tell heard heard')
    (quiet_self (outcomeAlike_refl fun _ => rfl) _) ?_ ?_
  · rintro response _ rfl now
    exact outcomeAlike_refl (fun _ => rfl) _
  · rintro ⟨_, response, outcome⟩ ⟨_, response', outcome'⟩ ⟨rfl, rfl, responses, outcomes⟩
    obtain rfl : outcome = outcome' := outcomeAlike_eq.1 outcomes
    obtain rfl : response = response' := by
      cases responses with
      | some same => exact congrArg some same
      | none => rfl
    rfl

theorem quiet_tokens (raw : GivenToken) : quiet.Tokens Eq { c with listening := heard, awaits }
    { c with listening := heard', awaits := awaits' } raw raw where
  accepted := by
    refine outcomeAlike_refl (fun token => ⟨names_refl _, fun fallback => ?_⟩) _
    exact outcomeAlike_refl (fun r => ⟨rfl, quiet_execute c heard heard' awaits awaits' r⟩) _
  traced f es es' same := by
    have deaf (es : List Event) : Trace.shownBy (unsignalled es) = Trace.shownBy es :=
      Trace.shownBy_filter (fun _ => rfl) (fun _ => rfl) es
    have shown : Trace.shownBy es = Trace.shownBy es' := by rw [← deaf es, same, deaf es']
    rw [shown]
    rfl

end Likeness

/-! ### Blocking and async -/

/-- A client in a mode; whether a collector listens and exchanges are awaited are matters of the mode. -/
def Client.session (c : Client) (mode : Mode) : Session where
  mode := mode
  client := { c with listening := mode.listens, awaits := mode.awaits }

namespace Session

variable {c : Client} {s s' : Session} {heard heard' awaits awaits' : Bool}

/-- One call: alike sessions of a client are seen doing the same, and stay alike. -/
theorem observation_run (sessions : Session.Alike Eq { c with listening := heard, awaits }
    { c with listening := heard', awaits := awaits' } s s') (call : Call) (n : Network) :
    (s.run call n).observation = (s'.run call n).observation ∧
      (s.run call n).network = (s'.run call n).network ∧
      Session.Alike Eq { c with listening := heard, awaits } { c with listening := heard', awaits := awaits' }
        (s.run call n).result.1 (s'.run call n).result.1 := by
  have same : Call.Alike (Likeness.quiet.Tokens Eq { c with listening := heard, awaits }
      { c with listening := heard', awaits := awaits' }) call call :=
    Call.alike_refl (Likeness.quiet_tokens c heard heard' awaits awaits') call
  have users : ∀ t t' : TokenInfo, t = t' → OutcomeAlike Eq t.toUser t'.toUser := by
    rintro t _ rfl
    exact outcomeAlike_refl (fun _ => rfl) _
  obtain ⟨⟨after, reported⟩, events, network⟩ :=
    Likeness.pairs_run (Likeness.quiet_clients c heard heard' awaits awaits') sessions users same n n rfl
  have outcome : (s.run call n).result.2 = (s'.run call n).result.2 :=
    outcomeAlike_eq.1 (reported.strengthen fun _ _ _ _ => reportedAlike_eq.1)
  exact ⟨observation_congr outcome events network, network, after⟩

/-- Any calls: the same is seen of alike sessions, call by call. -/
theorem observe_alike (sessions : Session.Alike Eq { c with listening := heard, awaits }
    { c with listening := heard', awaits := awaits' } s s') (calls : List Call) (n : Network) :
    s.observe (calls.map performing) n = s'.observe (calls.map performing) n := by
  induction calls generalizing s s' n with
  | nil => rfl
  | cons call calls ih =>
    obtain ⟨seen, network, after⟩ := observation_run sessions call n
    refine congrArg₂ List.cons seen ((ih after _).trans ?_)
    exact congrArg ((s'.run call n).result.1.observe (calls.map performing)) network

/-! ### Background and async -/

/-- One token: it is seen alike whether it is submitted to an open client or introspected with retries. -/
theorem observation_submitted {t : Session} (opened : t.closed = false) (client : t.client = s.client)
    (token : GivenToken) (budget : Option Budget) (name : String) (n : Network) :
    let submitted := performingBoth (.submit token budget name) (.result name) t n
    let introspected := performing (.introspectWithRetry token budget) s n
    submitted.observation = introspected.observation ∧ submitted.network = introspected.network ∧
      submitted.result.1.closed = false ∧ submitted.result.1.client = s.client ∧
      introspected.result.1 = s := by
  intro submitted introspected
  have both : submitted = (t.submit token budget name >>= fun (t, _) => t.run (.result name)) n := rfl
  rw [submit_of_open opened, client] at both
  have outcome : submitted.result.2 = introspected.result.2 := by
    rw [both]
    exact congrArg (Except.map Reported.info) (outcome_eq rfl)
  have events : submitted.events = introspected.events := by
    rw [both]
    exact List.append_nil _
  have network : submitted.network = introspected.network := by
    rw [both]
    rfl
  have after : submitted.result.1.closed = t.closed ∧ submitted.result.1.client = s.client := by
    rw [both]
    exact ⟨rfl, rfl⟩
  exact ⟨observation_congr outcome (congrArg unsignalled events) network, network, after.1.trans opened,
    after.2, rfl⟩

/-- Any tokens: the same is seen of an open client that they are submitted to, token by token. -/
theorem observe_submitted {t : Session} (opened : t.closed = false) (client : t.client = s.client)
    (asks : List (GivenToken × Option Budget × String)) (n : Network) :
    t.observe (asks.map fun (token, budget, name) =>
      performingBoth (.submit token budget name) (.result name)) n =
    s.observe (asks.map fun (token, budget, _) => performing (.introspectWithRetry token budget)) n := by
  induction asks generalizing t n with
  | nil => rfl
  | cons ask asks ih =>
    obtain ⟨token, budget, name⟩ := ask
    obtain ⟨seen, network, opened, client, same⟩ := observation_submitted opened client token budget name n
    refine congrArg₂ List.cons seen ((ih opened client _).trans ?_)
    rw [same, network]

end Session

/-- Call by call a blocking and an async client bring the same outcomes, send the same requests, wait and log
alike, leave the same spans and end at the same times. Tokens that are submitted to a background client, in
whatever order its threads come to them, are seen as those that an async client introspects with retries. -/
theorem Client.modes_agree (c : Client) (n : Network) :
    (∀ calls : List Call, (c.session .blocking).observe (calls.map Session.performing) n =
      (c.session .async).observe (calls.map Session.performing) n) ∧
    ∀ (pace : Nat → Pace) (asks : List (GivenToken × Option Budget × String)),
      { c.session .background with pace }.observe (asks.map fun (token, budget, name) =>
        Session.performingBoth (.submit token budget name) (.result name)) n =
      (c.session .async).observe (asks.map fun (token, budget, _) =>
        Session.performing (.introspectWithRetry token budget)) n := by
  have sessions : Session.Alike Eq { c with listening := false, awaits := false }
      { c with listening := true, awaits := true } (c.session .blocking) (c.session .async) :=
    ⟨rfl, rfl, ⟨nofun, nofun⟩, rfl, .nil⟩
  refine ⟨fun calls => Session.observe_alike sessions calls n, fun pace asks => ?_⟩
  have opened : { c.session .background with pace }.closed = false := rfl
  have client : { c.session .background with pace }.client = (c.session .async).client := rfl
  exact Session.observe_submitted opened client asks n

end Bearer
