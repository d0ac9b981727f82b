import Mathlib.Data.List.Forall2
import Bearer.Proofs.Call
import Bearer.Proofs.Except

/-!
Two runs side by side. A `Likeness` says when two networks are alike to those who look at the clock only,
and which events may stand for each other. Actions that are alike in every such pair of networks stay so in
a row (`pairs_bind`); hence clients whose executions are alike make alike calls, with retries and with
the fallback (`pairs_introspectWithin`), and so do sessions (`pairs_runAll`).
-/

namespace Bearer

/-- Lists with the same names in the same places have alike entries of one name. -/
theorem lookup_alike {R : α → β → Prop} {xs : List (String × α)} {ys : List (String × β)}
    (h : List.Forall₂ (fun x y => x.1 = y.1 ∧ R x.2 y.2) xs ys) (name : String) :
    Option.Rel R (xs.lookup name) (ys.lookup name) := by
  induction h with
  | nil => exact .none
  | @cons x y _ _ alike _ ih =>
    rw [List.lookup_cons, List.lookup_cons, ← alike.1]
    cases name == x.1 with
    | true => exact .some alike.2
    | false => exact ih

/-- How two runs compare: the networks that they meet and the events that they leave. -/
structure Likeness where
  network : Network → Network → Prop
  events : List Event → List Event → Prop
  times : ∀ {n m : Network}, network n m → n.clock = m.clock ∧ n.epoch = m.epoch ∧ n.jitter = m.jitter
  pass : ∀ {n m : Network}, network n m → ∀ seconds,
    network { n with clock := n.clock + seconds } { m with clock := m.clock + seconds }
  nil : events [] []
  append : ∀ {es es' fs fs' : List Event}, events es es' → events fs fs' → events (es ++ fs) (es' ++ fs')
  note : ∀ {e : Event}, e.IsNote → events [e] [e]

namespace Likeness

structure Steps (K : Likeness) (V : α → β → Prop) (s : Step α) (t : Step β) : Prop where
  result : V s.result t.result
  events : K.events s.events t.events
  network : K.network s.network t.network

/-- Wherever two actions run in alike networks, their results are in the relation `V` and the rest is
alike. -/
def Pairs (K : Likeness) (V : α → β → Prop) (a : Action α) (b : Action β) : Prop :=
  ∀ n m, K.network n m → K.Steps V (a n) (b m)

variable {K : Likeness}

/-! ### Actions -/

theorem pairs_pure {V : α → β → Prop} {x : α} {y : β} (h : V x y) :
    K.Pairs V (pure x : Action α) (pure y) := fun _ _ met => ⟨h, K.nil, met⟩

theorem pairs_bind {V : α → β → Prop} {W : γ → δ → Prop} {a : Action α} {b : Action β}
    {f : α → Action γ} {g : β → Action δ} (first : K.Pairs V a b)
    (later : ∀ x y, V x y → K.Pairs W (f x) (g y)) : K.Pairs W (a >>= f) (b >>= g) := by
  intro n m met
  obtain ⟨result, events, network⟩ := first n m met
  obtain ⟨result', events', network'⟩ := later _ _ result _ _ network
  exact ⟨result', K.append events events', network'⟩

theorem Pairs.mono {V W : α → β → Prop} {a : Action α} {b : Action β} (h : K.Pairs V a b)
    (weaker : ∀ x y, V x y → W x y) : K.Pairs W a b := by
  intro n m met
  obtain ⟨result, events, network⟩ := h n m met
  exact ⟨weaker _ _ result, events, network⟩

theorem pairs_clock : K.Pairs Eq Action.clock Action.clock := fun _ _ met => ⟨(K.times met).1, K.nil, met⟩

theorem pairs_timeOfDay : K.Pairs Eq Action.timeOfDay Action.timeOfDay := by
  intro n m met
  obtain ⟨clock, epoch, -⟩ := K.times met
  refine ⟨?_, K.nil, met⟩
  show n.epoch + n.clock = m.epoch + m.clock
  rw [clock, epoch]

theorem pairs_jitter : K.Pairs Eq Action.jitter Action.jitter := fun _ _ met => ⟨(K.times met).2.2, K.nil, met⟩

theorem pairs_emit {e e' : Event} (h : K.events [e] [e']) : K.Pairs Eq (Action.emit e) (Action.emit e') :=
  fun _ _ met => ⟨rfl, h, met⟩

theorem pairs_note {e : Event} (note : e.IsNote) : K.Pairs Eq (Action.emit e) (Action.emit e) :=
  pairs_emit (K.note note)

theorem pairs_log (level : Level) (message : String) :
    K.Pairs Eq (Action.log level message) (Action.log level message) := pairs_note trivial

theorem pairs_recorded {V : α → β → Prop} {a : Action α} {b : Action β} (h : K.Pairs V a b) :
    K.Pairs (fun x y => V x.1 y.1 ∧ K.events x.2 y.2) a.recorded b.recorded := by
  intro n m met
  obtain ⟨result, events, network⟩ := h n m met
  exact ⟨⟨result, events⟩, events, network⟩

theorem pairs_wait (seconds : Double) : K.Pairs Eq (Action.wait seconds) (Action.wait seconds) :=
  pairs_bind (pairs_note (e := .wait seconds) trivial) fun _ _ _ _ _ met => ⟨rfl, K.nil, K.pass met seconds⟩

theorem pairs_tell (listening : Bool) (s : Signal) :
    K.Pairs Eq (Action.tell listening s) (Action.tell listening s) := by
  cases listening with
  | false => exact pairs_pure rfl
  | true =>
    apply pairs_bind pairs_clock
    rintro now _ rfl
    exact pairs_note trivial

/-! ### The retry loop -/

section

variable {T : α → β → Prop} {body : Nat → Action (Except Failure α)} {body' : Nat → Action (Except Failure β)}
  (h : ∀ k, K.Pairs (OutcomeAlike T) (body k) (body' k))
include h

theorem pairs_attemptFrom (p : RetryPolicy) (budget : Budget) (started : Double) (left k : Nat) :
    K.Pairs (OutcomeAlike T) (p.attemptFrom budget body started left k)
      (p.attemptFrom budget body' started left k) := by
  have announced (k : Nat) (now : Double) : K.Pairs Eq (Action.emit (.attempt k now (p.plainWait k)))
      (Action.emit (.attempt k now (p.plainWait k))) := pairs_note trivial
  induction left generalizing k with
  | zero =>
    apply pairs_bind pairs_clock
    rintro now _ rfl
    exact pairs_bind (announced k now) fun _ _ _ => h k
  | succ left ih =>
    apply pairs_bind pairs_clock
    rintro now _ rfl
    apply pairs_bind (announced k now)
    intro _ _ _
    apply pairs_bind (h k)
    rintro _ _ (⟨alike⟩ | f)
    · exact pairs_pure (.ok alike)
    · apply pairs_bind pairs_clock
      rintro now _ rfl
      dsimp only
      split
      · exact pairs_pure (.error f)
      · apply pairs_bind (pairs_log _ _)
        intro _ _ _
        apply pairs_bind pairs_jitter
        rintro share _ rfl
        exact pairs_bind (pairs_wait _) fun _ _ _ => ih (k + 1)

theorem pairs_retrying (p : RetryPolicy) (budget : Budget) :
    K.Pairs (OutcomeAlike T) (p.retrying budget body) (p.retrying budget body') := by
  unfold RetryPolicy.retrying
  split
  · exact pairs_pure (.error _)
  · apply pairs_bind pairs_clock
    rintro started _ rfl
    exact pairs_attemptFrom h p budget started _ _

end

/-! ### Executions -/

theorem pairs_report (endpoint : String) (e : ExchangeError) :
    K.Pairs Eq (e.report endpoint) (e.report endpoint) := by
  cases e with
  | notSent f => exact pairs_log _ _
  | _ => exact pairs_pure rfl

section

variable {P : Response → Response → Prop} {limit limit' : Int} {r r' : Request}

theorem pairs_exchangeWith {url url' : Url} (host : url'.readableHost = url.readableHost)
    (sent : K.events [.request (r.send url)] [.request (r'.send url')])
    (asked : ∀ host, K.Pairs
      (fun reply reply' => OutcomeAlike P (received limit r url host reply) (received limit' r' url' host reply'))
      (Action.ask host) (Action.ask host)) :
    K.Pairs (OutcomeAlike P) (exchangeWith limit r url) (exchangeWith limit' r' url') := by
  unfold exchangeWith
  apply pairs_bind (pairs_emit sent)
  intro _ _ _
  rw [host]
  cases url.readableHost with
  | error e => exact pairs_pure (.error _)
  | ok name => exact pairs_bind (asked _) fun reply reply' alike => pairs_pure alike

/-- Two URLs that lead to one host, to which two requests are sent alike and get alike replies. -/
structure Places (K : Likeness) (P : Response → Response → Prop) (limit limit' : Int) (r r' : Request)
    (url url' : Url) : Prop where
  host : url'.readableHost = url.readableHost
  sent : K.events [.request (r.send url)] [.request (r'.send url')]
  asked : ∀ host, K.Pairs
    (fun reply reply' => OutcomeAlike P (received limit r url host reply) (received limit' r' url' host reply'))
    (Action.ask host) (Action.ask host)

/-- Requests that read alike, lead to one host and get alike replies are exchanged alike. -/
theorem pairs_exchange (endpoint : r'.endpoint = r.endpoint)
    (read : OutcomeAlike (fun url url' => K.Places P limit limit' r r' url.rooted url'.rooted)
      (Url.read r.url.toList) (Url.read r'.url.toList)) :
    K.Pairs (OutcomeAlike P) (exchange limit r) (exchange limit' r') := by
  unfold exchange
  rw [endpoint]
  generalize Url.read r.url.toList = first, Url.read r'.url.toList = second at read ⊢
  cases read with
  | error e => exact pairs_pure (.error _)
  | ok alike =>
    apply pairs_bind (pairs_exchangeWith alike.host alike.sent alike.asked)
    rintro _ _ (⟨alike⟩ | e)
    · exact pairs_pure (.ok alike)
    · exact pairs_bind (pairs_report _ e) fun _ _ _ => pairs_pure (.error _)

end

/-! ### Clients -/

structure Clients (K : Likeness) (T : TokenInfo → TokenInfo → Prop) (c c' : Client) : Prop where
  policy : c'.policy = c.policy
  budget : c'.budget = c.budget
  endpoint : c'.endpoint.endpoint = c.endpoint.endpoint
  fallback : c'.endpoint.fallback.isSome = c.endpoint.fallback.isSome
  told : ∀ s, K.Pairs Eq (Action.tell c.listening s) (Action.tell c'.listening s)
  active : ∀ t t', T t t' → t'.active = t.active

structure Names (K : Likeness) (a b : String) : Prop where
  logged : ∀ active, K.events
    [.log .debug ("Introspected token " ++ a ++ ": active=" ++ boolText active)]
    [.log .debug ("Introspected token " ++ b ++ ": active=" ++ boolText active)]
  spanned : ∀ span : Span, K.events [.span { span with fingerprint := some a }]
    [.span { span with fingerprint := some b }]

theorem names_refl (a : String) : K.Names a a := ⟨fun _ => K.note trivial, fun _ => K.note trivial⟩

/-- Two tokens for which two clients make alike requests. -/
def Asked (K : Likeness) (T : TokenInfo → TokenInfo → Prop) (c c' : Client) (token token' : String) : Prop :=
  ∀ fallback, OutcomeAlike
    (fun r r' => r'.endpoint = r.endpoint ∧ K.Pairs (OutcomeAlike T) (c.execute r) (c'.execute r'))
    (c.endpoint.request token fallback) (c'.endpoint.request token' fallback)

/-- What is given to two clients as tokens: nothing that is one, or tokens that are asked about alike. Traces that
show them along with alike events may stand for each other. -/
structure Tokens (K : Likeness) (T : TokenInfo → TokenInfo → Prop) (c c' : Client) (given given' : GivenToken) :
    Prop where
  accepted : OutcomeAlike (fun token token' =>
    K.Names (Token.fingerprint c.salt token) (Token.fingerprint c'.salt token') ∧ K.Asked T c c' token token')
    given.accept given'.accept
  traced : ∀ f es es', K.events es es' → K.events [Client.failureRecord f (given.shown ++ Trace.shownBy es)]
    [Client.failureRecord f (given'.shown ++ Trace.shownBy es')]

structure Executions (P : Response → Response → Prop) (T : TokenInfo → TokenInfo → Prop) (r r' : Request)
    (x y : Execution) : Prop where
  request : x.request = r
  request' : y.request = r'
  response : Option.Rel P x.response y.response
  outcome : OutcomeAlike T x.outcome y.outcome

variable {T : TokenInfo → TokenInfo → Prop} {c c' : Client} {token token' : String}
  {given given' : GivenToken}

/-- Alike exchanges, whose responses are read alike, make alike executions. -/
theorem pairs_execute {P : Response → Response → Prop} {r r' : Request}
    (told : ∀ s, K.Pairs Eq (Action.tell c.listening s) (Action.tell c'.listening s))
    (exchanged : K.Pairs (OutcomeAlike P) (exchange c.maxResponseBytes r) (exchange c'.maxResponseBytes r'))
    (parsed : ∀ response response', P response response' → ∀ now,
      OutcomeAlike T (response.tokenInfo c.parser now) (response'.tokenInfo c'.parser now))
    (executed : ∀ x y, Executions P T r r' x y → K.events [.execution x] [.execution y]) :
    K.Pairs (OutcomeAlike T) (c.execute r) (c'.execute r') := by
  have performed : K.Pairs (Executions P T r r') (c.perform r) (c'.perform r') := by
    apply pairs_bind pairs_clock
    rintro started _ rfl
    apply pairs_bind (told _)
    intro _ _ _
    rw [c.fetch_eq, c'.fetch_eq]
    apply pairs_bind exchanged
    rintro _ _ (@⟨response, response', alike⟩ | f)
    · apply pairs_bind (told _)
      intro _ _ _
      apply pairs_bind pairs_timeOfDay
      rintro now _ rfl
      exact pairs_pure ⟨rfl, rfl, .some alike, parsed _ _ alike now⟩
    · refine pairs_bind (V := Eq) ?_ fun _ _ _ => pairs_pure ⟨rfl, rfl, .none, .error f⟩
      cases f.kind.isTokenInfo with
      | true =>
        rw [Bool.and_true, Bool.and_true]
        exact told _
      | false =>
        rw [Bool.and_false, Bool.and_false]
        exact pairs_pure rfl
  exact pairs_bind performed fun x y alike => pairs_bind (pairs_emit (executed x y alike)) fun _ _ _ =>
    pairs_pure alike.outcome

theorem pairs_attempt {r r' : Request} (endpoint : r'.endpoint = r.endpoint)
    (h : K.Pairs (OutcomeAlike T) (c.execute r) (c'.execute r')) (k : Nat) :
    K.Pairs (OutcomeAlike T) (c.attempt r k) (c'.attempt r' k) := by
  apply pairs_bind h
  rintro _ _ (⟨alike⟩ | f)
  · exact pairs_pure (.ok alike)
  · refine pairs_bind (V := Eq) ?_ fun _ _ _ => pairs_pure (.error f)
    unfold Client.reportAttempt
    rw [endpoint]
    split
    · exact pairs_log _ _
    · exact pairs_pure rfl

theorem pairs_reportFailure {f : Failure} {shown shown' : List String}
    (traced : K.events [Client.failureRecord f shown] [Client.failureRecord f shown']) :
    K.Pairs Eq (Client.reportFailure f shown) (Client.reportFailure f shown') := by
  rw [Client.reportFailure_eq, Client.reportFailure_eq]
  exact pairs_emit traced

section

variable (clients : K.Clients T c c')
include clients

theorem pairs_call {r r' : Request} (endpoint : r'.endpoint = r.endpoint)
    (h : K.Pairs (OutcomeAlike T) (c.execute r) (c'.execute r')) (budget : Option Budget) :
    K.Pairs (OutcomeAlike T) (c.call budget r) (c'.call budget r') := by
  cases budget with
  | none => exact h
  | some b =>
    unfold Client.call
    rw [clients.policy]
    exact pairs_retrying (pairs_attempt endpoint h) c.policy b

theorem pairs_ask (asked : K.Asked T c c' token token') (budget : Option Budget) (fallback : Bool) :
    K.Pairs (OutcomeAlike T) (c.ask budget token fallback) (c'.ask budget token' fallback) := by
  have made := asked fallback
  unfold Client.ask
  generalize c.endpoint.request token fallback = first, c'.endpoint.request token' fallback = second at made ⊢
  cases made with
  | error f => exact pairs_pure (.error f)
  | ok alike => exact pairs_call clients alike.1 alike.2 budget

theorem pairs_askBoth (asked : K.Asked T c c' token token') (budget : Option Budget) :
    K.Pairs (OutcomeAlike T) (c.askBoth budget token) (c'.askBoth budget token') := by
  apply pairs_bind (pairs_ask clients asked budget false)
  rintro _ _ (⟨alike⟩ | f)
  · exact pairs_pure (.ok alike)
  · dsimp only
    rw [clients.fallback, clients.endpoint]
    split
    · exact pairs_bind (pairs_log _ _) fun _ _ _ => pairs_ask clients asked budget true
    · exact pairs_pure (.error f)

theorem pairs_fail {span span' : Span} {f : Failure} {shown shown' : List String}
    (spanned : K.events [.span (span.fail f (Client.leaving f))] [.span (span'.fail f (Client.leaving f))])
    (traced : K.events [Client.failureRecord f shown] [Client.failureRecord f shown']) (started : Double) :
    K.Pairs (OutcomeAlike T) (c.fail started span f shown) (c'.fail started span' f shown') := by
  apply pairs_bind (clients.told _)
  intro _ _ _
  apply pairs_bind (pairs_reportFailure traced)
  intro _ _ _
  exact pairs_bind (pairs_emit spanned) fun _ _ _ => pairs_pure (OutcomeAlike.error _)

theorem pairs_succeed {a b : String} (names : K.Names a b) {t t' : TokenInfo} (alike : T t t')
    (started : Double) : K.Pairs (OutcomeAlike T)
      (c.succeed started { endpoint := some c.endpoint.endpoint, fingerprint := some a } a t)
      (c'.succeed started { endpoint := some c'.endpoint.endpoint, fingerprint := some b } b t') := by
  unfold Client.succeed
  rw [clients.endpoint, clients.active t t' alike]
  apply pairs_bind (clients.told _)
  intro _ _ _
  apply pairs_bind (pairs_emit (names.logged t.active))
  intro _ _ _
  have spanned := names.spanned { endpoint := some c.endpoint.endpoint, active := some t.active }
  exact pairs_bind (pairs_emit spanned) fun _ _ _ => pairs_pure (OutcomeAlike.ok alike)

theorem pairs_introspectWithin (tokens : K.Tokens T c c' given given') (budget : Option Budget) :
    K.Pairs (OutcomeAlike T) (c.introspectWithin budget given) (c'.introspectWithin budget given') := by
  obtain ⟨accepted, traced⟩ := tokens
  apply pairs_bind pairs_clock
  rintro started _ rfl
  apply pairs_bind (clients.told _)
  intro _ _ _
  apply pairs_bind (clients.told _)
  intro _ _ _
  generalize given.accept = first, given'.accept = second at accepted ⊢
  cases accepted with
  | error f =>
    have refused := traced f [] [] K.nil
    rw [show Trace.shownBy [] = [] from rfl, List.append_nil, List.append_nil] at refused
    exact pairs_fail clients (K.note trivial) refused started
  | ok alike =>
    obtain ⟨names, asked⟩ := alike
    apply pairs_bind (pairs_recorded (pairs_askBoth clients asked budget))
    rintro ⟨_, es⟩ ⟨_, es'⟩ ⟨@⟨t, t', alike⟩ | f, events⟩
    · exact pairs_succeed clients names alike started
    · unfold Client.conclude
      dsimp only
      rw [clients.endpoint]
      exact pairs_fail clients (names.spanned (Span.fail { endpoint := _ } f (Client.leaving f)))
        (traced f es es' events) started

end

end Likeness

/-! ### Sessions -/

inductive Call.Alike (A : GivenToken → GivenToken → Prop) : Call → Call → Prop
  | introspect {t t' : GivenToken} (alike : A t t') (budget : Option Budget) :
    Alike A (.introspect t budget) (.introspect t' budget)
  | introspectWithRetry {t t' : GivenToken} (alike : A t t') (budget : Option Budget) :
    Alike A (.introspectWithRetry t budget) (.introspectWithRetry t' budget)
  | getUser {t t' : GivenToken} (alike : A t t') (budget : Option Budget) :
    Alike A (.getUser t budget) (.getUser t' budget)
  | submit {t t' : GivenToken} (alike : A t t') (budget : Option Budget) (name : String) :
    Alike A (.submit t budget name) (.submit t' budget name)
  | result (name : String) : Alike A (.result name) (.result name)
  | close : Alike A .close .close
  | state : Alike A .state .state
  | scope : Alike A .scope .scope

theorem Call.alike_refl {A : GivenToken → GivenToken → Prop} (refl : ∀ t, A t t) (call : Call) :
    Call.Alike A call call := by
  cases call <;> constructor <;> exact refl _

theorem Call.Alike.mono {A B : GivenToken → GivenToken → Prop} {call call' : Call}
    (h : Call.Alike A call call') (weaker : ∀ t t', A t t' → B t t') : Call.Alike B call call' := by
  cases h with
  | introspect alike budget => exact .introspect (weaker _ _ alike) budget
  | introspectWithRetry alike budget => exact .introspectWithRetry (weaker _ _ alike) budget
  | getUser alike budget => exact .getUser (weaker _ _ alike) budget
  | submit alike budget name => exact .submit (weaker _ _ alike) budget name
  | result name => exact .result name
  | close => exact .close
  | state => exact .state
  | scope => exact .scope

inductive Reported.Alike (T : TokenInfo → TokenInfo → Prop) (U : User → User → Prop) : Reported → Reported → Prop
  | info {t t' : TokenInfo} (alike : T t t') : Alike T U (.info t) (.info t')
  | user {u u' : User} (alike : U u u') : Alike T U (.user u) (.user u')
  | submitted : Alike T U .submitted .submitted
  | closed (closed : Bool) : Alike T U (.closed closed) (.closed closed)
  | left : Alike T U .left .left

theorem reportedAlike_eq {x y : Reported} : Reported.Alike Eq Eq x y ↔ x = y := by
  constructor
  · rintro (⟨rfl⟩ | ⟨rfl⟩ | _ | _ | _) <;> rfl
  · rintro rfl
    cases x <;> constructor <;> rfl

/-- Two sessions of clients in the same state, but for the token information that they keep. -/
structure Session.Alike (T : TokenInfo → TokenInfo → Prop) (c c' : Client) (s s' : Session) : Prop where
  client : s.client = c
  client' : s'.client = c'
  mode : s'.mode = .background ↔ s.mode = .background
  closed : s'.closed = s.closed
  outcomes : List.Forall₂ (fun x y => x.1 = y.1 ∧ OutcomeAlike T x.2 y.2) s.outcomes s'.outcomes

namespace Likeness

variable {K : Likeness} {T : TokenInfo → TokenInfo → Prop} {U : User → User → Prop} {c c' : Client}
  {s s' : Session} {given given' : GivenToken}

theorem outcome_alike (sessions : Session.Alike T c c' s s') (name : String) :
    OutcomeAlike T (s.outcome name) (s'.outcome name) := by
  have found := lookup_alike sessions.outcomes name
  unfold Session.outcome
  generalize s.outcomes.lookup name = x, s'.outcomes.lookup name = y at found ⊢
  cases found with
  | none => exact .error _
  | some alike => exact alike

section

variable (clients : K.Clients T c c') (sessions : Session.Alike T c c' s s')
include sessions

theorem alike_asked : Session.Alike T c c' s.asked s'.asked :=
  ⟨sessions.client, sessions.client', sessions.mode, sessions.closed, sessions.outcomes⟩

theorem pairs_close : K.Pairs (Session.Alike T c c') s.close s'.close := by
  have modes : (s'.mode = .background) = (s.mode = .background) := propext sessions.mode
  have left (closed : Bool) (x y : Connection) : Session.Alike T c c'
      { s with closed, connection := x } { s' with closed, connection := y } :=
    ⟨sessions.client, sessions.client', sessions.mode, rfl, sessions.outcomes⟩
  unfold Session.close
  simp only [modes, sessions.closed]
  split
  · split
    · exact pairs_pure sessions
    · exact pairs_bind (pairs_log _ _) fun _ _ _ => pairs_pure (left true _ _)
  · exact pairs_pure (left s.closed _ _)

include clients

theorem pairs_introspect (tokens : K.Tokens T c c' given given') (budget : Option Budget) :
    K.Pairs (OutcomeAlike T) (s.introspect given budget) (s'.introspect given' budget) := by
  have asks (b : Option Budget) : K.Pairs (OutcomeAlike T) (s.client.introspectWithin b given)
      (s'.client.introspectWithin b given') := by
    rw [sessions.client, sessions.client']
    exact pairs_introspectWithin clients tokens b
  have alone (t : Session) (token : GivenToken) : t.introspect token budget =
      if t.mode = .background then
        if t.closed then return .error Session.closedRefusal else t.client.introspectWithRetry token budget
      else t.client.introspect token := by
    unfold Session.introspect
    cases t.mode with
    | background => rw [if_pos rfl]
    | _ => exact (if_neg (by decide)).symm
  rw [alone, alone, sessions.closed]
  by_cases background : s.mode = .background
  · rw [if_pos background, if_pos (sessions.mode.2 background)]
    split
    · exact pairs_pure (.error _)
    · have budgets : s'.client.budget = s.client.budget := by
        rw [sessions.client, sessions.client', clients.budget]
      unfold Client.introspectWithRetry
      rw [budgets]
      exact asks _
  · rw [if_neg background, if_neg (mt sessions.mode.1 background)]
    exact asks none

theorem pairs_introspectWithRetry (tokens : K.Tokens T c c' given given') (budget : Option Budget) :
    K.Pairs (OutcomeAlike T) (s.client.introspectWithRetry given budget)
      (s'.client.introspectWithRetry given' budget) := by
  rw [sessions.client, sessions.client']
  unfold Client.introspectWithRetry
  rw [clients.budget]
  exact pairs_introspectWithin clients tokens _

theorem pairs_submit (tokens : K.Tokens T c c' given given') (budget : Option Budget) (name : String) :
    K.Pairs (fun x y => Session.Alike T c c' x.1 y.1 ∧ OutcomeAlike (Reported.Alike T U) x.2 y.2)
      (s.submit given budget name) (s'.submit given' budget name) := by
  unfold Session.submit
  rw [sessions.closed]
  split
  · exact pairs_pure ⟨sessions, .error _⟩
  · refine pairs_bind (pairs_introspectWithRetry clients sessions tokens budget) fun x y alike =>
      pairs_pure ⟨?_, .ok .submitted⟩
    exact ⟨sessions.client, sessions.client', sessions.mode, rfl, .cons ⟨rfl, alike⟩ sessions.outcomes⟩

/-- Alike calls of alike sessions bring alike results and leave alike sessions. -/
theorem pairs_run (users : ∀ t t', T t t' → OutcomeAlike U t.toUser t'.toUser) {call call' : Call}
    (calls : Call.Alike (K.Tokens T c c') call call') :
    K.Pairs (fun x y => Session.Alike T c c' x.1 y.1 ∧ OutcomeAlike (Reported.Alike T U) x.2 y.2)
      (s.run call) (s'.run call') := by
  cases calls with
  | introspect tokens budget =>
    refine pairs_bind (pairs_introspect clients sessions tokens budget) fun x y alike => ?_
    exact pairs_pure ⟨alike_asked sessions, alike.map fun _ _ => .info⟩
  | introspectWithRetry tokens budget =>
    refine pairs_bind (pairs_introspectWithRetry clients sessions tokens budget) fun x y alike => ?_
    exact pairs_pure ⟨sessions, alike.map fun _ _ => .info⟩
  | getUser tokens budget =>
    refine pairs_bind (V := OutcomeAlike U) ?_ fun x y alike =>
      pairs_pure ⟨alike_asked sessions, alike.map fun _ _ => .user⟩
    apply pairs_bind (pairs_introspect clients sessions tokens budget)
    rintro _ _ (⟨alike⟩ | f)
    · exact pairs_pure (users _ _ alike)
    · exact pairs_pure (.error f)
  | submit tokens budget name => exact pairs_submit clients sessions tokens budget name
  | result name => exact pairs_pure ⟨sessions, (outcome_alike sessions name).map fun _ _ => .info⟩
  | close =>
    refine pairs_bind (pairs_close sessions) fun t t' alike => pairs_pure ⟨alike, ?_⟩
    rw [alike.closed]
    exact .ok (.closed _)
  | state =>
    refine pairs_pure ⟨sessions, ?_⟩
    rw [sessions.closed]
    exact .ok (.closed _)
  | scope => exact pairs_bind (pairs_close sessions) fun t t' alike => pairs_pure ⟨alike, .ok .left⟩

end

theorem pairs_runAll (clients : K.Clients T c c')
    (users : ∀ t t', T t t' → OutcomeAlike U t.toUser t'.toUser) {calls calls' : List Call}
    (alike : List.Forall₂ (Call.Alike (K.Tokens T c c')) calls calls')
    (sessions : Session.Alike T c c' s s') :
    K.Pairs (Session.Alike T c c') (s.runAll calls) (s'.runAll calls') := by
  induction alike generalizing s s' with
  | nil => exact pairs_pure sessions
  | cons first _ ih =>
    exact pairs_bind (pairs_run clients sessions users first) fun _ _ after => ih after.1

end Likeness

/-! ### Event by event -/

/-- The same event, but for what is sent, for the token information in executions, for a fingerprint where a
call names its token by it, and for what a trace shows. -/
inductive Event.Alike (S : Sent → Sent → Prop) (T : TokenInfo → TokenInfo → Prop) (a b : String) :
    Event → Event → Prop
  | note {e : Event} (note : e.IsNote) : Alike S T a b e e
  | request {x y : Sent} (alike : S x y) : Alike S T a b (.request x) (.request y)
  | execution {x y : Execution} (alike : OutcomeAlike T x.outcome y.outcome) :
    Alike S T a b (.execution x) (.execution y)
  | logged (active : Bool) : Alike S T a b
      (.log .debug ("Introspected token " ++ a ++ ": active=" ++ boolText active))
      (.log .debug ("Introspected token " ++ b ++ ": active=" ++ boolText active))
  | spanned (span : Span) : Alike S T a b (.span { span with fingerprint := some a })
      (.span { span with fingerprint := some b })
  | traced (level : Level) (message : String) (met : Failure) (shown shown' : List String) : Alike S T a b
      (.log level message (some ⟨met, shown⟩)) (.log level message (some ⟨met, shown'⟩))

theorem Event.alike_failureRecord {S : Sent → Sent → Prop} {T : TokenInfo → TokenInfo → Prop} {a b : String}
    (f : Failure) (shown shown' : List String) :
    Alike S T a b (Client.failureRecord f shown) (Client.failureRecord f shown') := by
  unfold Client.failureRecord
  split
  · exact .note trivial
  · exact .traced _ _ f shown shown'

namespace Likeness

def eventwise (network : Network → Network → Prop)
    (times : ∀ {n m : Network}, network n m → n.clock = m.clock ∧ n.epoch = m.epoch ∧ n.jitter = m.jitter)
    (pass : ∀ {n m : Network}, network n m → ∀ seconds,
      network { n with clock := n.clock + seconds } { m with clock := m.clock + seconds })
    (S : Sent → Sent → Prop) (T : TokenInfo → TokenInfo → Prop) (a b : String) : Likeness where
  network := network
  events := List.Forall₂ (Event.Alike S T a b)
  times := times
  pass := pass
  nil := .nil
  append h h' := List.rel_append h h'
  note note := .cons (.note note) .nil

end Likeness

end Bearer
