import Mathlib.Logic.Function.Iterate
import Bearer.Session
import Bearer.Proofs.Exchange

/-!
Requests and replies. A client takes one reply from the script of a server for each request that
reaches it, so the place of a request among the events of a call tells which reply it got
(`tracks_exchange`). A property that is kept by actions in a row is a law; what a law says of every
exchange it says of whole calls and of sessions (`Action.CallLaw`).
-/

namespace Bearer

/-! ### Scripts -/

theorem get_advance (s : Script α) (k : Nat) : s.advance.get k = s.get (k + 1) := by
  obtain ⟨next, later⟩ := s
  cases later with
  | nil => cases k <;> simp [Script.advance, Script.get]
  | cons x xs => simp [Script.advance, Script.get, List.getLast?_cons]

theorem get_alone (x : α) (k : Nat) : (⟨x, []⟩ : Script α).get k = x := by
  cases k <;> simp [Script.get]

theorem get_iterate_advance (s : Script α) (k j : Nat) :
    (Script.advance^[k] s).get j = s.get (k + j) := by
  induction k generalizing s with
  | zero => simp
  | succ k ih => rw [Function.iterate_succ_apply, ih, get_advance, Nat.add_right_comm]

/-! ### Requests among events -/

def requests (events : List Event) : List Sent :=
  events.filterMap fun
    | .request sent => some sent
    | _ => none

@[simp] theorem requests_append (es fs : List Event) :
    requests (es ++ fs) = requests es ++ requests fs := List.filterMap_append

def Sent.reaches (host : String) (sent : Sent) : Bool :=
  match sent.url.readableHost with
  | .ok name => String.ofList name == host
  | .error _ => false

def timesAsked (host : String) (sent : List Sent) : Nat := sent.countP (·.reaches host)

@[simp] theorem timesAsked_append (host : String) (xs ys : List Sent) :
    timesAsked host (xs ++ ys) = timesAsked host xs + timesAsked host ys := List.countP_append

/-! ### Actions that keep account of replies -/

/-- `after` is what `before` becomes when each of the requests takes one reply. -/
structure Follows (before : Network) (sent : List Sent) (after : Network) : Prop where
  epoch : after.epoch = before.epoch
  servers : ∀ host, after.servers.lookup host =
    (before.servers.lookup host).map Script.advance^[timesAsked host sent]

theorem follows_refl (n : Network) : Follows n [] n :=
  ⟨rfl, fun host => by simp [timesAsked]⟩

theorem follows_trans {n₁ n₂ n₃ : Network} {xs ys : List Sent} (h₁ : Follows n₁ xs n₂)
    (h₂ : Follows n₂ ys n₃) : Follows n₁ (xs ++ ys) n₃ := by
  refine ⟨h₂.epoch.trans h₁.epoch, fun host => ?_⟩
  rw [h₂.servers, h₁.servers, Option.map_map, ← Function.iterate_add, timesAsked_append,
    Nat.add_comm]

/-- The replies of a server after some requests are its later ones from the beginning. -/
theorem get_of_follows {n m : Network} {sent : List Sent} {host : String} {script : Script Reply}
    (h : Follows n sent m) (found : m.servers.lookup host = some script) :
    ∃ first, n.servers.lookup host = some first ∧
      ∀ k, script.get k = first.get (timesAsked host sent + k) := by
  rw [h.servers] at found
  obtain ⟨first, hfirst, rfl⟩ := Option.map_eq_some_iff.1 found
  exact ⟨first, hfirst, get_iterate_advance first _⟩

/-! ### Laws of actions -/

def Event.IsNote : Event → Prop
  | .request _ | .execution _ => False
  | _ => True

/-- A property that actions in a row have if each of them has it, and which it takes more to break than
a look at the network or a note. -/
structure Action.Law where
  holds : ∀ {α : Type}, Action α → Prop
  bind : ∀ {α β : Type} {a : Action α} {f : α → Action β},
    holds a → (∀ x, holds (f x)) → holds (a >>= f)
  still : ∀ {α : Type} {a : Action α}, (∀ n, (a n).events = [] ∧ (a n).network = n) → holds a
  note : ∀ {e : Event}, e.IsNote → holds (Action.emit e)
  recorded : ∀ {α : Type} {a : Action α}, holds a → holds a.recorded

namespace Action.Law
variable (L : Action.Law)

theorem pure (x : α) : L.holds (Pure.pure x : Action α) := L.still fun _ => ⟨rfl, rfl⟩

theorem clock : L.holds Action.clock := L.still fun _ => ⟨rfl, rfl⟩

theorem timeOfDay : L.holds Action.timeOfDay := L.still fun _ => ⟨rfl, rfl⟩

theorem jitter : L.holds Action.jitter := L.still fun _ => ⟨rfl, rfl⟩

theorem log (level : Level) (message : String) (trace : Option Trace) :
    L.holds (Action.log level message trace) := L.note trivial

theorem tell (listening : Bool) (s : Signal) : L.holds (Action.tell listening s) := by
  cases listening with
  | false => exact L.pure ()
  | true => exact L.bind L.clock fun _ => L.note trivial

theorem report (endpoint : String) (e : ExchangeError) : L.holds (e.report endpoint) := by
  cases e with
  | notSent f => exact L.log _ _ none
  | _ => exact L.pure ()

theorem settle (c : Client) (r : Request) (started : Double) (outcome : Except Failure Response) :
    L.holds (c.settle r started outcome) := by
  cases outcome with
  | error f => exact L.bind (L.tell _ _) fun _ => L.pure _
  | ok response => exact L.bind (L.tell _ _) fun _ => L.bind L.timeOfDay fun _ => L.pure _

theorem perform {c : Client} {r : Request} (h : L.holds (exchange c.maxResponseBytes r)) :
    L.holds (c.perform r) := by
  apply L.bind L.clock
  intro started
  apply L.bind (L.tell _ _)
  intro _
  rw [c.fetch_eq]
  exact L.bind h fun outcome => L.settle c r started outcome

theorem reportAttempt (r : Request) (n : Nat) (f : Failure) : L.holds (Client.reportAttempt r n f) := by
  unfold Client.reportAttempt
  split
  · exact L.log _ _ none
  · exact L.pure _

theorem reportFailure (f : Failure) (shown : List String) : L.holds (Client.reportFailure f shown) := by
  unfold Client.reportFailure
  split <;> exact L.log _ _ _

theorem fail (c : Client) (started : Double) (span : Span) (f : Failure) (shown : List String) :
    L.holds (c.fail started span f shown) :=
  L.bind (L.tell _ _) fun _ => L.bind (L.reportFailure f shown) fun _ =>
    L.bind (L.note trivial) fun _ => L.pure _

theorem succeed (c : Client) (started : Double) (span : Span) (fingerprint : String) (t : TokenInfo) :
    L.holds (c.succeed started span fingerprint t) :=
  L.bind (L.tell _ _) fun _ => L.bind (L.log _ _ none) fun _ => L.bind (L.note trivial) fun _ => L.pure _

theorem conclude (c : Client) (started : Double) (given : GivenToken) (token : String)
    (asked : Except Failure TokenInfo × List Event) : L.holds (c.conclude started given token asked) := by
  obtain ⟨outcome, events⟩ := asked
  cases outcome with
  | ok t => exact L.succeed c _ _ _ t
  | error f => exact L.fail c _ _ f _

theorem close (s : Session) : L.holds s.close := by
  unfold Session.close
  split
  · split
    · exact L.pure _
    · exact L.bind (L.log _ _ none) fun _ => L.pure _
  · exact L.pure _

end Action.Law

/-! ### Events of actions -/

def Action.Emits (P : Event → Prop) (a : Action α) : Prop := ∀ n, ∀ e ∈ (a n).events, P e

section Emits
variable {P Q : Event → Prop} {a : Action α}

theorem emits_bind {f : α → Action β} (first : a.Emits P) (later : ∀ x, (f x).Emits P) :
    (a >>= f).Emits P := by
  intro n e member
  rw [Action.bind_apply] at member
  rcases List.mem_append.1 member with member | member
  · exact first n e member
  · exact later _ _ e member

theorem emits_silent (silent : ∀ n, (a n).events = []) : a.Emits P := by
  intro n e member
  rw [silent n] at member
  cases member

theorem emits_emit {e : Event} (h : P e) : (Action.emit e).Emits P := by
  intro n e' member
  obtain rfl := List.mem_singleton.1 member
  exact h

theorem emits_tell (listening : Bool) {s : Signal} (signalled : ∀ time, P (.signal s time)) :
    (Action.tell listening s).Emits P := by
  cases listening with
  | false => exact emits_silent fun _ => rfl
  | true => exact emits_bind (emits_silent fun _ => rfl) fun _ => emits_emit (signalled _)

theorem Action.Emits.mono (h : a.Emits P) (weaker : ∀ e, P e → Q e) : a.Emits Q :=
  fun n e member => weaker e (h n e member)

end Emits

/-! ### Actions that send nothing -/

/-- Wherever an action runs, it sends no request and takes no time. -/
def Action.Quiet (a : Action α) : Prop :=
  ∀ n, requests (a n).events = [] ∧ (a n).network = n

section Quiet
variable {a : Action α}

theorem quiet_bind {f : α → Action β} (ha : a.Quiet) (hf : ∀ x, (f x).Quiet) :
    (a >>= f).Quiet := by
  intro n
  simp [(ha n).1, (ha n).2, hf _ n]

theorem quiet_emit {e : Event} (h : requests [e] = []) : (Action.emit e).Quiet :=
  fun _ => ⟨h, rfl⟩

def quietness : Action.Law where
  holds := Action.Quiet
  bind := quiet_bind
  still h n := ⟨by rw [(h n).1]; rfl, (h n).2⟩
  note {e} note := quiet_emit (by cases e <;> first | rfl | cases note)
  recorded h := h

theorem network_of_tell (listening : Bool) (s : Signal) (n : Network) :
    (Action.tell listening s n).network = n := (quietness.tell listening s n).2

theorem quiet_pure (x : α) : (Pure.pure x : Action α).Quiet := quietness.pure x

theorem requests_bind_quiet {f : α → Action β} (h : ∀ x, (f x).Quiet) (n : Network) :
    requests ((a >>= f) n).events = requests (a n).events := by
  rw [Action.bind_apply, requests_append, (h _ _).1, List.append_nil]

end Quiet

/-! ### Actions that keep account of replies -/

def Action.Tracks (a : Action α) : Prop :=
  ∀ n, Follows n (requests (a n).events) (a n).network

section Tracks
variable {a : Action α}

theorem tracks_of_quiet (h : a.Quiet) : a.Tracks := by
  intro n
  rw [(h n).1, (h n).2]
  exact follows_refl n

theorem tracks_bind {f : α → Action β} (ha : a.Tracks) (hf : ∀ x, (f x).Tracks) :
    (a >>= f).Tracks := by
  intro n
  rw [Action.bind_apply, requests_append]
  exact follows_trans (ha n) (hf _ _)

theorem tracks_pure (x : α) : (Pure.pure x : Action α).Tracks := follows_refl

end Tracks

/-! ### Exchanges -/

theorem lookup_advance (servers : List (String × Script Reply)) (host other : String) :
    (servers.map fun (h, s) => if h = host then (h, s.advance) else (h, s)).lookup other =
      (servers.lookup other).map (if other = host then Script.advance else id) := by
  have pairwise : (fun (h, s) => if h = host then (h, s.advance) else (h, s)) =
      fun e : String × Script Reply => (e.1, if e.1 = host then e.2.advance else e.2) := by
    funext e
    by_cases asked : e.1 = host <;> simp [asked]
  rw [pairwise]
  induction servers with
  | nil => rfl
  | cons entry rest ih =>
    rw [List.map_cons, List.lookup_cons, List.lookup_cons]
    by_cases here : other = entry.1
    · by_cases asked : entry.1 = host <;> simp [here, asked]
    · simpa [beq_eq_false_iff_ne.2 here] using ih

@[simp] theorem events_ask (host : String) (n : Network) : (Action.ask host n).events = [] := by
  unfold Action.ask
  split <;> rfl

/-- A server that is asked gives one reply, and every other one keeps its script. -/
theorem follows_ask {n : Network} {sent : Sent} {host : String}
    (reached : ∀ h, sent.reaches h = (host == h)) :
    Follows n [sent] (Action.ask host n).network := by
  have servers (h : String) : (Action.ask host n).network.servers.lookup h =
      (n.servers.lookup h).map (if h = host then Script.advance else id) := by
    unfold Action.ask
    split
    next absent =>
      by_cases same : h = host
      · simp [same, absent]
      · simp [same]
    next => exact lookup_advance n.servers host h
  refine ⟨by unfold Action.ask; split <;> rfl, fun h => ?_⟩
  rw [servers h]
  by_cases same : h = host
  · simp [same, timesAsked, reached]
  · simp [same, timesAsked, reached, Ne.symm same]

/-- A request that no server is asked about takes no reply. -/
theorem follows_unreached {n : Network} {sent : Sent} (h : ∀ host, sent.reaches host = false) :
    Follows n [sent] n :=
  ⟨rfl, fun host => by simp [timesAsked, h]⟩

def Event.IsExchanged : Event → Prop
  | .request _ | .log _ _ none => True
  | _ => False

section

variable {P : Event → Prop} {r : Request} (requested : ∀ sent, P (.request sent))
include requested

theorem emits_exchangeWith (limit : Int) (url : Url) : (exchangeWith limit r url).Emits P := by
  have sent : (Action.emit (.request (r.send url))).Emits P := emits_emit (requested _)
  apply emits_bind sent
  intro _
  cases url.readableHost with
  | error e => exact emits_silent fun _ => rfl
  | ok host => exact emits_bind (emits_silent (events_ask _)) fun _ => emits_silent fun _ => rfl

theorem emits_exchange_of_report (reported : ∀ e : ExchangeError, (e.report r.endpoint).Emits P) (limit : Int) :
    (exchange limit r).Emits P := by
  unfold exchange
  cases Url.read r.url.toList with
  | error e => exact emits_silent fun _ => rfl
  | ok url =>
    apply emits_bind (emits_exchangeWith requested limit _)
    intro outcome
    cases outcome with
    | ok response => exact emits_silent fun _ => rfl
    | error e => exact emits_bind (reported e) fun _ => emits_silent fun _ => rfl

end

theorem emits_exchange (limit : Int) (r : Request) : (exchange limit r).Emits Event.IsExchanged := by
  refine emits_exchange_of_report (fun _ => trivial) (fun e => ?_) limit
  cases e with
  | notSent f => exact emits_emit trivial
  | _ => exact emits_silent fun _ => rfl

theorem emits_perform {P : Event → Prop} {c : Client} {r : Request} (signalled : ∀ s time, P (.signal s time))
    (exchanged : (exchange c.maxResponseBytes r).Emits P) : (c.perform r).Emits P := by
  refine emits_bind (a := Action.clock) (emits_silent fun _ => rfl) fun started => ?_
  refine emits_bind (emits_tell _ (signalled _)) fun _ => ?_
  rw [c.fetch_eq]
  refine emits_bind exchanged fun outcome => ?_
  cases outcome with
  | error f => exact emits_bind (emits_tell _ (signalled _)) fun _ => emits_silent fun _ => rfl
  | ok response =>
    refine emits_bind (emits_tell _ (signalled _)) fun _ => ?_
    exact emits_bind (emits_silent fun _ => rfl) fun _ => emits_silent fun _ => rfl

theorem tracks_exchangeWith (limit : Int) (r : Request) (url : Url) :
    (exchangeWith limit r url).Tracks := by
  intro n
  unfold exchangeWith
  cases hh : url.readableHost with
  | error e => exact follows_unreached fun host => by simp [Sent.reaches, Request.send, hh]
  | ok name =>
    have answered : Follows n [r.send url] (Action.ask (String.ofList name) n).network :=
      follows_ask fun h => by simp [Sent.reaches, Request.send, hh]
    simpa [Action.emit, requests, events_ask] using answered

theorem requests_exchangeWith (limit : Int) (r : Request) (url : Url) (n : Network) :
    requests (exchangeWith limit r url n).events = [r.send url] := by
  unfold exchangeWith
  cases url.readableHost with
  | error e => rfl
  | ok name => simp [Action.emit, requests]

/-- An exchange sends its request once, if its URL can be read. -/
theorem requests_exchange_of_read {r : Request} {url : Url} (read : Url.read r.url.toList = .ok url) (limit : Int)
    (n : Network) : requests (exchange limit r n).events = [r.send url.rooted] := by
  unfold exchange
  rw [read]
  dsimp only
  rw [requests_bind_quiet, requests_exchangeWith]
  intro outcome
  cases outcome with
  | ok response => exact quiet_pure _
  | error e => exact quiet_bind (quietness.report _ _) fun _ => quiet_pure _

/-- What an exchange sends goes to where its URL leads. -/
theorem requests_exchange {limit : Int} {r : Request} {n : Network} {sent : Sent}
    (member : sent ∈ requests (exchange limit r n).events) :
    ∃ url, Url.read r.url.toList = .ok url ∧ sent = r.send url.rooted := by
  cases read : Url.read r.url.toList with
  | error e =>
    unfold exchange at member
    rw [read] at member
    cases member
  | ok url =>
    rw [requests_exchange_of_read read, List.mem_singleton] at member
    exact ⟨url, rfl, member⟩

theorem tracks_exchange (limit : Int) (r : Request) : (exchange limit r).Tracks := by
  unfold exchange
  split
  · exact tracks_pure _
  · refine tracks_bind (tracks_exchangeWith _ _ _) fun outcome => ?_
    cases outcome with
    | ok response => exact tracks_pure _
    | error e => exact tracks_of_quiet (quiet_bind (quietness.report _ _) fun _ => quiet_pure _)

/-! ### Laws of calls -/

/-- A law that the passing of time keeps, and executions do. -/
structure Action.CallLaw extends Action.Law where
  pass : ∀ seconds, holds (Action.pass seconds)
  execution : ∀ x, holds (Action.emit (.execution x))

def tracking : Action.CallLaw where
  holds := Action.Tracks
  bind := tracks_bind
  still h := tracks_of_quiet (quietness.still h)
  note h := tracks_of_quiet (quietness.note h)
  recorded h := h
  pass _ n := ⟨rfl, (follows_refl n).servers⟩
  execution _ := tracks_of_quiet (quiet_emit rfl)

def Action.Sends (P : Sent → Prop) (a : Action α) : Prop :=
  ∀ n, ∀ sent ∈ requests (a n).events, P sent

theorem sends_of_silent {P : Sent → Prop} {a : Action α} (h : ∀ n, requests (a n).events = []) :
    a.Sends P := by
  intro n sent member
  rw [h n] at member
  cases member

def sending (P : Sent → Prop) : Action.CallLaw where
  holds := Action.Sends P
  bind := by
    intro _ _ a f first later n sent member
    rw [Action.bind_apply, requests_append] at member
    rcases List.mem_append.1 member with member | member
    · exact first n sent member
    · exact later _ _ sent member
  still h := sends_of_silent fun n => (quietness.still h n).1
  note h := sends_of_silent fun n => (quietness.note h n).1
  recorded h := h
  pass _ := sends_of_silent fun _ => rfl
  execution _ := sends_of_silent fun _ => rfl

namespace Action.CallLaw
variable (L : Action.CallLaw)

theorem wait (seconds : Double) : L.holds (Action.wait seconds) :=
  L.bind (L.note trivial) fun _ => L.pass seconds

theorem attemptFrom {p : RetryPolicy} {budget : Budget} {body : Nat → Action (Except Failure α)}
    (h : ∀ n, L.holds (body n)) (started : Double) (left n : Nat) :
    L.holds (p.attemptFrom budget body started left n) := by
  have announced (n : Nat) (now : Double) :
      L.holds (Action.emit (.attempt n now (p.plainWait n))) := L.note trivial
  induction left generalizing n with
  | zero =>
    apply L.bind L.clock
    intro now
    exact L.bind (announced n now) fun _ => h n
  | succ left ih =>
    apply L.bind L.clock
    intro now
    apply L.bind (announced n now)
    intro _
    apply L.bind (h n)
    intro outcome
    cases outcome with
    | ok x => exact L.pure _
    | error f =>
      apply L.bind L.clock
      intro now
      dsimp only
      split
      · exact L.pure _
      · apply L.bind (L.log _ _ none)
        intro _
        apply L.bind L.jitter
        intro share
        exact L.bind (L.wait _) fun _ => ih (n + 1)

theorem retrying {p : RetryPolicy} {budget : Budget} {body : Nat → Action (Except Failure α)}
    (h : ∀ n, L.holds (body n)) : L.holds (p.retrying budget body) := by
  unfold RetryPolicy.retrying
  split
  · exact L.pure _
  · exact L.bind L.clock fun started => L.attemptFrom h started _ _

variable {c : Client} {budget : Option Budget}

section
variable {r : Request} (h : L.holds (exchange c.maxResponseBytes r))
include h

theorem execute : L.holds (c.execute r) :=
  L.bind (L.perform h) fun _ => L.bind (L.execution _) fun _ => L.pure _

theorem attempt (n : Nat) : L.holds (c.attempt r n) := by
  apply L.bind (L.execute h)
  intro outcome
  cases outcome with
  | ok t => exact L.pure _
  | error f => exact L.bind (L.reportAttempt r n f) fun _ => L.pure _

theorem call : L.holds (c.call budget r) := by
  cases budget with
  | none => exact L.execute h
  | some b => exact L.retrying fun n => L.attempt h n

end

section
variable {token : String} (h : ∀ fallback r, c.endpoint.request token fallback = .ok r →
  L.holds (exchange c.maxResponseBytes r))
include h

theorem ask (fallback : Bool) : L.holds (c.ask budget token fallback) := by
  unfold Client.ask
  cases made : c.endpoint.request token fallback with
  | error f => exact L.pure _
  | ok r => exact L.call (h fallback r made)

theorem askBoth : L.holds (c.askBoth budget token) := by
  apply L.bind (L.ask h false)
  intro outcome
  cases outcome with
  | ok t => exact L.pure _
  | error f =>
    dsimp only
    split
    · exact L.bind (L.log _ _ none) fun _ => L.ask h true
    · exact L.pure _

end

theorem introspectWithin {given : GivenToken} (h : ∀ token fallback r,
    given.accept = .ok token → c.endpoint.request token fallback = .ok r →
      L.holds (exchange c.maxResponseBytes r)) : L.holds (c.introspectWithin budget given) := by
  apply L.bind L.clock
  intro started
  apply L.bind (L.tell _ _)
  intro _
  apply L.bind (L.tell _ _)
  intro _
  cases accepted : given.accept with
  | error f => exact L.fail c _ _ f _
  | ok token =>
    refine L.bind (L.recorded (L.askBoth fun fallback r => h token fallback r accepted)) fun asked => ?_
    exact L.conclude c started given token asked

section
variable {s : Session} (h : ∀ (given : GivenToken) token fallback r,
  given.accept = .ok token → s.client.endpoint.request token fallback = .ok r →
    L.holds (exchange s.client.maxResponseBytes r))
include h

theorem introspect (given : GivenToken) (budget : Option Budget) :
    L.holds (s.introspect given budget) := by
  have asks (budget : Option Budget) : L.holds (s.client.introspectWithin budget given) :=
    L.introspectWithin (h given)
  unfold Session.introspect
  split
  · split
    · exact L.pure _
    · exact asks _
  · exact asks none

theorem submit (token : GivenToken) (budget : Option Budget) (name : String) :
    L.holds (s.submit token budget name) := by
  unfold Session.submit
  split
  · exact L.pure _
  · exact L.bind (L.introspectWithin (h token)) fun _ => L.pure _

theorem run (call : Call) : L.holds (s.run call) := by
  cases call with
  | introspect token budget =>
    exact L.bind (L.introspect h token budget) fun _ => L.pure _
  | introspectWithRetry token budget =>
    exact L.bind (L.introspectWithin (h token)) fun _ => L.pure _
  | getUser token budget =>
    apply L.bind _ fun _ => L.pure _
    apply L.bind (L.introspect h token budget)
    intro outcome
    cases outcome <;> exact L.pure _
  | submit token budget name => exact L.submit h token budget name
  | result name => exact L.pure _
  | close => exact L.bind (L.close s) fun _ => L.pure _
  | state => exact L.pure _
  | scope => exact L.bind (L.close s) fun _ => L.pure _

end

end Action.CallLaw

/-! ### Calls that keep account of replies -/

namespace Client
variable {c : Client} {budget : Option Budget}

theorem tracks_execute (r : Request) : (c.execute r).Tracks := tracking.execute (tracks_exchange _ r)

theorem tracks_attempt (r : Request) (n : Nat) : (c.attempt r n).Tracks :=
  tracking.attempt (tracks_exchange _ r) n

theorem tracks_ask (token : String) (fallback : Bool) : (c.ask budget token fallback).Tracks :=
  tracking.ask (fun _ r _ => tracks_exchange _ r) fallback

theorem tracks_askBoth (token : String) : (c.askBoth budget token).Tracks :=
  tracking.askBoth fun _ r _ => tracks_exchange _ r

end Client

/-! ### Sessions -/

namespace Session

theorem runAll_cons (s : Session) (call : Call) (calls : List Call) (n : Network) :
    let first := s.run call n
    let later := first.result.1.runAll calls first.network
    s.runAll (call :: calls) n = ⟨later.result, first.events ++ later.events, later.network⟩ := rfl

theorem result_close (s : Session) (n : Network) :
    ∃ closed connection, (s.close n).result = { s with closed, connection } := by
  unfold close
  split
  · split
    · exact ⟨s.closed, s.connection, rfl⟩
    · exact ⟨true, s.connection.release, rfl⟩
  · exact ⟨s.closed, s.connection.release, rfl⟩

/-- No call exchanges the client. -/
theorem client_run (s : Session) (call : Call) (n : Network) :
    (s.run call n).result.1.client = s.client := by
  have closed : (s.close n).result.client = s.client := by
    obtain ⟨_, _, left⟩ := s.result_close n
    rw [left]
  cases call with
  | submit token budget name =>
    show (s.submit token budget name n).result.1.client = s.client
    unfold submit
    split <;> rfl
  | close => exact closed
  | scope => exact closed
  | _ => rfl

/-- What holds of every request that a client may make holds of all that a session sends. -/
theorem sends_runAll {P : Sent → Prop} {s : Session} (h : ∀ (given : GivenToken) token fallback r url,
      given.accept = .ok token → s.client.endpoint.request token fallback = .ok r →
        Url.read r.url.toList = .ok url → P (r.send url.rooted)) (calls : List Call) (n : Network) :
    ∀ sent ∈ requests (s.runAll calls n).events, P sent := by
  induction calls generalizing s n with
  | nil =>
    intro sent none
    cases none
  | cons call calls ih =>
    intro sent member
    rw [runAll, Action.bind_apply, requests_append] at member
    rcases List.mem_append.1 member with first | later
    · have one : (s.run call).Sends P := by
        apply (sending P).run
        intro given token fallback r accepted made m sent member
        obtain ⟨url, read, rfl⟩ := requests_exchange member
        exact h given token fallback r url accepted made read
      exact one n sent first
    · -- the session that goes on has the same client, and so the same requests to make
      refine ih ?_ _ sent later
      rw [client_run]
      exact h

end Session

end Bearer
