import Mathlib.Data.List.Basic
import Bearer.Proofs.Except
import Bearer.Proofs.Network

/-!
No false accept. A call brings token information only out of the reply to its last request: one of
status 200, complete, within the limit on its length and taken by the parser. Bodies of earlier
attempts, of the other endpoint or of a refusal do not count.
-/

namespace Bearer

/-! ### One answer -/

theorem size_le_of_exceeds {limit : Int} {size : Nat} {chunks : List (List UInt8)}
    (start : ↑size ≤ limit) (h : Answer.exceeds limit size chunks = false) :
    ↑(size + chunks.flatten.length) ≤ limit := by
  induction chunks generalizing size with
  | nil => simpa using start
  | cons chunk chunks ih =>
    rw [Answer.exceeds] at h
    split at h
    next empty => simpa [List.isEmpty_iff.1 empty] using ih start h
    next =>
      simp only [Bool.or_eq_false_iff, decide_eq_false_iff_not, Int.not_lt] at h
      simpa [Nat.add_assoc] using ih h.1 h.2

/-- What is read of an answer is all of it, and no more than the limit. -/
theorem read_ok {a : Answer} {endpoint : String} {limit : Int} {r : Response} (start : 0 ≤ limit)
    (h : a.read endpoint limit = .ok r) :
    r = ⟨a.status, a.chunks.flatten⟩ ∧ a.breakAfter = none ∧ a.chunks.flatten.length ≤ limit := by
  unfold Answer.read at h
  split at h
  · cases h
  · split at h
    · cases h
    next fits =>
      split at h
      · cases h
      next whole =>
        have delivered : a.delivered = a.chunks := by simp [Answer.delivered, whole]
        rw [delivered, Bool.not_eq_true] at fits
        exact ⟨(Except.ok.inj h).symm, whole, by simpa using size_le_of_exceeds (by simpa) fits⟩

theorem received_ok {limit : Int} {r : Request} {url : Url} {host : String} {response : Response}
    {reply : Option (Except Failure Answer)} (h : received limit r url host reply = .ok response) :
    ∃ answer, reply = some (.ok answer) ∧ answer.read r.endpoint limit = .ok response := by
  unfold received at h
  split at h
  · cases h
  · cases h
  next answer =>
    split at h
    · cases h
    · exact ⟨answer, rfl, h⟩

/-! ### What justifies token information -/

namespace Client

/-- A complete answer of status 200 within the limit, out of whose body the parser makes `t`. -/
structure Grants (c : Client) (now : Double) (a : Answer) (t : TokenInfo) : Prop where
  status : a.status = 200
  complete : a.breakAfter = none
  bounded : a.chunks.flatten.length ≤ c.maxResponseBytes
  parsed : c.parser now a.chunks.flatten = .ok t

/-- The last request of a run from `n` reached a server whose reply to it grants `t`. Which reply
that is, the requests before it tell. -/
def Justifies (c : Client) (n : Network) (run : Step α) (t : TokenInfo) : Prop :=
  ∃ earlier last host script answer,
    requests run.events = earlier ++ [last] ∧ last.reaches host = true ∧
    n.servers.lookup host = some script ∧
    (script.get (timesAsked host earlier)).answer = .ok answer ∧
    c.Grants (run.network.epoch + run.network.clock) answer t

variable {c : Client} {n : Network} {t : TokenInfo}

/-- What happened before does not matter, and what happens later must be no request. -/
theorem justifies_of_follows {m : Network} {sent : List Sent} {run : Step α} {whole : Step β}
    (before : Follows n sent m) (h : c.Justifies m run t)
    (sents : requests whole.events = sent ++ requests run.events)
    (network : whole.network = run.network) : c.Justifies n whole t := by
  obtain ⟨earlier, last, host, script, answer, hrun, reached, found, reply, granted⟩ := h
  obtain ⟨first, hfirst, get⟩ := get_of_follows before found
  refine ⟨sent ++ earlier, last, host, first, answer, ?_, reached, hfirst, ?_, network ▸ granted⟩
  · rw [sents, hrun, List.append_assoc]
  · rw [timesAsked_append, ← get, reply]

theorem justifies_bind_right {a : Action α} {f : α → Action β} (tracks : a.Tracks)
    (h : c.Justifies (a n).network (f (a n).result (a n).network) t) :
    c.Justifies n ((a >>= f) n) t :=
  justifies_of_follows (tracks n) h (requests_append _ _) rfl

theorem justifies_bind_left {a : Action α} {f : α → Action β} (h : c.Justifies n (a n) t)
    (quiet : (f (a n).result).Quiet) : c.Justifies n ((a >>= f) n) t := by
  obtain ⟨silent, still⟩ := quiet (a n).network
  exact justifies_of_follows (follows_refl n) h (by simp [silent]) (by simp [still])

/-! ### One exchange -/

theorem exchangeWith_ok {limit : Int} {r : Request} {url : Url} {response : Response}
    (h : (exchangeWith limit r url n).result = .ok response) :
    ∃ host script answer, requests (exchangeWith limit r url n).events = [r.send url] ∧
      (r.send url).reaches host = true ∧ n.servers.lookup host = some script ∧
      script.next.answer = .ok answer ∧ answer.read r.endpoint limit = .ok response := by
  unfold exchangeWith at h ⊢
  cases hh : url.readableHost with
  | error e => simp [hh] at h
  | ok name =>
    simp only [hh, Action.bind_apply, Action.pure_apply, Action.emit] at h ⊢
    obtain ⟨answer, hreply, hread⟩ := received_ok h
    unfold Action.ask at hreply
    split at hreply
    · cases hreply
    next script found =>
      refine ⟨String.ofList name, script, answer, ?_, ?_, found, Option.some.inj hreply, hread⟩
      · simp [requests]
      · simp [Sent.reaches, Request.send, hh]

theorem exchange_ok {limit : Int} {r : Request} {response : Response}
    (h : (exchange limit r n).result = .ok response) :
    ∃ last host script answer, requests (exchange limit r n).events = [last] ∧
      last.reaches host = true ∧ n.servers.lookup host = some script ∧
      script.next.answer = .ok answer ∧ answer.read r.endpoint limit = .ok response := by
  unfold exchange at h ⊢
  cases hu : Url.read r.url.toList with
  | error e => simp [hu] at h
  | ok url =>
    simp only [hu, Action.bind_apply] at h ⊢
    cases hr : (exchangeWith limit r url.rooted n).result with
    | error e => simp [hr] at h
    | ok got =>
      simp only [hr, Action.pure_apply, Except.ok.injEq, List.append_nil] at h ⊢
      obtain ⟨host, script, answer, sent, reached, found, reply, read⟩ := exchangeWith_ok (h ▸ hr)
      exact ⟨_, host, script, answer, sent, reached, found, reply, read⟩

theorem tokenInfo_ok {parser : Parser} {now : Double} {r : Response}
    (h : r.tokenInfo parser now = .ok t) : r.status = 200 ∧ parser now r.body = .ok t := by
  unfold Response.tokenInfo at h
  split at h
  next status =>
    refine ⟨status, ?_⟩
    exact mapError_eq_ok_iff.1 h
  · cases h

/-- The time of day that the parser is given is the one at the end. -/
theorem settle_ok {r : Request} {started : Double} {outcome : Except Failure Response}
    (h : (c.settle r started outcome n).result.outcome = .ok t) :
    ∃ response, outcome = .ok response ∧ response.status = 200 ∧
      c.parser (n.epoch + n.clock) response.body = .ok t := by
  cases outcome with
  | error f => cases h
  | ok response =>
    simp only [settle, Action.bind_apply, Action.timeOfDay, network_of_tell, Action.pure_apply] at h
    exact ⟨response, rfl, tokenInfo_ok h⟩

theorem exchange_settle_ok (start : 0 ≤ c.maxResponseBytes) {r : Request} {started : Double}
    (h : ((exchange c.maxResponseBytes r >>= c.settle r started) n).result.outcome = .ok t) :
    c.Justifies n ((exchange c.maxResponseBytes r >>= c.settle r started) n) t := by
  obtain ⟨response, hexchange, status, parsed⟩ := settle_ok h
  obtain ⟨last, host, script, answer, sent, reached, found, reply, read⟩ := exchange_ok hexchange
  obtain ⟨rfl, complete, bounded⟩ := read_ok start read
  obtain ⟨silent, still⟩ := quietness.settle c r started (exchange c.maxResponseBytes r n).result
    (exchange c.maxResponseBytes r n).network
  refine ⟨[], last, host, script, answer, ?_, reached, found, reply, status, complete, bounded, ?_⟩
  · rw [Action.bind_apply, requests_append, sent, silent]
    rfl
  · rw [Action.bind_apply, still]
    exact parsed

theorem perform_ok (start : 0 ≤ c.maxResponseBytes) {r : Request}
    (h : (c.perform r n).result.outcome = .ok t) : c.Justifies n (c.perform r n) t := by
  unfold perform at h ⊢
  rw [c.fetch_eq] at h ⊢
  exact justifies_bind_right tracking.clock
    (justifies_bind_right (tracking.tell _ _) (exchange_settle_ok start h))

theorem execute_ok (start : 0 ≤ c.maxResponseBytes) {r : Request}
    (h : (c.execute r n).result = .ok t) : c.Justifies n (c.execute r n) t :=
  justifies_bind_left (perform_ok start h) (quiet_bind (quiet_emit rfl) fun _ => quiet_pure _)

/-! ### Attempts and endpoints -/

/-- A run that goes on with the result of another one is justified by the one that brought the
result: by the first if it ended well and the rest was quiet, and else by the rest. -/
theorem justifies_match {a : Action (Except Failure TokenInfo)}
    {f : Except Failure TokenInfo → Action (Except Failure TokenInfo)} (tracks : a.Tracks)
    (ended : ∀ t', (a n).result = .ok t' → (f (.ok t') (a n).network).result = .ok t →
      (f (.ok t')).Quiet ∧ c.Justifies n (a n) t)
    (failed : ∀ e, (a n).result = .error e → (f (.error e) (a n).network).result = .ok t →
      c.Justifies (a n).network (f (.error e) (a n).network) t)
    (h : ((a >>= f) n).result = .ok t) : c.Justifies n ((a >>= f) n) t := by
  rw [Action.bind_apply] at h
  cases hr : (a n).result with
  | ok t' =>
    obtain ⟨quiet, first⟩ := ended t' hr (hr ▸ h)
    exact justifies_bind_left first (hr ▸ quiet)
  | error e => exact justifies_bind_right tracks (hr ▸ failed e hr (hr ▸ h))

theorem attempt_ok (start : 0 ≤ c.maxResponseBytes) {r : Request} {k : Nat}
    (h : (c.attempt r k n).result = .ok t) : c.Justifies n (c.attempt r k n) t := by
  refine justifies_match (tracks_execute r) (fun t' hr ht => ?_) (fun e _ ht => ?_) h
  · obtain rfl := Except.ok.inj ht
    exact ⟨quiet_pure _, execute_ok start hr⟩
  · cases ht

theorem attemptFrom_ok {p : RetryPolicy} {budget : Budget}
    {body : Nat → Action (Except Failure TokenInfo)} (tracks : ∀ k, (body k).Tracks)
    (justified : ∀ k m, (body k m).result = .ok t → c.Justifies m (body k m) t)
    {started : Double} {left k : Nat} (h : (p.attemptFrom budget body started left k n).result = .ok t) :
    c.Justifies n (p.attemptFrom budget body started left k n) t := by
  induction left generalizing n k with
  | zero =>
    exact justifies_bind_right tracking.clock
      (justifies_bind_right (tracking.note trivial) (justified k _ h))
  | succ left ih =>
    refine justifies_bind_right tracking.clock
      (justifies_bind_right (tracking.note trivial) ?_)
    refine justifies_match (tracks k) (fun t' hr ht => ?_) (fun f _ ht => ?_) h
    · obtain rfl := Except.ok.inj ht
      exact ⟨quiet_pure _, justified k _ hr⟩
    · refine justifies_bind_right tracking.clock ?_
      dsimp only at ht ⊢
      rw [Action.bind_apply] at ht
      dsimp only at ht
      split at ht
      · cases ht
      next goesOn =>
        rw [if_neg goesOn]
        exact justifies_bind_right (tracking.log _ _ none) (justifies_bind_right tracking.jitter
          (justifies_bind_right (tracking.wait _) (ih ht)))

theorem call_ok (start : 0 ≤ c.maxResponseBytes) {budget : Option Budget} {r : Request}
    (h : (c.call budget r n).result = .ok t) : c.Justifies n (c.call budget r n) t := by
  cases budget with
  | none => exact execute_ok start h
  | some b =>
    unfold call RetryPolicy.retrying at h ⊢
    dsimp only at h ⊢
    split at h
    · cases h
    next left =>
      rw [if_neg left]
      exact justifies_bind_right tracking.clock
        (attemptFrom_ok (fun k => tracks_attempt r k) (fun k m hk => attempt_ok start hk) h)

theorem ask_ok (start : 0 ≤ c.maxResponseBytes) {budget : Option Budget} {token : String}
    {fallback : Bool} (h : (c.ask budget token fallback n).result = .ok t) :
    c.Justifies n (c.ask budget token fallback n) t := by
  unfold ask at h ⊢
  cases hr : c.endpoint.request token fallback with
  | error f => simp [hr] at h
  | ok r =>
    simp only [hr] at h ⊢
    exact call_ok start h

theorem askBoth_ok (start : 0 ≤ c.maxResponseBytes) {budget : Option Budget} {token : String}
    (h : (c.askBoth budget token n).result = .ok t) : c.Justifies n (c.askBoth budget token n) t := by
  refine justifies_match (tracks_ask token false) (fun t' hr ht => ?_) (fun f _ ht => ?_) h
  · obtain rfl := Except.ok.inj ht
    exact ⟨quiet_pure _, ask_ok start hr⟩
  · dsimp only at ht ⊢
    split at ht
    next goesOn =>
      rw [if_pos goesOn]
      exact justifies_bind_right (tracking.log _ _ none) (ask_ok start ht)
    · cases ht

theorem fail_error (started : Double) (span : Span) (f : Failure) (shown : List String) :
    (c.fail started span f shown n).result = .error (leaving f) := rfl

theorem introspectWithin_ok (start : 0 ≤ c.maxResponseBytes) {budget : Option Budget}
    {given : GivenToken} (h : (c.introspectWithin budget given n).result = .ok t) :
    c.Justifies n (c.introspectWithin budget given n) t := by
  refine justifies_bind_right tracking.clock (justifies_bind_right (tracking.tell _ _)
    (justifies_bind_right (tracking.tell _ _) ?_))
  unfold introspectWithin at h
  simp only [Action.bind_apply] at h
  cases accepted : given.accept with
  | error f => simp [accepted, fail_error] at h
  | ok token =>
    simp only [accepted] at h ⊢
    rw [Action.recorded_bind] at h ⊢
    refine justifies_match (tracks_askBoth token) (fun t' asked ht => ?_) (fun f _ ht => ?_) h
    · obtain rfl := Except.ok.inj ht
      exact ⟨quietness.succeed _ _ _ _ t', askBoth_ok start asked⟩
    · cases ht

end Client

/-! ### Calls of a session -/

namespace Session
variable {s : Session} {n : Network}

theorem introspect_ok (start : 0 ≤ s.client.maxResponseBytes) {token : GivenToken}
    {budget : Option Budget} {t : TokenInfo} (h : (s.introspect token budget n).result = .ok t) :
    s.client.Justifies n (s.introspect token budget n) t := by
  unfold introspect at h ⊢
  cases mode : s.mode with
  | background =>
    simp only [mode] at h ⊢
    split at h
    · cases h
    next opened =>
      rw [if_neg opened]
      exact Client.introspectWithin_ok start h
  | _ =>
    simp only [mode] at h ⊢
    exact Client.introspectWithin_ok start h

theorem ok_of_map {ε : Type} {g : α → β} (injective : ∀ x y, g x = g y → x = y) {r : Except ε α}
    {x : α} (h : r.map g = .ok (g x)) : r = .ok x := by
  cases r with
  | error f => cases h
  | ok y => exact congrArg _ (injective y x (Except.ok.inj h))

theorem info_injective (t t' : TokenInfo) : Reported.info t = .info t' → t = t' := Reported.info.inj

theorem user_injective (u u' : User) : Reported.user u = .user u' → u = u' := Reported.user.inj

theorem toUser_ok {t : TokenInfo} {u : User} (h : t.toUser = .ok u) :
    t.active = true ∧ t.userId = some u.userId ∧ t.scope = u.scope := by
  unfold TokenInfo.toUser at h
  split at h
  · cases h
  next active =>
    split at h
    · cases h
    next hid =>
      obtain rfl := Except.ok.inj h
      exact ⟨by simpa using active, hid, rfl⟩

theorem userOf_ok {a : Action (Except Failure TokenInfo)} {u : User}
    (h : (Client.userOf a n).result = .ok u) : ∃ t, (a n).result = .ok t ∧ t.toUser = .ok u := by
  unfold Client.userOf at h
  rw [Action.bind_apply] at h
  dsimp only at h
  cases hr : (a n).result with
  | error f => simp [hr] at h
  | ok t => exact ⟨t, rfl, by simpa [hr] using h⟩

/-- What a submission stores under its name is what its introspection brought. -/
theorem submit_ok {token : GivenToken} {budget : Option Budget} {name : String} {s' : Session}
    {t : TokenInfo} (h : (s.submit token budget name n).result = (s', .ok .submitted))
    (stored : s'.outcome name = .ok t) :
    s.closed = false ∧ (s.client.introspectWithRetry token budget n).result = .ok t := by
  unfold submit at h
  cases closed : s.closed with
  | true => simp [closed] at h
  | false =>
    simp only [closed, Bool.false_eq_true, if_false, Action.bind_apply, Action.pure_apply,
      Prod.mk.injEq, and_true] at h
    exact ⟨rfl, by simpa [← h, outcome] using stored⟩

/-- Whichever call brings token information, and however often it was tried, the reply to its last
request was complete, of status 200 and within the limit, and the parser made that information out
of its body. A user comes from information on an active token with that user id and those scopes. -/
theorem no_false_accept (s : Session) (start : 0 ≤ s.client.maxResponseBytes) (n : Network)
    (token : GivenToken) (budget : Option Budget) :
    (∀ t, (s.run (.introspect token budget) n).result.2 = .ok (.info t) →
      s.client.Justifies n (s.run (.introspect token budget) n) t) ∧
    (∀ t, (s.run (.introspectWithRetry token budget) n).result.2 = .ok (.info t) →
      s.client.Justifies n (s.run (.introspectWithRetry token budget) n) t) ∧
    (∀ name s' t, (s.run (.submit token budget name) n).result = (s', .ok .submitted) →
      s'.outcome name = .ok t → s.client.Justifies n (s.run (.submit token budget name) n) t) ∧
    (∀ u, (s.run (.getUser token budget) n).result.2 = .ok (.user u) →
      ∃ t, s.client.Justifies n (s.run (.getUser token budget) n) t ∧
        t.active = true ∧ t.userId = some u.userId ∧ t.scope = u.scope) := by
  refine ⟨fun t h => ?_, fun t h => ?_, fun name s' t h stored => ?_, fun u h => ?_⟩
  · exact Client.justifies_bind_left (introspect_ok start (ok_of_map info_injective h)) (quiet_pure _)
  · have brought := Client.introspectWithin_ok start (ok_of_map info_injective h)
    exact Client.justifies_bind_left brought (quiet_pure _)
  · obtain ⟨opened, brought⟩ := submit_ok h stored
    have run : s.run (.submit token budget name) = s.client.introspectWithRetry token budget >>=
        fun r => Pure.pure ({ s with books := s.handover.books, outcomes := (name, r) :: s.outcomes },
          .ok .submitted) := by
      simp [run, submit, opened]
    rw [run]
    exact Client.justifies_bind_left (Client.introspectWithin_ok start brought) (quiet_pure _)
  · obtain ⟨t, brought, user⟩ := userOf_ok (ok_of_map user_injective h)
    refine ⟨t, Client.justifies_bind_left (Client.justifies_bind_left ?_ ?_) (quiet_pure _),
      toUser_ok user⟩
    · exact introspect_ok start brought
    · rw [brought]
      exact quiet_pure _

/-- A second attempt brings the information: the reply to the first one, which the parser would take
too, is of status 500. -/
theorem no_false_accept_retried :
    let client : Client := {
      endpoint := { endpoint := "https://h/i", method := .post }
      parser := fun _ body => .ok { userId := some (toString body.length) }
      maxResponseBytes := 2
      budget := .whole 1 }
    let refused : Answer := { status := 500, chunks := [[0x7b]] }
    let granted : Answer := { status := 200, chunks := [[0x7b], [], [0x7d]] }
    let n : Network := { servers := [("h", ⟨⟨.zero, .ok refused⟩, [⟨.zero, .ok granted⟩]⟩)] }
    let s : Session := { mode := .async, client }
    (s.run (.introspectWithRetry "t" none) n).result.2 = .ok (.info { userId := some "2" }) ∧
      client.Justifies n (s.run (.introspectWithRetry "t" none) n) { userId := some "2" } := by
  intro client refused granted n s
  have brought : (s.run (.introspectWithRetry "t" none) n).result.2 =
      .ok (.info { userId := some "2" }) := by decide +kernel
  exact ⟨brought, (no_false_accept s (by decide) n "t" none).2.1 _ brought⟩

end Session

end Bearer
