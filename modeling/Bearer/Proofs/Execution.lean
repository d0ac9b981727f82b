import Bearer.Proofs.Fallback
import Mathlib.Data.List.Infix

/-!
One execution. Its requests get replies, which the servers give in order (`replies`), and what comes of it
depends on nothing else but the time at which an answer is parsed: `Executed` names every way in which it
can go, so that statements about failures need not look into an exchange.
-/

namespace Bearer

/-! ### Replies -/

/-- The reply to a request behind earlier ones, if it reaches a server. -/
def replyTo (n : Network) (earlier : List Sent) (sent : Sent) : Option (Except Failure Answer) :=
  match sent.url.readableHost with
  | .error _ => none
  | .ok name => (n.servers.lookup (String.ofList name)).map fun script =>
      (script.get (timesAsked (String.ofList name) earlier)).answer

def repliesFrom (n : Network) (earlier : List Sent) : List Sent → List (Option (Except Failure Answer))
  | [] => []
  | sent :: later => replyTo n earlier sent :: repliesFrom n (earlier ++ [sent]) later

/-- The replies to the requests among some events, the first of which meets the network `n`. -/
def replies (n : Network) (events : List Event) : List (Option (Except Failure Answer)) :=
  repliesFrom n [] (requests events)

variable {n m : Network} {es : List Event}

theorem replyTo_alone {sent : Sent} {name : List Char} {reply : Reply}
    (readable : sent.url.readableHost = .ok name)
    (found : n.servers.lookup (String.ofList name) = some ⟨reply, []⟩) (earlier : List Sent) :
    replyTo n earlier sent = some reply.answer := by
  unfold replyTo
  rw [readable]
  dsimp only
  rw [found, Option.map_some, get_alone]

theorem replyTo_of_follows {sent earlier : List Sent} (h : Follows n sent m) (last : Sent) :
    replyTo n (sent ++ earlier) last = replyTo m earlier last := by
  unfold replyTo
  cases last.url.readableHost with
  | error e => rfl
  | ok name =>
    dsimp only
    rw [h.servers, Option.map_map]
    congr 1
    funext script
    rw [Function.comp_apply, get_iterate_advance, timesAsked_append]

theorem repliesFrom_of_follows {sent : List Sent} (h : Follows n sent m) (earlier later : List Sent) :
    repliesFrom n (sent ++ earlier) later = repliesFrom m earlier later := by
  induction later generalizing earlier with
  | nil => rfl
  | cons s later ih => rw [repliesFrom, repliesFrom, replyTo_of_follows h, List.append_assoc, ih]

theorem repliesFrom_append (earlier xs ys : List Sent) :
    repliesFrom n earlier (xs ++ ys) = repliesFrom n earlier xs ++ repliesFrom n (earlier ++ xs) ys := by
  induction xs generalizing earlier with
  | nil => rw [List.append_nil]; rfl
  | cons x xs ih =>
    rw [List.cons_append, repliesFrom, repliesFrom, ih, List.append_assoc]
    rfl

theorem replies_append (h : Follows n (requests es) m) (fs : List Event) :
    replies n (es ++ fs) = replies n es ++ replies m fs := by
  unfold replies
  rw [requests_append, repliesFrom_append, List.nil_append, ← repliesFrom_of_follows h, List.append_nil]

theorem replies_bind_quiet {f : α → Action β} (quiet : ∀ x, (f x).Quiet) (a : Action α) (n : Network) :
    replies n ((a >>= f) n).events = replies n (a n).events := by
  unfold replies
  rw [requests_bind_quiet quiet]

theorem replies_quiet_bind {a : Action α} (quiet : a.Quiet) (f : α → Action β) (n : Network) :
    replies n ((a >>= f) n).events = replies n (f (a n).result n).events := by
  unfold replies
  rw [Action.bind_apply, requests_append, (quiet n).1, (quiet n).2, List.nil_append]

/-! ### Answers -/

/-- Within a limit, as the headers declare the length of the body and as it is; nothing exceeds none. -/
def Answer.Fits (limit : Int) (a : Answer) : Prop :=
  (∀ size, a.declaredLength? = some size → size ≤ limit) ∧
    (a.chunks.flatten = [] ∨ ↑a.chunks.flatten.length ≤ limit)

theorem exceeds_eq_false_iff {limit : Int} {size : Nat} {chunks : List (List UInt8)} :
    Answer.exceeds limit size chunks = false ↔
      chunks.flatten = [] ∨ ↑(size + chunks.flatten.length) ≤ limit := by
  induction chunks generalizing size with
  | nil => simp [Answer.exceeds]
  | cons chunk chunks ih =>
    rw [Answer.exceeds, List.flatten_cons]
    cases chunk with
    | nil => exact ih -- not looked at, however small the limit
    | cons byte bytes =>
      have some : (byte :: bytes) ++ chunks.flatten ≠ [] := List.cons_ne_nil _ _
      rw [List.isEmpty_cons, if_neg (by decide), Bool.or_eq_false_iff, ih, or_iff_right some,
        decide_eq_false_iff_not, List.length_append]
      constructor
      · rintro ⟨inside, rest | rest⟩
        · simp only [rest, List.length_nil]
          omega
        · omega
      · intro inside
        exact ⟨by omega, .inr (by omega)⟩

/-- Beyond a limit, as the headers declare the length of the body or as its chunks come in. -/
def Answer.IsOversized (limit : Int) (a : Answer) : Prop :=
  (∃ size, a.declaredLength? = some size ∧ limit < size) ∨ Answer.exceeds limit 0 a.delivered = true

theorem not_isOversized_iff {a : Answer} {limit : Int} (complete : a.breakAfter = none) :
    ¬ a.IsOversized limit ↔ a.Fits limit := by
  have delivered : a.delivered = a.chunks := by rw [Answer.delivered, complete]
  rw [Answer.IsOversized, Answer.Fits, delivered, not_or, Bool.not_eq_true, exceeds_eq_false_iff]
  simp

/-- What fits as a whole exceeds no limit on the way either, even if it breaks off. -/
theorem Answer.Fits.not_isOversized {a : Answer} {limit : Int} (fits : a.Fits limit) : ¬ a.IsOversized limit := by
  obtain ⟨declared, whole⟩ := fits
  rintro (⟨size, length, beyond⟩ | beyond)
  · exact absurd (declared size length) (by omega)
  · have front : a.delivered.flatten <+: a.chunks.flatten := by
      unfold Answer.delivered
      cases a.breakAfter with
      | none => exact List.prefix_rfl
      | some broken => exact List.IsPrefix.flatten (List.take_prefix _ _)
    have inside : Answer.exceeds limit 0 a.delivered = false := by
      rw [exceeds_eq_false_iff, Nat.zero_add]
      rcases whole with empty | whole
      · exact .inl (List.prefix_nil.1 (empty ▸ front))
      · have shorter := front.length_le
        exact .inr (by omega)
    rw [inside] at beyond
    cases beyond

inductive Answer.ReadAs (endpoint : String) (limit : Int) (a : Answer) : Except ExchangeError Response → Prop
  | declared {size : Int} (excess : a.IsOversized limit) :
    ReadAs endpoint limit a (.error (.declaredTooLarge size limit))
  | tooLarge (excess : a.IsOversized limit) : ReadAs endpoint limit a (.error (.tooLarge limit))
  | brokenOff {k : Nat} {f : Failure} (fits : ¬ a.IsOversized limit) (broken : a.breakAfter = some (k, f)) :
    ReadAs endpoint limit a (.error (.ofFailure endpoint .brokenOff f))
  | whole (complete : a.breakAfter = none) (fits : a.Fits limit) :
    ReadAs endpoint limit a (.ok ⟨a.status, a.chunks.flatten⟩)

theorem readAs_read (a : Answer) (endpoint : String) (limit : Int) :
    a.ReadAs endpoint limit (a.read endpoint limit) := by
  unfold Answer.read
  split
  next size declared =>
    obtain ⟨length, excess⟩ := Option.filter_eq_some_iff.1 declared
    exact .declared (.inl ⟨size, length, of_decide_eq_true excess⟩)
  next undeclared =>
    have short (size : Int) (length : a.declaredLength? = some size) : ¬ limit < size := by
      simpa using Option.filter_eq_none_iff.1 undeclared size length
    cases excess : Answer.exceeds limit 0 a.delivered with
    | true => exact .tooLarge (.inr excess)
    | false =>
      have fits : ¬ a.IsOversized limit := by
        rintro (⟨size, length, beyond⟩ | beyond)
        · exact short size length beyond
        · rw [excess] at beyond
          cases beyond
      cases complete : a.breakAfter with
      | some broken => exact .brokenOff fits complete
      | none => exact .whole complete ((not_isOversized_iff complete).1 fits)

theorem read_of_fits {a : Answer} {limit : Int} (complete : a.breakAfter = none) (fits : a.Fits limit)
    (endpoint : String) : a.read endpoint limit = .ok ⟨a.status, a.chunks.flatten⟩ := by
  have inside := (not_isOversized_iff complete).2 fits
  have read := readAs_read a endpoint limit
  generalize a.read endpoint limit = outcome at read ⊢
  cases read with
  | declared excess => exact absurd excess inside
  | tooLarge excess => exact absurd excess inside
  | brokenOff _ broken =>
    rw [complete] at broken
    cases broken
  | whole => rfl

theorem read_of_isOversized {a : Answer} {limit : Int} (excess : a.IsOversized limit) (endpoint : String) :
    ∃ e, a.read endpoint limit = .error e ∧ e.toFailure.kind = .oversized := by
  have read := readAs_read a endpoint limit
  generalize a.read endpoint limit = outcome at read ⊢
  cases read with
  | declared => exact ⟨_, rfl, rfl⟩
  | tooLarge => exact ⟨_, rfl, rfl⟩
  | brokenOff fits => exact absurd excess fits
  | whole complete fits => exact absurd excess ((not_isOversized_iff complete).2 fits)

theorem read_of_broken {a : Answer} {limit : Int} {k : Nat} {f : Failure} (fits : ¬ a.IsOversized limit)
    (broken : a.breakAfter = some (k, f)) (endpoint : String) :
    a.read endpoint limit = .error (.ofFailure endpoint .brokenOff f) := by
  have read := readAs_read a endpoint limit
  generalize a.read endpoint limit = outcome at read ⊢
  cases read with
  | declared excess => exact absurd excess fits
  | tooLarge excess => exact absurd excess fits
  | brokenOff _ same =>
    obtain ⟨-, rfl⟩ := Prod.mk.inj (Option.some.inj (same.symm.trans broken))
    rfl
  | whole complete => cases complete.symm.trans broken

theorem refusal?_eq_some_iff {asked : Url} {place : List Char} {e : Redirect.Error} :
    Redirect.refusal? asked place = some e ↔ Redirect.target asked place = .error e := by
  unfold Redirect.refusal?
  cases Redirect.target asked place <;> simp

theorem redirectError?_of_target {a : Answer} {place : String} {asked : Url} {e : Redirect.Error}
    (redirected : a.redirect? = some place) (lost : Redirect.target asked place.toList = .error e)
    (endpoint : String) : a.redirectError? endpoint asked = some (.ofRedirect endpoint e) := by
  rw [Answer.redirectError?, redirected, Option.bind_some, refusal?_eq_some_iff.2 lost, Option.map_some]

theorem target_of_redirectError? {a : Answer} {endpoint : String} {asked : Url} {e : ExchangeError}
    (refused : a.redirectError? endpoint asked = some e) : ∃ place lost, a.redirect? = some place ∧
      Redirect.target asked place.toList = .error lost ∧ e = .ofRedirect endpoint lost := by
  obtain ⟨place, redirected, refused⟩ := Option.bind_eq_some_iff.1 refused
  obtain ⟨lost, found, rfl⟩ := Option.map_eq_some_iff.1 refused
  exact ⟨place, lost, redirected, refusal?_eq_some_iff.1 found, rfl⟩

section

variable {limit : Int} {r : Request} {a : Answer} {asked : Url}

theorem received_of_refused {e : ExchangeError} (refused : a.redirectError? r.endpoint asked = some e)
    (host : String) : received limit r asked host (some (.ok a)) = .error e := by
  rw [received, refused]

theorem received_of_stays (stays : a.redirectError? r.endpoint asked = none) (host : String) :
    received limit r asked host (some (.ok a)) = a.read r.endpoint limit := by
  rw [received, stays]

theorem stays_of_status (status : a.status = 200) (endpoint : String) (asked : Url) :
    a.redirectError? endpoint asked = none := by
  have stays : a.redirect? = none := by rw [Answer.redirect?, status]; rfl
  rw [Answer.redirectError?, stays, Option.bind_none]

end

/-! ### Exchanges -/

inductive Exchanged (limit : Int) (r : Request) :
    List (Option (Except Failure Answer)) → Except Failure Response → Prop
  | unreadable {e : Url.Error} (read : Url.read r.url.toList = .error e) :
    Exchanged limit r [] (.error (ExchangeError.invalidUrl r.endpoint).toFailure)
  | noHost {url : Url} {e : DomainName.Error} (read : Url.read r.url.toList = .ok url)
    (unreadable : url.rooted.readableHost = .error e) :
    Exchanged limit r [none] (.error (ExchangeError.unreadableHost e).toFailure)
  | received {url : Url} {name : List Char} (read : Url.read r.url.toList = .ok url)
    (readable : url.rooted.readableHost = .ok name) (reply : Option (Except Failure Answer)) :
    Exchanged limit r [reply]
      ((Bearer.received limit r url.rooted (String.ofList name) reply).mapError ExchangeError.toFailure)

theorem replies_exchangeWith (limit : Int) (r : Request) (url : Url) (n : Network) :
    replies n (exchangeWith limit r url n).events = [replyTo n [] (r.send url)] := by
  rw [replies, requests_exchangeWith]
  rfl

theorem exchangeWith_cases (limit : Int) (r : Request) (url : Url) (n : Network) :
    (∃ e, url.readableHost = .error e ∧ (exchangeWith limit r url n).result = .error (.unreadableHost e) ∧
      replies n (exchangeWith limit r url n).events = [none]) ∨
    ∃ name reply, url.readableHost = .ok name ∧
      (exchangeWith limit r url n).result = received limit r url (String.ofList name) reply ∧
      replies n (exchangeWith limit r url n).events = [reply] := by
  have asked (host : String) : (Action.ask host n).result =
      (n.servers.lookup host).map fun script => (script.get 0).answer := by
    unfold Action.ask
    cases n.servers.lookup host <;> rfl
  rw [replies_exchangeWith]
  unfold exchangeWith replyTo Request.send
  cases url.readableHost with
  | error e => exact .inl ⟨e, rfl, rfl, rfl⟩
  | ok name =>
    refine .inr ⟨name, _, rfl, ?_, rfl⟩
    simp only [Action.bind_apply, Action.pure_apply, Action.emit, asked]
    rfl

theorem exchange_of_read (limit : Int) {r : Request} {url : Url} (read : Url.read r.url.toList = .ok url)
    (n : Network) : (exchange limit r n).result =
        (exchangeWith limit r url.rooted n).result.mapError ExchangeError.toFailure ∧
      replies n (exchange limit r n).events = replies n (exchangeWith limit r url.rooted n).events := by
  unfold exchange
  rw [read]
  dsimp only
  constructor
  · rw [Action.bind_apply]
    cases (exchangeWith limit r url.rooted n).result <;> rfl
  · apply replies_bind_quiet
    intro outcome
    cases outcome with
    | ok response => exact quiet_pure _
    | error e => exact quiet_bind (quietness.report _ _) fun _ => quiet_pure _

theorem exchanged_exchange (limit : Int) (r : Request) (n : Network) :
    Exchanged limit r (replies n (exchange limit r n).events) (exchange limit r n).result := by
  cases read : Url.read r.url.toList with
  | error e =>
    have failed : exchange limit r n = ⟨.error (ExchangeError.invalidUrl r.endpoint).toFailure, [], n⟩ := by
      rw [exchange, read]
      rfl
    rw [failed]
    exact .unreadable read
  | ok url =>
    obtain ⟨result, same⟩ := exchange_of_read limit read n
    rw [result, same]
    obtain ⟨e, unreadable, failed, none⟩ | ⟨name, reply, readable, came, one⟩ :=
      exchangeWith_cases limit r url.rooted n
    · rw [failed, none]
      exact .noHost read unreadable
    · rw [came, one]
      exact .received read readable reply

/-! ### Executions -/

/-- What an execution makes of the replies to it, the time of day being `now`. -/
def Client.Executed (c : Client) (r : Request) (now : Double) (replies : List (Option (Except Failure Answer)))
    (result : Except Failure TokenInfo) : Prop :=
  ∃ outcome, Exchanged c.maxResponseBytes r replies outcome ∧
    result = outcome >>= fun response => response.tokenInfo c.parser now

namespace Client

variable {c : Client} {r : Request}

theorem outcome_settle (c : Client) (started : Double) (outcome : Except Failure Response) (n : Network) :
    (c.settle r started outcome n).result.outcome =
      outcome >>= fun response => response.tokenInfo c.parser (n.epoch + n.clock) := by
  cases outcome with
  | error f => rfl
  | ok response =>
    simp only [settle, Action.bind_apply, Action.timeOfDay, network_of_tell, Action.pure_apply]
    rfl

theorem perform_apply (c : Client) (r : Request) (n : Network) :
    let exchanged := exchange c.maxResponseBytes r n
    replies n (c.perform r n).events = replies n exchanged.events ∧
      (c.perform r n).network = exchanged.network ∧
      (c.perform r n).result = (c.settle r n.clock exchanged.result exchanged.network).result := by
  unfold perform
  rw [c.fetch_eq]
  refine ⟨?_, ?_, ?_⟩
  · rw [replies_quiet_bind quietness.clock, replies_quiet_bind (quietness.tell _ _)]
    exact replies_bind_quiet (fun outcome => quietness.settle c r _ outcome) _ n
  · simp only [Action.bind_apply, Action.clock_apply, network_of_tell]
    exact (quietness.settle c r _ _ _).2
  · simp only [Action.bind_apply, Action.clock_apply, network_of_tell]

theorem replies_execute_eq (c : Client) (r : Request) (n : Network) :
    replies n (c.execute r n).events = replies n (c.perform r n).events :=
  replies_bind_quiet (fun _ => quiet_bind (quiet_emit rfl) fun _ => quiet_pure _) _ n

theorem executed_execute (c : Client) (r : Request) (n : Network) :
    let m := (c.execute r n).network
    Executed c r (m.epoch + m.clock) (replies n (c.execute r n).events) (c.execute r n).result := by
  obtain ⟨exchanged, same, settled⟩ := perform_apply c r n
  have result : (c.execute r n).result = (c.perform r n).result.outcome := rfl
  have network : (c.execute r n).network = (c.perform r n).network := rfl
  dsimp only
  rw [result, network, same, settled, outcome_settle, replies_execute_eq, exchanged]
  exact ⟨_, exchanged_exchange _ _ _, rfl⟩

theorem replies_execute {url : Url} (read : Url.read r.url.toList = .ok url) (c : Client) (n : Network) :
    replies n (c.execute r n).events = [replyTo n [] (r.send url.rooted)] := by
  rw [replies_execute_eq, (perform_apply c r n).1, (exchange_of_read _ read n).2, replies_exchangeWith]

theorem replies_attempt (c : Client) (r : Request) (k : Nat) (n : Network) :
    replies n (c.attempt r k n).events = replies n (c.execute r n).events := by
  apply replies_bind_quiet
  intro outcome
  cases outcome with
  | ok t => exact quiet_pure _
  | error f => exact quiet_bind (quietness.reportAttempt r k f) fun _ => quiet_pure _

/-! ### Rounds -/

variable {p : RetryPolicy} {k : Nat}

theorem replies_last (p : RetryPolicy) (c : Client) (r : Request) (k : Nat) (n : Network) :
    replies n (p.announcement k n :: (c.attempt r k n).events) = replies n (c.execute r n).events :=
  replies_attempt c r k n

theorem follows_waited (p : RetryPolicy) (c : Client) (r : Request) (k : Nat) (n : Network) :
    Follows n (requests (c.attempt r k n).events) (p.waited k (c.attempt r k n).network) :=
  ⟨(tracks_attempt r k n).epoch, (tracks_attempt r k n).servers⟩

theorem replies_again (level : Level) (message : String) (es : List Event) :
    replies n (p.announcement k n :: ((c.attempt r k n).events ++ .log level message ::
      .wait (p.wait (c.attempt r k n).network.jitter k) :: es)) =
      replies n (c.execute r n).events ++ replies (p.waited k (c.attempt r k n).network) es := by
  rw [← replies_attempt c r k n]
  exact replies_append (follows_waited p c r k n) _

end Client

end Bearer
