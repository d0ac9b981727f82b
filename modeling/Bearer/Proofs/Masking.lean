import Bearer.Proofs.Failures
import Bearer.Proofs.TokenInfo.Grammar

/-!
What a fallback covers. An endpoint that cannot be reached, breaks off, refuses the credentials, fails on
its own or talks nonsense is covered by a fallback in good order, however often each of them is tried. Two
replies are not: a body that nests too deep for the JSON reader, and a redirection to a place whose host
cannot be read. They fail with what is no failure of the library, and `fallback_masks_iff` says that
nothing else does.
-/

namespace Bearer

open FieldParser (TooDeep)

/-! ### Kinds of replies -/

/-- A failure of the HTTP layer, at whatever point, or an answer that does not blame the request. -/
inductive Tolerable : Option (Except Failure Answer) → Prop
  | failed {f : Failure} (transport : f.kind.isTransport = true) : Tolerable (some (.error f))
  | brokenOff {a : Answer} {k : Nat} {f : Failure} (broken : a.breakAfter = some (k, f))
    (transport : f.kind.isTransport = true) : Tolerable (some (.ok a))
  | answered {a : Answer} (complete : a.breakAfter = none)
    (status : a.status = 401 ∨ ¬ (400 ≤ a.status ∧ a.status < 500)) : Tolerable (some (.ok a))

/-- A complete answer of status 200 within a limit, whose body the parser accepts. -/
inductive Healthy (p : FieldParser) (depth : Nat) (limit : Int) : Option (Except Failure Answer) → Prop
  | answered {a : Answer} {now : Double} {t : TokenInfo} (status : a.status = 200)
    (complete : a.breakAfter = none) (fits : a.Fits limit)
    (accepted : p.parse depth now a.chunks.flatten = .ok t) : Healthy p depth limit (some (.ok a))

inductive Escapes (depth : Nat) (limit : Int) (r : Request) : Option (Except Failure Answer) → Prop
  | place {a : Answer} {asked : Url} {place : String} {e : DomainName.Error}
    (leads : (Url.read r.url.toList).map Url.rooted = .ok asked) (redirected : a.redirect? = some place)
    (lost : Redirect.target asked place.toList = .error (.unreadableHost e)) : Escapes depth limit r (some (.ok a))
  | body {a : Answer} (status : a.status = 200) (complete : a.breakAfter = none) (fits : a.Fits limit)
    (deep : TooDeep depth a.chunks.flatten) : Escapes depth limit r (some (.ok a))

/-! ### Failures that another endpoint need not share -/

theorem allowsFallback_of_isRetryable {f : Failure} (h : f.isRetryable = true) :
    f.kind.allowsFallback = true := by
  unfold Failure.isRetryable at h
  cases kind : f.kind <;> rw [kind] at h <;> first | rfl | cases h

theorem allowsFallback_ofFailure {endpoint : String} {place : Failure → ExchangeError} {f : Failure}
    (transport : f.kind.isTransport = true) (allowed : (place f).toFailure.kind.allowsFallback = true) :
    (ExchangeError.ofFailure endpoint place f).toFailure.kind.allowsFallback = true := by
  unfold ExchangeError.ofFailure
  split
  · rfl
  · exact allowed

theorem allowsFallback_refusal {r : Response}
    (tolerable : r.status = 401 ∨ ¬ (400 ≤ r.status ∧ r.status < 500)) :
    r.refusal.kind.allowsFallback = true := by
  unfold Response.refusal
  rcases tolerable with refused | other
  · rw [if_pos refused]
    rfl
  · split
    · rfl
    · split <;> rfl

theorem parsed_cases {p : FieldParser} {depth : Nat} {now : Double} {r : Response} {f : Failure}
    (status : r.status = 200) (h : r.tokenInfo (p.toParser depth) now = .error f) : f.kind.allowsFallback = true ∨ TooDeep depth r.body := by
  rw [Response.tokenInfo, if_pos status] at h
  unfold FieldParser.toParser at h
  cases parsed : p.parse depth now r.body with
  | ok t => rw [parsed] at h; cases h
  | error e =>
    rw [parsed] at h
    obtain rfl : Response.ofParser e.toFailure = f := Except.error.inj h
    obtain ⟨deep, -⟩ | ⟨-, kind⟩ := FieldParser.kind_of_parse parsed
    · exact .inr deep
    · have own : e.toFailure.kind = .tokenInfoParse := kind
      rw [Response.ofParser, if_pos own]
      exact .inl rfl

namespace Client

variable {c : Client} {p : FieldParser} {depth : Nat} {r : Request} {n : Network} {now : Double}
  {rs : List (Option (Except Failure Answer))} {result : Except Failure TokenInfo}

/-! ### One execution -/

theorem redirect_escapes {limit : Int} {asked : Url} {a : Answer} {e : ExchangeError}
    (leads : (Url.read r.url.toList).map Url.rooted = .ok asked)
    (refused : a.redirectError? r.endpoint asked = some e) :
    e.toFailure.kind.allowsFallback = true ∨ Escapes depth limit r (some (.ok a)) := by
  obtain ⟨place, lost, redirected, found, rfl⟩ := target_of_redirectError? refused
  cases lost with
  | unread => exact .inl rfl
  | unjoined => exact .inl rfl
  | unreadableHost => exact .inr (.place leads redirected found)

theorem allowsFallback_of_read {endpoint : String} {limit : Int} {a : Answer} {e : ExchangeError}
    (transport : ∀ k f, a.breakAfter = some (k, f) → f.kind.isTransport = true)
    (failed : a.read endpoint limit = .error e) : e.toFailure.kind.allowsFallback = true := by
  have read := readAs_read a endpoint limit
  rw [failed] at read
  cases read with
  | declared => rfl
  | tooLarge => rfl
  | brokenOff _ broken => exact allowsFallback_ofFailure (transport _ _ broken) rfl

theorem answer_escapes {limit : Int} {asked : Url} {host : String} {a : Answer} {e : ExchangeError}
    (leads : (Url.read r.url.toList).map Url.rooted = .ok asked)
    (transport : ∀ k f, a.breakAfter = some (k, f) → f.kind.isTransport = true)
    (h : received limit r asked host (some (.ok a)) = .error e) :
    e.toFailure.kind.allowsFallback = true ∨ Escapes depth limit r (some (.ok a)) := by
  cases refused : a.redirectError? r.endpoint asked with
  | some refusal =>
    rw [received_of_refused refused] at h
    obtain rfl := Except.error.inj h
    exact redirect_escapes leads refused
  | none =>
    rw [received_of_stays refused] at h
    exact .inl (allowsFallback_of_read transport h)

theorem received_escapes {limit : Int} {asked : Url} {host : String} {reply : Option (Except Failure Answer)}
    {e : ExchangeError} (leads : (Url.read r.url.toList).map Url.rooted = .ok asked) (tolerable : Tolerable reply)
    (h : received limit r asked host reply = .error e) :
    e.toFailure.kind.allowsFallback = true ∨ Escapes depth limit r reply := by
  cases tolerable with
  | failed transport =>
    obtain rfl := Except.error.inj h
    exact .inl (allowsFallback_ofFailure transport rfl)
  | brokenOff breaks transport =>
    refine answer_escapes leads (fun k f broken => ?_) h
    rw [breaks] at broken
    obtain ⟨-, rfl⟩ := Prod.mk.inj (Option.some.inj broken)
    exact transport
  | answered complete =>
    refine answer_escapes leads (fun k f broken => ?_) h
    rw [complete] at broken
    cases broken

theorem received_ok_whole {limit : Int} {asked : Url} {host : String} {reply : Option (Except Failure Answer)}
    {response : Response} (h : received limit r asked host reply = .ok response) :
    ∃ a, reply = some (.ok a) ∧ a.breakAfter = none ∧ a.Fits limit ∧
      response = ⟨a.status, a.chunks.flatten⟩ := by
  obtain ⟨a, rfl, whole⟩ := received_ok h
  have read := readAs_read a r.endpoint limit
  rw [whole] at read
  cases read with
  | whole complete fits => exact ⟨a, rfl, complete, fits, rfl⟩

/-- A tolerable reply fails in a way that allows no fallback only if none covers it. -/
theorem Executed.escapes (parser : c.parser = p.toParser depth) {f : Failure}
    (h : Executed c r now rs (.error f)) (tolerable : ∀ x ∈ rs, Tolerable x) :
    f.kind.allowsFallback = true ∨ ∃ x ∈ rs, Escapes depth c.maxResponseBytes r x := by
  obtain ⟨outcome, exchanged, same⟩ := h
  cases exchanged with
  | unreadable read =>
    obtain rfl := Except.error.inj same
    exact .inl rfl
  | noHost => cases tolerable _ List.mem_cons_self
  | @received url name read readable reply =>
    have tolerable := tolerable reply List.mem_cons_self
    cases came : received c.maxResponseBytes r _ _ reply with
    | error e =>
      rw [came] at same
      obtain rfl : f = e.toFailure := Except.error.inj same
      have leads : (Url.read r.url.toList).map Url.rooted = .ok url.rooted := by rw [read]; rfl
      have escaped : e.toFailure.kind.allowsFallback = true ∨ Escapes depth c.maxResponseBytes r reply :=
        received_escapes leads tolerable came
      exact escaped.imp_right fun escapes => ⟨reply, List.mem_cons_self, escapes⟩
    | ok response =>
      obtain ⟨a, rfl, complete, fits, rfl⟩ := received_ok_whole came
      rw [came] at same
      have parsed : Response.tokenInfo (p.toParser depth) now ⟨a.status, a.chunks.flatten⟩ = .error f :=
        parser ▸ same.symm
      by_cases status : a.status = 200
      · refine (parsed_cases status parsed).imp_right fun deep => ?_
        exact ⟨_, List.mem_cons_self, .body status complete fits deep⟩
      · rw [Response.tokenInfo, if_neg status] at parsed
        obtain rfl := Except.error.inj parsed
        refine .inl (allowsFallback_refusal ?_)
        cases tolerable with
        | answered _ status => exact status
        | brokenOff broken =>
          rw [complete] at broken
          cases broken

theorem received_of_fits {limit : Int} {a : Answer} (status : a.status = 200)
    (complete : a.breakAfter = none) (fits : a.Fits limit) (asked : Url) (host : String) :
    received limit r asked host (some (.ok a)) = .ok ⟨200, a.chunks.flatten⟩ := by
  rw [received_of_stays (stays_of_status status r.endpoint asked), read_of_fits complete fits, status]

theorem Executed.blocked (parser : c.parser = p.toParser depth) (h : Executed c r now rs result)
    {reply : Option (Except Failure Answer)} (member : reply ∈ rs)
    (escapes : Escapes depth c.maxResponseBytes r reply) :
    ∃ f, result = .error f ∧ f.kind.allowsFallback = false := by
  obtain ⟨outcome, exchanged, rfl⟩ := h
  cases exchanged with
  | unreadable read => cases member
  | noHost =>
    obtain rfl := List.mem_singleton.1 member
    cases escapes
  | received read readable reply =>
    obtain rfl := List.mem_singleton.1 member
    cases escapes with
    | place leads redirected lost =>
      rw [read] at leads
      obtain rfl := Except.ok.inj leads
      rw [received_of_refused (redirectError?_of_target redirected lost r.endpoint)]
      exact ⟨_, rfl, rfl⟩
    | body status complete fits deep =>
      obtain ⟨f, refused, kind⟩ : ∃ f, p.toParser depth now _ = .error f ∧ f.kind = .foreign "RecursionError" :=
        FieldParser.toParser_of_tooDeep deep
      refine ⟨f, ?_, by rw [kind]; rfl⟩
      have own : Response.ofParser f = f := by rw [Response.ofParser, if_neg (by rw [kind]; decide)]
      rw [received_of_fits status complete fits]
      show Response.tokenInfo c.parser now ⟨200, _⟩ = .error f
      rw [Response.tokenInfo, if_pos rfl, parser, refused, mapError_error, own]

theorem Executed.blocked_iff (parser : c.parser = p.toParser depth) (h : Executed c r now rs result)
    (tolerable : ∀ x ∈ rs, Tolerable x) : (∃ f, result = .error f ∧ f.kind.allowsFallback = false) ↔
      ∃ x ∈ rs, Escapes depth c.maxResponseBytes r x := by
  constructor
  · rintro ⟨f, rfl, blocked⟩
    obtain allowed | escapes := h.escapes parser tolerable
    · rw [blocked] at allowed
      cases allowed
    · exact escapes
  · rintro ⟨x, member, escapes⟩
    exact h.blocked parser member escapes

/-! ### Calls -/

variable {budget : Option Budget}

theorem blocked_call_iff (parser : c.parser = p.toParser depth)
    (within : ∀ b, budget = some b → b.isExhausted = false)
    (tolerable : ∀ x ∈ replies n (c.call budget r n).events, Tolerable x) :
    (∃ f, (c.call budget r n).result = .error f ∧ f.kind.allowsFallback = false) ↔
      ∃ x ∈ replies n (c.call budget r n).events, Escapes depth c.maxResponseBytes r x := by
  have one (n : Network) (tolerable : ∀ x ∈ replies n (c.execute r n).events, Tolerable x) :
      (∃ f, (c.execute r n).result = .error f ∧ f.kind.allowsFallback = false) ↔
        ∃ x ∈ replies n (c.execute r n).events, Escapes depth c.maxResponseBytes r x := by
    exact (executed_execute c r n).blocked_iff parser tolerable
  cases budget with
  | none => exact one n tolerable
  | some b =>
    rw [call_within (within b rfl)] at tolerable ⊢
    revert tolerable
    refine RetryPolicy.attemptFrom_induction (motive := fun _ _ n run =>
      (∀ x ∈ replies n run.events, Tolerable x) →
        ((∃ f, run.result = .error f ∧ f.kind.allowsFallback = false) ↔
          ∃ x ∈ replies n run.events, Escapes depth c.maxResponseBytes r x)) ?_ ?_ _ _ n
    · intro _ k n _ tolerable
      rw [replies_last] at tolerable ⊢
      rw [result_attempt]
      exact one n tolerable
    · intro _ k n f rest failed retryable _ ih tolerable
      dsimp only at tolerable ⊢
      rw [replies_again] at tolerable ⊢
      simp only [List.mem_append, or_imp, forall_and] at tolerable
      rw [ih tolerable.2]
      -- what may pass is none of the replies in question
      have first : ¬ ∃ x ∈ replies n (c.execute r n).events, Escapes depth c.maxResponseBytes r x := by
        rw [← one n tolerable.1, ← result_attempt c r k n, failed]
        rintro ⟨g, same, blocked⟩
        obtain rfl := Except.error.inj same
        rw [allowsFallback_of_isRetryable retryable] at blocked
        cases blocked
      simp only [List.mem_append, or_and_right, exists_or]
      exact ⟨.inr, fun h => h.resolve_left first⟩

theorem Executed.granted (parser : c.parser = p.toParser depth) (h : Executed c r now rs result) {url : Url}
    (read : Url.read r.url.toList = .ok url) (healthy : ∀ x ∈ rs, Healthy p depth c.maxResponseBytes x) :
    ∃ t, result = .ok t := by
  obtain ⟨outcome, exchanged, rfl⟩ := h
  cases exchanged with
  | unreadable unread => cases read.symm.trans unread
  | noHost => cases healthy _ List.mem_cons_self
  | received read readable reply =>
    cases healthy reply List.mem_cons_self with
    | answered status complete fits accepted =>
      obtain ⟨t, parsed⟩ := FieldParser.exists_parse accepted now
      refine ⟨t, ?_⟩
      rw [received_of_fits status complete fits]
      show Response.tokenInfo c.parser now ⟨200, _⟩ = .ok t
      rw [Response.tokenInfo, if_pos rfl, parser, FieldParser.toParser_eq_ok_iff.2 parsed, mapError_ok]

theorem granted_call (parser : c.parser = p.toParser depth)
    (within : ∀ b, budget = some b → b.isExhausted = false) {url : Url}
    (read : Url.read r.url.toList = .ok url)
    (healthy : ∀ x ∈ replies n (c.call budget r n).events, Healthy p depth c.maxResponseBytes x) :
    ∃ t, (c.call budget r n).result = .ok t := by
  have one (n : Network)
      (healthy : ∀ x ∈ replies n (c.execute r n).events, Healthy p depth c.maxResponseBytes x) :
      ∃ t, (c.execute r n).result = .ok t := by
    exact (executed_execute c r n).granted parser read healthy
  cases budget with
  | none => exact one n healthy
  | some b =>
    rw [call_within (within b rfl)] at healthy ⊢
    revert healthy
    refine RetryPolicy.attemptFrom_induction (motive := fun _ _ n run =>
      (∀ x ∈ replies n run.events, Healthy p depth c.maxResponseBytes x) → ∃ t, run.result = .ok t) ?_ ?_ _ _ n
    · intro _ k n _ healthy
      rw [replies_last] at healthy
      rw [result_attempt]
      exact one n healthy
    · -- a healthy reply leaves nothing to retry
      intro _ k n f rest failed _ _ _ healthy
      dsimp only at healthy
      rw [replies_again] at healthy
      obtain ⟨t, granted⟩ := one n fun x member => healthy x (List.mem_append_left _ member)
      rw [← result_attempt c r k n, failed] at granted
      cases granted

/-! ### Both endpoints -/

/-- The replies to a call of a token: the endpoint's are tolerable, and the fallback's, if it is asked, are
healthy. -/
structure Served (c : Client) (p : FieldParser) (depth : Nat) (budget : Option Budget) (token : String) (n : Network) :
    Prop where
  endpoint : ∀ x ∈ replies n (c.ask budget token false n).events, Tolerable x
  fallback : ∀ f, (c.ask budget token false n).result = .error f → f.kind.allowsFallback = true →
    let m := (c.ask budget token false n).network
    ∀ x ∈ replies m (c.ask budget token true m).events, Healthy p depth c.maxResponseBytes x

def Uncovered (c : Client) (depth : Nat) (token : String) (reply : Option (Except Failure Answer)) : Prop :=
  ∃ r, c.endpoint.request token false = .ok r ∧ Escapes depth c.maxResponseBytes r reply

/-- Can the URL of every request to the fallback be read? -/
def FallbackReads (c : Client) (token : String) : Prop :=
  ∀ r, c.endpoint.request token true = .ok r → ∃ url, Url.read r.url.toList = .ok url

theorem not_granted_of_unread (within : ∀ b, budget = some b → b.isExhausted = false) {e : Url.Error}
    (unread : Url.read r.url.toList = .error e) : ¬ ∃ t, (c.call budget r n).result = .ok t := by
  rintro ⟨t, brought⟩
  obtain ⟨m, -, result⟩ := lastExecution_call within c r n
  rw [brought, result_of_unread unread] at result
  cases result

section

variable {fields : Json.Members} {backup token : String} {raw : GivenToken}
  (accepted : Endpoint.ofFields fields = .ok c.endpoint) (nonempty : c.endpoint.endpoint ≠ "")
  (given : c.endpoint.fallback = some backup) (nonempty' : backup ≠ "")
  (parser : c.parser = p.toParser depth) (normalized : raw.accept = .ok token)
include accepted given nonempty' normalized

theorem fallbackReads_of_named (named : ¬ (c.endpoint.method = .get ∧
      c.endpoint.queryParameter.filter (!·.isEmpty) = none ∧ BareScheme backup))
    (short : ∀ r, c.endpoint.request token true = .ok r → r.url.length ≤ Url.maxLength) :
    c.FallbackReads token := by
  intro r made
  have asked : c.endpoint.asked true = some backup := given
  obtain ⟨r', made', leads⟩ := (Endpoint.sound_iff accepted asked).2 ⟨nonempty', named⟩ raw token normalized
  obtain rfl := Except.ok.inj (made'.symm.trans made)
  obtain ⟨url, -, read, -⟩ := leads (short r' made)
  exact ⟨url, read⟩

include nonempty parser

theorem introspectWithin_masks_iff (within : ∀ b, budget = some b → b.isExhausted = false)
    (served : c.Served p depth budget token n) : (∃ t, (c.introspectWithin budget raw n).result = .ok t) ↔
      (∀ x ∈ replies n (c.ask budget token false n).events, ¬ c.Uncovered depth token x) ∧
        ∀ f, (c.ask budget token false n).result = .error f → c.FallbackReads token := by
  have asked : c.endpoint.asked false = some c.endpoint.endpoint := rfl
  have asked' : c.endpoint.asked true = some backup := given
  obtain ⟨first, made⟩ := Endpoint.exists_request accepted asked nonempty token
  obtain ⟨second, made'⟩ := Endpoint.exists_request accepted asked' nonempty' token
  obtain ⟨tolerable, healthy⟩ := served
  have uncovered (x : Option (Except Failure Answer)) :
      c.Uncovered depth token x ↔ Escapes depth c.maxResponseBytes first x := by
    refine ⟨fun ⟨r, remade, escapes⟩ => ?_, fun escapes => ⟨first, made, escapes⟩⟩
    obtain rfl := Except.ok.inj (made.symm.trans remade)
    exact escapes
  have blocked : (∃ f, (c.ask budget token false n).result = .error f ∧ f.kind.allowsFallback = false) ↔
      ∃ x ∈ replies n (c.ask budget token false n).events, c.Uncovered depth token x := by
    simp only [uncovered]
    rw [ask_of_request made] at tolerable ⊢
    exact blocked_call_iff parser within tolerable
  have covered : (∀ x ∈ replies n (c.ask budget token false n).events, ¬ c.Uncovered depth token x) ↔
      ¬ ∃ f, (c.ask budget token false n).result = .error f ∧ f.kind.allowsFallback = false := by
    rw [blocked]
    simp only [not_exists, not_and]
  rw [covered, (introspectWithin_of_accepted normalized budget n).2]
  simp only [mapError_eq_ok_iff]
  cases came : (c.ask budget token false n).result with
  | ok t =>
    rw [askBoth_stays (by simp [came]), came]
    simp
  | error f =>
    cases allowed : f.kind.allowsFallback with
    | true =>
      have switches : (f.kind.allowsFallback && c.endpoint.fallback.isSome) = true := by simp [allowed, given]
      rw [askBoth_switches came switches]
      have healthy := healthy f came allowed
      rw [ask_of_request made'] at healthy ⊢
      constructor
      · intro brought
        refine ⟨fun ⟨g, same, refused⟩ => ?_, fun _ _ r remade => ?_⟩
        · obtain rfl := Except.error.inj same
          cases allowed.symm.trans refused
        · obtain rfl := Except.ok.inj (made'.symm.trans remade)
          cases read : Url.read second.url.toList with
          | ok url => exact ⟨url, rfl⟩
          | error e => exact absurd brought (not_granted_of_unread within read)
      · rintro ⟨-, reads⟩
        obtain ⟨url, read⟩ := reads f rfl second made'
        exact granted_call parser within read healthy
    | false =>
      rw [askBoth_stays (by simp [came, allowed]), came]
      exact iff_of_false (by simp) fun h => h.1 ⟨f, rfl, allowed⟩

/-- An introspection brings token information, whatever tolerable replies the endpoint gives, if the replies
of the fallback are healthy: exactly those are not covered that fail with what is no failure of the
library. The URL of the fallback must be one that can be read, which it is unless it is too long or, with
the token in the path, a bare scheme. -/
theorem fallback_masks_iff (n : Network) :
    ((∀ r, c.endpoint.request token true = .ok r → r.url.length ≤ Url.maxLength) →
      ¬ (c.endpoint.method = .get ∧ c.endpoint.queryParameter.filter (!·.isEmpty) = none ∧
        BareScheme backup) → c.FallbackReads token) ∧
    (c.Served p depth none token n → ((∃ t, (c.introspect raw n).result = .ok t) ↔
      (∀ x ∈ replies n (c.ask none token false n).events, ¬ c.Uncovered depth token x) ∧
        ∀ f, (c.ask none token false n).result = .error f → c.FallbackReads token)) ∧
    ∀ budget, (budget.getD c.budget).isExhausted = false →
      c.Served p depth (some (budget.getD c.budget)) token n →
        ((∃ t, (c.introspectWithRetry raw budget n).result = .ok t) ↔
          (∀ x ∈ replies n (c.ask (some (budget.getD c.budget)) token false n).events,
            ¬ c.Uncovered depth token x) ∧
          ∀ f, (c.ask (some (budget.getD c.budget)) token false n).result = .error f →
            c.FallbackReads token) := by
  refine ⟨fun short named => ?_, fun served => ?_, fun budget within served => ?_⟩
  · exact fallbackReads_of_named accepted given nonempty' normalized named short
  · refine introspectWithin_masks_iff accepted nonempty given nonempty' parser normalized ?_ served
    intro b none
    cases none
  · refine introspectWithin_masks_iff accepted nonempty given nonempty' parser normalized ?_ served
    intro b same
    obtain rfl := Option.some.inj same
    exact within

end

def covered : Client where
  endpoint := { endpoint := "https://a.example/i", fallback := some "https://b.example/i", method := .post }
  parser := FieldParser.planB.toParser 1000
  budget := .double (.ofInt 1)

def granted : Answer where
  status := 200
  chunks := [Utf8.encode "\x7b\"uid\": \"mjw\", \"expires_in\": 1\x7d".toList]

def facing (a : Answer) : Network where
  servers := [("a.example", ⟨⟨.zero, .ok a⟩, []⟩), ("b.example", ⟨⟨.zero, .ok granted⟩, []⟩)]

theorem accepted_covered : Endpoint.ofFields [("endpoint", .str "https://a.example/i"),
    ("fallback_endpoint", .str "https://b.example/i"), ("method", .str "POST")] = .ok covered.endpoint := by
  decide +kernel

theorem short_covered (token : String) (fallback : Bool) (r : Request)
    (made : covered.endpoint.request token fallback = .ok r) : r.url.length ≤ Url.maxLength := by
  obtain ⟨url, asked, fits⟩ : ∃ url, covered.endpoint.asked fallback = some url ∧
      url.length ≤ Url.maxLength := by
    cases fallback with
    | false => exact ⟨"https://a.example/i", rfl, by decide⟩
    | true => exact ⟨"https://b.example/i", rfl, by decide⟩
  obtain ⟨r', made', rfl⟩ := Endpoint.request_of_post rfl asked token
  obtain rfl := Except.ok.inj (made'.symm.trans made)
  exact fits

theorem healthy_granted : Healthy .planB 1000 covered.maxResponseBytes (some (.ok granted)) := by
  have accepted : FieldParser.planB.parse 1000 .zero granted.chunks.flatten =
      .ok { userId := some "mjw", expiresIn := some 1 } := by decide +kernel
  refine .answered rfl rfl ⟨fun size declared => ?_, .inr (by decide +kernel)⟩ accepted
  cases declared

theorem replies_ask_alone {fallback : Bool} (url name : String) {reply : Reply}
    (asked : covered.endpoint.asked fallback = some url)
    (leads : (Url.read url.toList).map (·.rooted.readableHost) = .ok (.ok name.toList))
    (found : n.servers.lookup name = some ⟨reply, []⟩) (token : String) :
    replies n (covered.ask none token fallback n).events = [some reply.answer] := by
  obtain ⟨r, made, rfl⟩ := Endpoint.request_of_post rfl asked token
  obtain ⟨u, read, readable⟩ := map_eq_ok_iff.1 leads
  have readable : (r.send u.rooted).url.readableHost = .ok name.toList := readable
  have same : String.ofList name.toList = name := String.ofList_toList
  rw [ask_of_request made]
  show replies n (covered.execute r n).events = _
  rw [replies_execute read, replyTo_alone readable (same.symm ▸ found)]

theorem replies_covered (a : Answer) :
    replies (facing a) (covered.ask none "t" false (facing a)).events = [some (.ok a)] := by
  have found : (facing a).servers.lookup "a.example" = some ⟨⟨.zero, .ok a⟩, []⟩ := rfl
  exact replies_ask_alone "https://a.example/i" "a.example" rfl (by decide +kernel) found "t"

theorem served_covered {a : Answer} (tolerable : Tolerable (some (.ok a))) :
    covered.Served .planB 1000 none "t" (facing a) := by
  refine ⟨fun x member => ?_, fun f _ _ x member => ?_⟩
  · rw [replies_covered] at member
    obtain rfl := List.mem_singleton.1 member
    exact tolerable
  · have found : (covered.ask none "t" false (facing a)).network.servers.lookup "b.example" =
        some ⟨⟨.zero, .ok granted⟩, []⟩ := by
      have before : (facing a).servers.lookup "b.example" = some ⟨⟨.zero, .ok granted⟩, []⟩ := rfl
      rw [(tracks_ask "t" false (facing a)).servers, before, Option.map_some, Function.iterate_fixed rfl]
    rw [replies_ask_alone "https://b.example/i" "b.example" rfl (by decide +kernel) found "t"] at member
    obtain rfl := List.mem_singleton.1 member
    exact healthy_granted

/-- The endpoint fails with status 503, and the fallback answers. -/
theorem fallback_masks_unavailable :
    let n := facing { status := 503 }
    covered.Served .planB 1000 none "t" n ∧ (covered.introspect " t " n).result =
      .ok { userId := some "mjw", expiresIn := some 1 } ∧
      ∃ t, (covered.introspect " t " n).result = .ok t := by
  intro n
  have normalized : GivenToken.accept " t " = .ok "t" := by decide +kernel
  have served : covered.Served .planB 1000 none "t" n := served_covered (.answered rfl (.inr (by decide)))
  obtain ⟨reads, masks, -⟩ := fallback_masks_iff accepted_covered (by decide) rfl (by decide) rfl normalized n
  have reads := reads (short_covered "t" true) (by simp [covered])
  refine ⟨served, by decide +kernel, (masks served).2 ⟨fun x member => ?_, fun _ _ => reads⟩⟩
  rw [replies_covered] at member
  obtain rfl := List.mem_singleton.1 member
  rintro ⟨r, -, escapes⟩
  cases escapes with
  | place _ redirected => cases redirected
  | body status => cases status

/-- Enough brackets from the endpoint are an outage, although the fallback is in good order. -/
theorem not_every_endpoint_masked :
    ¬ ∀ (c : Client) (p : FieldParser) (depth : Nat) (fields : Json.Members) (backup token : String)
      (given : GivenToken) (n : Network),
      Endpoint.ofFields fields = .ok c.endpoint → c.endpoint.endpoint ≠ "" →
      c.endpoint.fallback = some backup → backup ≠ "" → c.parser = p.toParser depth →
      (∀ fallback r, c.endpoint.request token fallback = .ok r → r.url.length ≤ Url.maxLength) →
      given.accept = .ok token → c.Served p depth none token n →
      ∃ t, (c.introspect given n).result = .ok t := by
  intro always
  let a : Answer := { status := 200, chunks := [List.replicate 5000 0x5b] }
  have normalized : GivenToken.accept " t " = .ok "t" := by decide +kernel
  have served : covered.Served .planB 1000 none "t" (facing a) := served_covered (.answered rfl (.inr (by decide)))
  have brought := always covered .planB 1000 _ "https://b.example/i" "t" " t " (facing a) accepted_covered
    (by decide) rfl (by decide) rfl (short_covered "t") normalized served
  have body : a.chunks.flatten = List.replicate 5000 0x5b := List.append_nil _
  have deep : TooDeep 1000 a.chunks.flatten := by
    have deep := FieldParser.tooDeep_brackets (by decide : 1000 < 5000) []
    rwa [List.append_nil, FieldParser.encode_brackets, ← body] at deep
  have fits : a.Fits covered.maxResponseBytes := by
    refine ⟨fun size declared => ?_, .inr ?_⟩
    · cases declared
    · rw [body, List.length_replicate]
      decide
  refine ((introspectWithin_masks_iff accepted_covered (by decide) rfl (by decide) rfl normalized (by simp)
    served).1 brought).1 _ ?_ ⟨_, rfl, .body rfl rfl fits deep⟩
  rw [replies_covered]
  exact List.mem_cons_self

end Client

end Bearer
