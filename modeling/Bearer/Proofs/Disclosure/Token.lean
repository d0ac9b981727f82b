import Bearer.Proofs.Https
import Bearer.Proofs.Likeness
import Bearer.Proofs.Runs

/-!
What becomes visible of a token and of a client secret. A token stands in the URL or the form of the
requests that ask about it; logs and spans hold its fingerprint. A client secret stands in
the authorization of requests only. So two runs that differ in these alone differ nowhere else
(`token_not_disclosed`), but for the traces of failures that are none of this library, which show the token, and for
tokens without an encoding, whose refusal tells a part of them (`token_disclosed`).
-/

namespace Bearer

/-- Requests that differ in nothing but where a token stands, unless the tokens are the same, and in the
authorization that is made of a secret, unless the secrets are the same. -/
structure Sent.Alike (sameToken sameSecret : Prop) (x y : Sent) : Prop where
  method : y.method = x.method
  accept : y.accept = x.accept
  contentType : y.contentType = x.contentType
  url : x.method = .post ∨ sameToken → y.url = x.url
  body : x.method = .get ∨ sameToken → y.body = x.body
  authorization : x.method = .get ∨ sameSecret → y.authorization = x.authorization

theorem Sent.Alike.mono {P P' Q : Prop} {x y : Sent} (h : Sent.Alike P Q x y) (stronger : P' → P) :
    Sent.Alike P' Q x y :=
  ⟨h.method, h.accept, h.contentType, fun same => h.url (same.imp_right stronger),
    fun same => h.body (same.imp_right stronger), h.authorization⟩

/-! ### Redirects -/

def Network.Sends (n : Network) (place : String) : Prop :=
  ∃ host script reply answer, (host, script) ∈ n.servers ∧ reply ∈ script.next :: script.later ∧
    reply.answer = .ok answer ∧ answer.redirect? = some place

theorem not_sends {n : Network} (stays : ∀ x ∈ n.servers, ∀ reply ∈ x.2.next :: x.2.later, ∀ a,
    reply.answer = .ok a → a.redirect? = none) (place : String) : ¬ n.Sends place := by
  rintro ⟨host, script, reply, answer, member, replied, answered, redirected⟩
  rw [stays (host, script) member reply replied answer answered] at redirected
  cases redirected

theorem mem_of_lookup {entries : List (String × α)} {name : String} {x : α} (found : entries.lookup name = some x) :
    (name, x) ∈ entries := by
  induction entries with
  | nil => cases found
  | cons entry entries ih =>
    obtain ⟨key, y⟩ := entry
    rw [List.lookup_cons] at found
    cases same : name == key with
    | true =>
      rw [same] at found
      obtain rfl := Option.some.inj found
      rw [eq_of_beq same]
      exact List.mem_cons_self
    | false =>
      rw [same] at found
      exact List.mem_cons_of_mem _ (ih found)

theorem sends_of_ask {n : Network} {host place : String} {a : Answer}
    (answered : (Action.ask host n).result = some (.ok a)) (redirected : a.redirect? = some place) : n.Sends place := by
  unfold Action.ask at answered
  split at answered
  · cases answered
  next script found =>
    exact ⟨host, script, script.next, a, mem_of_lookup found, List.mem_cons_self, Option.some.inj answered, redirected⟩

theorem mem_of_mem_advance {s : Script α} {x : α} (member : x ∈ s.advance.next :: s.advance.later) :
    x ∈ s.next :: s.later := by
  obtain ⟨next, later⟩ := s
  cases later with
  | nil => exact member
  | cons y ys => exact List.mem_cons_of_mem _ member

/-- Asking a server brings up no new place. -/
theorem sends_of_asked {n : Network} {host place : String} (sends : (Action.ask host n).network.Sends place) :
    n.Sends place := by
  unfold Action.ask at sends
  split at sends
  · exact sends
  · obtain ⟨name, script, reply, answer, member, replied, rest⟩ := sends
    obtain ⟨⟨name', script'⟩, member, same⟩ := List.mem_map.1 member
    refine ⟨name', script', reply, answer, member, ?_, rest⟩
    dsimp only at same
    split at same
    · obtain ⟨-, rfl⟩ := Prod.mk.inj same
      exact mem_of_mem_advance replied
    · obtain ⟨-, rfl⟩ := Prod.mk.inj same
      exact replied

/-- URLs that lead to one host, and to which the redirects to some places are refused for the same reasons. -/
structure Url.Alongside (sends : String → Prop) (url url' : Url) : Prop where
  host : ∃ host, url.readableHost = .ok host ∧ url'.readableHost = .ok host
  redirects : ∀ place, sends place → Redirect.refusal? url' place.toList = Redirect.refusal? url place.toList

theorem received_congr {limit : Int} {r r' : Request} {url url' : Url} {reply : Option (Except Failure Answer)}
    (endpoint : r'.endpoint = r.endpoint) (redirects : ∀ a place, reply = some (.ok a) → a.redirect? = some place →
      Redirect.refusal? url' place.toList = Redirect.refusal? url place.toList) (host : String) :
    received limit r url host reply = received limit r' url' host reply := by
  obtain _ | f | a := reply
  · rfl
  · rw [received, received, endpoint]
  · have same : a.redirectError? r'.endpoint url' = a.redirectError? r.endpoint url := by
      unfold Answer.redirectError?
      rw [endpoint]
      cases redirected : a.redirect? with
      | none => rfl
      | some place => rw [Option.bind_some, Option.bind_some, redirects a place rfl redirected]
    rw [received, received, same, endpoint]

/-! ### Requests -/

namespace Endpoint

variable {e : Endpoint} {fallback : Bool} {token token' : String} {r r' : Request}

/-- User information in front of a host is the endpoint's, whatever the token. -/
theorem userinfo_of_get {url front : String} {parameter : Option String}
    (found : urlPrefix url parameter = .ok front) : ∃ userinfo, ∀ token u,
      Url.read (front.toList ++ (quoteToken token).toList) = .ok u → u.userinfo = userinfo := by
  obtain ⟨scheme, rest, absolute⟩ | ⟨unnamed, scheme, valid, whole⟩ := of_urlPrefix found
  · obtain ⟨base, -, -, same⟩ := absolute.read_endpoint found
    refine ⟨base.userinfo, fun token u read => ?_⟩
    have origin := same _ u read
    simp only [Url.origin, Prod.mk.injEq] at origin
    exact origin.2.1
  · obtain ⟨rfl, -⟩ := checkUrl_of_urlPrefix found
    rw [toList_joinUrl_of_bare whole unnamed]
    exact ⟨[], fun token u read => (Url.of_read_plain (fun c => mem_quoteToken) valid read).1⟩

def withSecret (e : Endpoint) (secret : Option String) : Endpoint := { e with clientSecret := secret }

/-- Requests for two tokens, perhaps with two secrets, are made alike or are refused for the same reason. -/
theorem request_alike (e : Endpoint) (secret : Option String) (token token' : String) (fallback : Bool) :
    OutcomeAlike (fun r r' => r'.endpoint = r.endpoint ∧ (token' = token → r'.url = r.url))
      (e.request token fallback) ((e.withSecret secret).request token' fallback) := by
  have asked : (e.withSecret secret).asked fallback = e.asked fallback := rfl
  unfold request
  rw [asked]
  cases e.asked fallback with
  | none => exact .error _
  | some url =>
    have method : (e.withSecret secret).method = e.method := rfl
    have parameter : (e.withSecret secret).queryParameter = e.queryParameter := rfl
    dsimp only
    unfold requestTo
    rw [method, parameter]
    cases e.method with
    | post => exact .ok ⟨rfl, fun _ => rfl⟩
    | get =>
      dsimp only
      cases urlPrefix url e.queryParameter with
      | error refusal => exact .error _
      | ok front => exact .ok ⟨rfl, fun same => by rw [same]⟩

/-- The two forms of a request. -/
theorem of_request (made : e.request token fallback = .ok r) : ∃ url, e.asked fallback = some url ∧
    ((e.method = .post ∧ r = {
        method := .post, url, endpoint := url
        form := some [("token", token), ("token_type_hint", "access_token")]
        credentials := e.credentials }) ∨
      (e.method = .get ∧ ∃ front, urlPrefix url e.queryParameter = .ok front ∧
        r = { method := .get, url := front ++ quoteToken token, endpoint := url })) := by
  unfold request at made
  cases asked : e.asked fallback with
  | none =>
    rw [asked] at made
    cases made
  | some url =>
    refine ⟨url, rfl, ?_⟩
    rw [asked] at made
    dsimp only at made
    unfold requestTo at made
    cases method : e.method with
    | post =>
      rw [method] at made
      exact .inl ⟨rfl, (Except.ok.inj made).symm⟩
    | get =>
      rw [method] at made
      dsimp only at made
      cases found : urlPrefix url e.queryParameter with
      | error refusal =>
        rw [found] at made
        cases made
      | ok front =>
        rw [found] at made
        exact .inr ⟨rfl, front, rfl, (Except.ok.inj made).symm⟩

/-- What is sent differs in the URL or the form by the token, and in the authorization by the secret. -/
theorem send_alike {secret : Option String} (made : e.request token fallback = .ok r)
    (made' : (e.withSecret secret).request token' fallback = .ok r') (given : token ≠ "") (given' : token' ≠ "")
    {u u' : Url} (read : Url.read r.url.toList = .ok u) (read' : Url.read r'.url.toList = .ok u') :
    Sent.Alike (token' = token) (secret = e.clientSecret) (r.send u.rooted) (r'.send u'.rooted) := by
  obtain ⟨url, asked, form⟩ := of_request made
  obtain ⟨url', asked', form'⟩ := of_request made'
  have asked' : e.asked fallback = some url' := asked'
  obtain rfl := Option.some.inj (asked.symm.trans asked')
  rcases form with ⟨post, rfl⟩ | ⟨get, front, found, rfl⟩ <;>
    rcases form' with ⟨post', rfl⟩ | ⟨get', front', found', rfl⟩
  · obtain rfl := Except.ok.inj (read.symm.trans read')
    refine ⟨rfl, rfl, rfl, fun _ => rfl, ?_, ?_⟩
    · rintro (get | rfl)
      · cases get
      · rfl
    · rintro (get | rfl)
      · cases get
      · rfl
  · cases post.symm.trans get'
  · cases get.symm.trans post'
  · obtain rfl := Except.ok.inj (found.symm.trans found')
    dsimp only at read read'
    rw [String.toList_append] at read read'
    obtain ⟨userinfo, alone⟩ := userinfo_of_get found
    have credentials : u'.rooted.credentials? = u.rooted.credentials? := by
      have absolute := isAbsolute_of_get found given read
      have absolute' := isAbsolute_of_get found given' read'
      rw [Url.rooted, if_pos absolute', Url.rooted, if_pos absolute, Url.credentials?, Url.credentials?,
        alone _ u read, alone _ u' read']
    refine ⟨rfl, rfl, rfl, ?_, fun _ => rfl, fun _ => ?_⟩
    · rintro (post | rfl)
      · cases post
      · obtain rfl := Except.ok.inj (read.symm.trans read')
        rfl
    · show (_ <|> u'.rooted.credentials?).map _ = (_ <|> u.rooted.credentials?).map _
      rw [credentials]

/-- Have the requests of two endpoints for two tokens the same URL, or URLs that can be read, lead to one host and go
together with the same places? -/
def LeadAlike (e e' : Endpoint) (token token' : String) (sends : String → Prop) : Prop :=
  ∀ fallback r r', e.request token fallback = .ok r → e'.request token' fallback = .ok r' →
    r'.url = r.url ∨ ∃ url url', Url.read r.url.toList = .ok url ∧ Url.read r'.url.toList = .ok url' ∧
      Url.Alongside sends url.rooted url'.rooted

/-- Do the requests for a token lead to a host? -/
def LeadsTo (e : Endpoint) (token : String) (host : List Char) : Prop :=
  ∀ fallback r, e.request token fallback = .ok r →
    ∃ url, Url.read r.url.toList = .ok url ∧ url.rooted.readableHost = .ok host

/-- Where no server sends clients anywhere, it is enough to ask one host. -/
theorem leadAlike_of_leadsTo {e e' : Endpoint} {host : List Char} {sends : String → Prop}
    (nowhere : ∀ place, ¬ sends place) (leads : e.LeadsTo token host) (leads' : e'.LeadsTo token' host) :
    e.LeadAlike e' token token' sends := by
  intro fallback r r' made made'
  obtain ⟨url, read, readable⟩ := leads fallback r made
  obtain ⟨url', read', readable'⟩ := leads' fallback r' made'
  exact .inr ⟨url, url', read, read', ⟨host, readable, readable'⟩, fun place sent => absurd sent (nowhere place)⟩

theorem leadsTo_of_urlPrefix {host : List Char} {front : String} (method : e.method = .get)
    (alone : e.fallback = none) (found : urlPrefix e.endpoint e.queryParameter = .ok front)
    (leads : (Url.read (front ++ quoteToken token).toList).map (·.rooted.readableHost) = .ok (.ok host)) :
    e.LeadsTo token host := by
  intro fallback r made
  obtain ⟨asked, same, ⟨post, -⟩ | ⟨-, front', found', rfl⟩⟩ := of_request made
  · cases method.symm.trans post
  · cases fallback with
    | true => cases alone.symm.trans same
    | false =>
      obtain rfl := Option.some.inj same
      obtain rfl := Except.ok.inj (found.symm.trans found')
      obtain ⟨u, read, readable⟩ := map_eq_ok_iff.1 leads
      exact ⟨u, read, readable⟩

theorem leadAlike_withSecret (e : Endpoint) (secret : Option String) (token : String) (sends : String → Prop) :
    e.LeadAlike (e.withSecret secret) token token sends := by
  intro fallback r r' made made'
  have alike := request_alike e secret token token fallback
  rw [made, made'] at alike
  cases alike with
  | ok alike => exact .inl (alike.2 rfl)

end Endpoint

/-! ### Clients -/

namespace Client

def withSecret (c : Client) (secret : Option String) : Client :=
  { c with endpoint := c.endpoint.withSecret secret }

def apart (c : Client) (secret : Option String) (token token' : String) (sends : String → Prop) : Likeness :=
  .eventwise (fun n m => n = m ∧ ∀ place, n.Sends place → sends place)
    (by rintro _ _ ⟨rfl, -⟩; exact ⟨rfl, rfl, rfl⟩) (by rintro _ _ ⟨rfl, sends⟩ _; exact ⟨rfl, sends⟩)
    (Sent.Alike (token' = token) (secret = c.endpoint.clientSecret)) Eq (Token.fingerprint c.salt token)
    (Token.fingerprint c.salt token')

variable {c : Client} {secret : Option String} {x x' token token' : String} {sends : String → Prop}

section

variable (weaker : x' = x → token' = token) (given : token ≠ "") (given' : token' ≠ "")
  (leads : c.endpoint.LeadAlike (c.endpoint.withSecret secret) token token' sends)
include weaker given given' leads

/-- The URLs of two requests are read alike and get alike replies, as they are the same or stand alongside. -/
theorem read_alike {fallback : Bool} {r r' : Request} (made : c.endpoint.request token fallback = .ok r)
    (made' : (c.endpoint.withSecret secret).request token' fallback = .ok r') (endpoint : r'.endpoint = r.endpoint) :
    OutcomeAlike (fun url url' => (c.apart secret x x' sends).Places Eq c.maxResponseBytes c.maxResponseBytes r r'
      url.rooted url'.rooted) (Url.read r.url.toList) (Url.read r'.url.toList) := by
  have sent {u u' : Url} (read : Url.read r.url.toList = .ok u) (read' : Url.read r'.url.toList = .ok u') :
      (c.apart secret x x' sends).events [.request (r.send u.rooted)] [.request (r'.send u'.rooted)] :=
    .cons (.request ((Endpoint.send_alike made made' given given' read read').mono weaker)) .nil
  have places {u u' : Url} (read : Url.read r.url.toList = .ok u) (read' : Url.read r'.url.toList = .ok u')
      (host : u'.rooted.readableHost = u.rooted.readableHost)
      (redirects : ∀ place, sends place →
        Redirect.refusal? u'.rooted place.toList = Redirect.refusal? u.rooted place.toList) :
      (c.apart secret x x' sends).Places Eq c.maxResponseBytes c.maxResponseBytes r r' u.rooted u'.rooted := by
    refine ⟨host, sent read read', ?_⟩
    -- one network gives one reply to both requests
    rintro host n _ ⟨rfl, known⟩
    refine ⟨outcomeAlike_eq.2 (received_congr endpoint (fun a place answered redirected => ?_) host), ?_, rfl, ?_⟩
    · exact redirects place (known place (sends_of_ask answered redirected))
    · rw [events_ask]
      exact .nil
    · exact fun place sends => known place (sends_of_asked sends)
  rcases leads fallback r r' made made' with same | ⟨u, u', read, read', ⟨host, readable, readable'⟩, redirects⟩
  · rw [same] at places ⊢
    cases read : Url.read r.url.toList with
    | error e => exact .error e
    | ok u => exact .ok (places read read rfl fun _ _ => rfl)
  · rw [read, read']
    exact .ok (places read read' (readable'.trans readable.symm) redirects)

theorem asked_apart : (c.apart secret x x' sends).Asked Eq c (c.withSecret secret) token token' := by
  intro fallback
  refine (c.endpoint.request_alike secret token token' fallback).strengthen fun r r' made made' alike =>
    ⟨alike.1, ?_⟩
  apply Likeness.pairs_execute fun s => Likeness.pairs_tell c.listening s
  · exact Likeness.pairs_exchange alike.1 (read_alike weaker given given' leads made made' alike.1)
  · rintro response _ rfl now
    exact outcomeAlike_refl (fun _ => rfl) _
  · exact fun x y executed => .cons (.execution executed.outcome) .nil

end

theorem clients_apart (c : Client) (secret : Option String) (x x' : String) (sends : String → Prop) :
    (c.apart secret x x' sends).Clients Eq c (c.withSecret secret) where
  policy := rfl
  budget := rfl
  endpoint := rfl
  fallback := rfl
  told s := Likeness.pairs_tell c.listening s
  active := by
    rintro t _ rfl
    rfl

/-- Two tokens, one for each run, or one for both. -/
theorem tokens_apart {given given' t t' : GivenToken} (accepted : given.accept = .ok x)
    (accepted' : given'.accept = .ok x')
    (leads : c.endpoint.LeadAlike (c.endpoint.withSecret secret) x x' sends)
    (pair : t' = t ∨ t = given ∧ t' = given') :
    (c.apart secret x x' sends).Tokens Eq c (c.withSecret secret) t t' := by
  refine ⟨?_, fun f _ _ _ => .cons (Event.alike_failureRecord f _ _) .nil⟩
  rcases pair with rfl | ⟨rfl, rfl⟩
  · cases same : t'.accept with
    | error f => exact .error f
    | ok token =>
      have nonempty := GivenToken.accept_ne_empty same
      exact .ok ⟨Likeness.names_refl _,
        asked_apart (fun _ => rfl) nonempty nonempty (Endpoint.leadAlike_withSecret _ _ _ _)⟩
  · rw [accepted, accepted']
    refine .ok ⟨⟨fun active => ?_, fun span => ?_⟩, asked_apart id
      (GivenToken.accept_ne_empty accepted) (GivenToken.accept_ne_empty accepted') leads⟩
    · exact .cons (.logged active) .nil
    · exact .cons (.spanned span) .nil

end Client

/-! ### Sessions -/

namespace Session

def withSecret (s : Session) (secret : Option String) : Session :=
  { s with client := s.client.withSecret secret }

/-- Two runs of one sequence of calls that differ in a token that has an encoding, and perhaps in the client secret,
bring the same outcomes at the same times, and everything that is seen is the same: but for the fingerprint of the
token, for the requests, in which the token stands in the URL with GET and in the form with POST
and the secret makes the authorization with POST, and for the values in the trace of a failure that is none of this
library. -/
theorem token_not_disclosed {s : Session} {given given' : GivenToken} {token token' : String}
    (accepted : given.accept = .ok token) (accepted' : given'.accept = .ok token')
    {secret : Option String} {n : Network}
    (leads : s.client.endpoint.LeadAlike (s.client.endpoint.withSecret secret) token token' n.Sends)
    {calls calls' : List Call} {call call' : Call}
    (alike : List.Forall₂ (Call.Alike fun t t' => t' = t ∨ t = given ∧ t' = given')
      (call :: calls) (call' :: calls')) :
    let s' := s.withSecret secret
    let before := s.runAll calls n
    let before' := s'.runAll calls' n
    let run := before.result.run call before.network
    let run' := before'.result.run call' before'.network
    s'.opening = s.opening ∧ run'.result.2 = run.result.2 ∧ run'.network = run.network ∧
      (∀ t ∈ traces run.events, t.met.kind.isIntrospection = false) ∧
      List.Forall₂ (Event.Alike
        (Sent.Alike (token' = token) (secret = s.client.endpoint.clientSecret)) Eq
        (Token.fingerprint s.client.salt token) (Token.fingerprint s.client.salt token'))
        run.events run'.events := by
  intro s' before before' run run'
  let K := s.client.apart secret token token' n.Sends
  have clients : K.Clients Eq s.client s'.client := s.client.clients_apart secret token token' n.Sends
  have tokens : List.Forall₂ (Call.Alike (K.Tokens Eq s.client s'.client)) (call :: calls) (call' :: calls') :=
    alike.imp fun _ _ same => same.mono fun _ _ => Client.tokens_apart accepted accepted' leads
  have users (t t' : TokenInfo) (same : t = t') : OutcomeAlike Eq t.toUser t'.toUser :=
    outcomeAlike_eq.2 (congrArg _ same)
  have start : Session.Alike Eq s.client s'.client s s' := by
    refine ⟨rfl, rfl, Iff.rfl, rfl, ?_⟩
    exact List.forall₂_same.2 fun _ _ => ⟨rfl, outcomeAlike_eq.2 rfl⟩
  obtain ⟨one, rest⟩ := List.forall₂_cons.1 tokens
  obtain ⟨sessions, -, met⟩ := Likeness.pairs_runAll clients users rest start n n ⟨rfl, fun _ => id⟩
  obtain ⟨⟨-, result⟩, events, network⟩ := Likeness.pairs_run clients sessions users one _ _ met
  obtain ⟨xs, runs⟩ := before.result.does_run call before.network
  refine ⟨rfl, ?_, network.1.symm, runs.traced, events⟩
  have reports := result.strengthen (U := Eq) fun _ _ _ _ same => reportedAlike_eq.1 same
  exact (outcomeAlike_eq.1 reports).symm

/-- With GET the two tokens stand in the URLs of the requests, and nothing else tells them apart but their
fingerprints. -/
theorem token_not_disclosed_query :
    let client : Client := {
      endpoint := { endpoint := "https://a.example/i", queryParameter := some "q" }
      parser := fun _ body => .ok { userId := some (toString body.length) }
      budget := .whole 1 }
    let s : Session := { mode := .blocking, client }
    let n : Network := { servers := [("a.example", ⟨⟨.zero, .ok { status := 200 }⟩, []⟩)] }
    let run := s.run (.introspect "t" none) n
    let run' := s.run (.introspect " u " none) n
    (requests run.events).map (·.url.text) = ["https://a.example/i?q=t"] ∧
      (requests run'.events).map (·.url.text) = ["https://a.example/i?q=u"] ∧
      run'.result.2 = run.result.2 ∧
      List.Forall₂ (Event.Alike (Sent.Alike ("u" = "t") (none = client.endpoint.clientSecret)) Eq
        (Token.fingerprint client.salt "t") (Token.fingerprint client.salt "u")) run.events run'.events := by
  intro client s n run run'
  have accepted : GivenToken.accept "t" = .ok "t" := by decide +kernel
  have accepted' : GivenToken.accept " u " = .ok "u" := by decide +kernel
  have found : urlPrefix "https://a.example/i" (some "q") = .ok "https://a.example/i?q=" := by decide +kernel
  have first : client.endpoint.LeadsTo "t" "a.example".toList :=
    Endpoint.leadsTo_of_urlPrefix rfl rfl found (by decide +kernel)
  have second : (client.endpoint.withSecret none).LeadsTo "u" "a.example".toList :=
    Endpoint.leadsTo_of_urlPrefix rfl rfl found (by decide +kernel)
  have leads : client.endpoint.LeadAlike (client.endpoint.withSecret none) "t" "u" n.Sends := by
    refine Endpoint.leadAlike_of_leadsTo (not_sends fun x member reply replied a answered => ?_) first second
    obtain rfl := List.mem_singleton.1 member
    obtain rfl := List.mem_singleton.1 replied
    obtain rfl := Except.ok.inj answered
    rfl
  obtain ⟨-, same, -, -, events⟩ := token_not_disclosed (s := s) accepted accepted' leads
    (.cons (.introspect (.inr ⟨rfl, rfl⟩) none) .nil)
  exact ⟨by decide +kernel, by decide +kernel, same, events⟩

/-- Two tokens without an encoding, half a pair alone and behind a letter, are refused by what is wrong with them and
where; and the trace of a connection that fails by what is none of this library shows the token. -/
theorem token_disclosed :
    let client : Client := {
      endpoint := { endpoint := "https://a.example/i", method := .post }
      parser := FieldParser.planB.toParser 1000
      budget := .whole 1 }
    let s : Session := { mode := .blocking, client }
    let broken : Reply := ⟨.zero, .error (.raised (.foreign "ValueError") "broken")⟩
    let run (given : GivenToken) := s.run (.introspect given none) { servers := [("a.example", ⟨broken, []⟩)] }
    let half := CodePoint.ofSurrogate 0xd800
    (run (.text (.ofPoints [.char 'a', half]))).result.2 ≠ (run (.text (.ofPoints [half]))).result.2 ∧
      (traces (run "abc").events).map (·.shown.head?) = [some "'abc'"] := by
  decide +kernel

end Session

end Bearer
