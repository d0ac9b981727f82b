import Bearer.Proofs.Acceptance
import Bearer.Proofs.Execution

/-!
What an execution fails by. A fault is what was met: an exception from the HTTP layer, a body beyond the
limit, a status, an exception from the parser. `FailsBy` reads it off the request, the reply to it and the
parser alone; an execution fails exactly if there is such a fault (`failsBy_iff`), and what was foreseen
becomes a failure of the introspection while everything else stays as it is (`becomes_of_failsBy`).
-/

namespace Bearer

/-! ### Faults -/

inductive Fault where
  | transport (kind : Kind)
  | oversized
  | status (code : Int)
  | parser (kind : Kind)

namespace Fault

/-- A failure of the HTTP layer, a URL that it cannot read, a body that is too large, a status, or what the
parser calls no token information. -/
def Expected : Fault → Prop
  | transport k => k = .foreign "InvalidURL" ∨ k.isTransport = true
  | oversized | status _ => True
  | parser k => k = .tokenInfoParse

def raised? : Fault → Option Kind
  | transport k | parser k => some k
  | oversized | status _ => none

/-- The status that blames the request, so that no other endpoint is asked. -/
def BlamesRequest : Fault → Prop
  | status code => code ≠ 401 ∧ 400 ≤ code ∧ code < 500
  | _ => False

structure Becomes (fault : Fault) (g : Failure) : Prop where
  expected : fault.Expected →
    g.kind.isTokenInfo = true ∧ (g.kind.allowsFallback = true ↔ ¬ fault.BlamesRequest)
  unexpected : ¬ fault.Expected → fault.raised? = some g.kind

theorem becomes_expected {fault : Fault} {g : Failure} (expected : fault.Expected)
    (blameless : ¬ fault.BlamesRequest) (allowed : g.kind.allowsFallback = true) : fault.Becomes g := by
  refine ⟨fun _ => ⟨Client.isTokenInfo_of_allowsFallback allowed, ?_⟩, fun other => absurd expected other⟩
  exact iff_of_true allowed blameless

theorem becomes_unexpected {fault : Fault} {g : Failure} (other : ¬ fault.Expected)
    (same : fault.raised? = some g.kind) : fault.Becomes g :=
  ⟨fun expected => absurd expected other, fun _ => same⟩

theorem becomes_ofFailure {endpoint : String} {place : Failure → ExchangeError} {f : Failure}
    (allowed : (place f).toFailure.kind.allowsFallback = true) :
    (transport f.kind).Becomes (ExchangeError.ofFailure endpoint place f).toFailure := by
  unfold ExchangeError.ofFailure
  by_cases url : f.kind = .foreign "InvalidURL"
  · rw [if_pos url]
    exact becomes_expected (.inl url) id rfl
  rw [if_neg url]
  by_cases http : f.kind.isTransport = true
  · rw [if_pos http]
    exact becomes_expected (.inr http) id allowed
  · rw [if_neg http]
    refine becomes_unexpected ?_ rfl
    rintro (same | same)
    · exact url same
    · exact http same

theorem becomes_unreadableHost (e : DomainName.Error) :
    (transport (.foreign e.kind)).Becomes (ExchangeError.unreadableHost e).toFailure := by
  refine becomes_unexpected ?_ rfl
  -- none of its names is one that the HTTP layer gives
  have known : e.kind ∈ ["InvalidCodepoint", "InvalidCodepointContext", "IDNABidiError", "IDNAError"] := by
    cases e <;> simp [DomainName.Error.kind]
  simp only [List.mem_cons, List.not_mem_nil, or_false] at known
  rcases known with same | same | same | same
  all_goals
    rw [same]
    unfold Expected
    decide

theorem becomes_refusal (r : Response) : (status r.status).Becomes r.refusal := by
  refine ⟨fun _ => ?_, fun other => absurd trivial other⟩
  unfold Response.refusal BlamesRequest
  by_cases refused : r.status = 401
  · rw [if_pos refused]
    exact ⟨rfl, iff_of_true rfl fun blamed => blamed.1 refused⟩
  rw [if_neg refused]
  by_cases client : 400 ≤ r.status ∧ r.status < 500
  · rw [if_pos client]
    exact ⟨rfl, iff_of_false Bool.false_ne_true fun h => h ⟨refused, client⟩⟩
  · rw [if_neg client]
    split <;> exact ⟨rfl, iff_of_true rfl fun blamed => client blamed.2⟩

theorem becomes_ofParser (f : Failure) : (parser f.kind).Becomes (Response.ofParser f) := by
  unfold Response.ofParser
  by_cases own : f.kind = .tokenInfoParse
  · rw [if_pos own]
    exact becomes_expected own id rfl
  · rw [if_neg own]
    exact becomes_unexpected own rfl

end Fault

/-! ### Ways to fail -/

/-- The URL that is asked and the reply to it, of a request that is the first one in a network. -/
structure Request.Gets (r : Request) (asked : Url) (n : Network) (reply : Except Failure Answer) : Prop where
  read : (Url.read r.url.toList).map Url.rooted = .ok asked
  replied : replyTo n [] (r.send asked) = some reply

def Redirect.Error.kind : Redirect.Error → Kind
  | unread _ => .foreign "RemoteProtocolError"
  | unjoined _ => .foreign "InvalidURL"
  | unreadableHost e => .foreign e.kind

namespace Client

inductive FailsBy (c : Client) (r : Request) (n : Network) : Fault → Prop
  | url {e : Url.Error} (read : Url.read r.url.toList = .error e) :
    FailsBy c r n (.transport (.foreign "InvalidURL"))
  | host {url : Url} {e : DomainName.Error} (read : Url.read r.url.toList = .ok url)
    (unreadable : url.rooted.readableHost = .error e) : FailsBy c r n (.transport (.foreign e.kind))
  | server {url : Url} {name : List Char} (read : Url.read r.url.toList = .ok url)
    (readable : url.rooted.readableHost = .ok name)
    (unknown : n.servers.lookup (String.ofList name) = none) :
    FailsBy c r n (.transport (.foreign "KeyError"))
  | sending {asked : Url} {f : Failure} (got : r.Gets asked n (.error f)) : FailsBy c r n (.transport f.kind)
  | redirect {asked : Url} {a : Answer} {place : String} {e : Redirect.Error} (got : r.Gets asked n (.ok a))
    (redirected : a.redirect? = some place) (lost : Redirect.target asked place.toList = .error e) :
    FailsBy c r n (.transport e.kind)
  | oversized {asked : Url} {a : Answer} (got : r.Gets asked n (.ok a))
    (stays : a.redirectError? r.endpoint asked = none) (excess : a.IsOversized c.maxResponseBytes) :
    FailsBy c r n .oversized
  | breaking {asked : Url} {a : Answer} {k : Nat} {f : Failure} (got : r.Gets asked n (.ok a))
    (stays : a.redirectError? r.endpoint asked = none) (fits : ¬ a.IsOversized c.maxResponseBytes)
    (broken : a.breakAfter = some (k, f)) : FailsBy c r n (.transport f.kind)
  | status {asked : Url} {a : Answer} (got : r.Gets asked n (.ok a))
    (stays : a.redirectError? r.endpoint asked = none)
    (complete : a.breakAfter = none) (fits : a.Fits c.maxResponseBytes) (refused : a.status ≠ 200) :
    FailsBy c r n (.status a.status)
  | parser {asked : Url} {a : Answer} {f : Failure} (got : r.Gets asked n (.ok a)) (complete : a.breakAfter = none)
    (fits : a.Fits c.maxResponseBytes) (status : a.status = 200)
    (refused : c.parser ((c.execute r n).network.epoch + (c.execute r n).network.clock) a.chunks.flatten =
      .error f) : FailsBy c r n (.parser f.kind)

variable {c : Client} {r : Request} {asked : Url} {n : Network} {fault : Fault}

theorem result_of_unread {e : Url.Error} (read : Url.read r.url.toList = .error e) (c : Client)
    (n : Network) : (c.execute r n).result = .error (ExchangeError.invalidUrl r.endpoint).toFailure := by
  obtain ⟨outcome, exchanged, same⟩ := executed_execute c r n
  generalize replies n (c.execute r n).events = rs at exchanged
  cases exchanged with
  | unreadable => exact same
  | noHost read' => cases read.symm.trans read'
  | received read' => cases read.symm.trans read'

theorem result_of_unreadable {url : Url} {e : DomainName.Error} (read : Url.read r.url.toList = .ok url)
    (unreadable : url.rooted.readableHost = .error e) (c : Client) (n : Network) :
    (c.execute r n).result = .error (ExchangeError.unreadableHost e).toFailure := by
  obtain ⟨outcome, exchanged, same⟩ := executed_execute c r n
  generalize replies n (c.execute r n).events = rs at exchanged
  cases exchanged with
  | unreadable read' => cases read.symm.trans read'
  | noHost read' unreadable' =>
    obtain rfl := Except.ok.inj (read.symm.trans read')
    obtain rfl := Except.error.inj (unreadable.symm.trans unreadable')
    exact same
  | received read' readable =>
    obtain rfl := Except.ok.inj (read.symm.trans read')
    cases unreadable.symm.trans readable

theorem replyTo_of_readable {url : Url} {name : List Char} (readable : url.rooted.readableHost = .ok name)
    (r : Request) (n : Network) : replyTo n [] (r.send url.rooted) =
      (n.servers.lookup (String.ofList name)).map fun script => script.next.answer := by
  have readable : (r.send url.rooted).url.readableHost = .ok name := readable
  unfold replyTo
  rw [readable]
  rfl

theorem result_of_unknown {url : Url} {name : List Char} (read : Url.read r.url.toList = .ok url)
    (readable : url.rooted.readableHost = .ok name) (unknown : n.servers.lookup (String.ofList name) = none)
    (c : Client) :
    (c.execute r n).result = .error (ExchangeError.unknownHost (String.ofList name)).toFailure := by
  have executed := executed_execute c r n
  rw [replies_execute read, replyTo_of_readable readable, unknown, Option.map_none] at executed
  obtain ⟨outcome, exchanged, same⟩ := executed
  cases exchanged with
  | noHost read' unreadable =>
    obtain rfl := Except.ok.inj (read.symm.trans read')
    cases readable.symm.trans unreadable
  | received read' readable' =>
    obtain rfl := Except.ok.inj (read.symm.trans read')
    obtain rfl := Except.ok.inj (readable.symm.trans readable')
    exact same

theorem executed_of_gets {reply : Except Failure Answer} (got : r.Gets asked n reply) (c : Client) :
    ∃ host, (c.execute r n).result =
      (received c.maxResponseBytes r asked host (some reply)).mapError ExchangeError.toFailure >>= fun response =>
        response.tokenInfo c.parser ((c.execute r n).network.epoch + (c.execute r n).network.clock) := by
  obtain ⟨leads, replied⟩ := got
  obtain ⟨url, read, rfl⟩ := map_eq_ok_iff.1 leads
  have executed := executed_execute c r n
  rw [replies_execute read, replied] at executed
  obtain ⟨outcome, exchanged, same⟩ := executed
  cases exchanged with
  | received read' _ =>
    obtain rfl := Except.ok.inj (read.symm.trans read')
    exact ⟨_, same⟩

theorem result_of_received_error {reply : Except Failure Answer} {e : ExchangeError} (got : r.Gets asked n reply)
    (c : Client) (failed : ∀ host, received c.maxResponseBytes r asked host (some reply) = .error e) :
    (c.execute r n).result = .error e.toFailure := by
  obtain ⟨host, same⟩ := executed_of_gets got c
  rw [same, failed host]
  rfl

theorem result_of_received_ok {reply : Except Failure Answer} {response : Response} (got : r.Gets asked n reply)
    (c : Client) (came : ∀ host, received c.maxResponseBytes r asked host (some reply) = .ok response) :
    (c.execute r n).result = response.tokenInfo c.parser
      ((c.execute r n).network.epoch + (c.execute r n).network.clock) := by
  obtain ⟨host, same⟩ := executed_of_gets got c
  rw [same, came host]
  rfl

theorem becomes_ofRedirect (e : Redirect.Error) (endpoint : String) :
    (Fault.transport e.kind).Becomes (ExchangeError.ofRedirect endpoint e).toFailure := by
  cases e with
  | unread =>
    have http : (Kind.foreign "RemoteProtocolError").isTransport = true := by decide
    exact Fault.becomes_expected (.inr http) id rfl
  | unjoined => exact Fault.becomes_expected (.inl rfl) id rfl
  | unreadableHost e => exact Fault.becomes_unreadableHost e

/-- An execution with a fault fails, with what becomes of it. -/
theorem becomes_of_failsBy (h : c.FailsBy r n fault) :
    ∃ g, (c.execute r n).result = .error g ∧ fault.Becomes g := by
  cases h with
  | url read => exact ⟨_, result_of_unread read c n, Fault.becomes_expected (.inl rfl) id rfl⟩
  | host read unreadable =>
    exact ⟨_, result_of_unreadable read unreadable c n, Fault.becomes_unreadableHost _⟩
  | server read readable unknown =>
    refine ⟨_, result_of_unknown read readable unknown c, Fault.becomes_unexpected ?_ rfl⟩
    unfold Fault.Expected
    decide
  | sending got =>
    exact ⟨_, result_of_received_error got c fun _ => rfl, Fault.becomes_ofFailure rfl⟩
  | redirect got redirected lost =>
    have refused := redirectError?_of_target redirected lost r.endpoint
    exact ⟨_, result_of_received_error got c (received_of_refused refused), becomes_ofRedirect _ _⟩
  | oversized got stays excess =>
    obtain ⟨e, tooLarge, kind⟩ := read_of_isOversized excess r.endpoint
    refine ⟨_, result_of_received_error got c fun host => (received_of_stays stays host).trans tooLarge, ?_⟩
    exact Fault.becomes_expected trivial id (by rw [kind]; rfl)
  | breaking got stays fits broken =>
    refine ⟨_, result_of_received_error got c fun host =>
      (received_of_stays stays host).trans (read_of_broken fits broken r.endpoint), ?_⟩
    exact Fault.becomes_ofFailure rfl
  | status got stays complete fits refused =>
    have came := result_of_received_ok got c fun host =>
      (received_of_stays stays host).trans (read_of_fits complete fits r.endpoint)
    rw [Response.tokenInfo, if_neg refused] at came
    exact ⟨_, came, Fault.becomes_refusal ⟨_, _⟩⟩
  | parser got complete fits status refused =>
    have came := result_of_received_ok got c fun host =>
      (received_of_stays (stays_of_status status r.endpoint _) host).trans (read_of_fits complete fits r.endpoint)
    rw [Response.tokenInfo, if_pos status, refused, mapError_error] at came
    exact ⟨_, came, Fault.becomes_ofParser _⟩

theorem failsBy_of_answer {a : Answer} {g : Failure} (got : r.Gets asked n (.ok a))
    (failed : (c.execute r n).result = .error g) : ∃ fault, c.FailsBy r n fault := by
  cases stays : a.redirectError? r.endpoint asked with
  | some e =>
    obtain ⟨place, e, redirected, lost, rfl⟩ := target_of_redirectError? stays
    exact ⟨_, .redirect got redirected lost⟩
  | none =>
    by_cases excess : a.IsOversized c.maxResponseBytes
    · exact ⟨_, .oversized got stays excess⟩
    cases complete : a.breakAfter with
    | some broken => exact ⟨_, .breaking got stays excess complete⟩
    | none =>
      have fits := (not_isOversized_iff complete).1 excess
      by_cases status : a.status = 200
      · have came := result_of_received_ok got c fun host =>
          (received_of_stays stays host).trans (read_of_fits complete fits r.endpoint)
        rw [failed, Response.tokenInfo, if_pos status] at came
        cases parsed : c.parser ((c.execute r n).network.epoch + (c.execute r n).network.clock)
            a.chunks.flatten with
        | ok t =>
          rw [parsed] at came
          cases came
        | error f => exact ⟨_, .parser got complete fits status parsed⟩
      · exact ⟨_, .status got stays complete fits status⟩

/-- An execution fails exactly if there is a fault by which it does. -/
theorem failsBy_iff : (∃ fault, c.FailsBy r n fault) ↔ ∃ g, (c.execute r n).result = .error g := by
  constructor
  · rintro ⟨fault, fails⟩
    obtain ⟨g, failed, -⟩ := becomes_of_failsBy fails
    exact ⟨g, failed⟩
  rintro ⟨g, failed⟩
  cases read : Url.read r.url.toList with
  | error e => exact ⟨_, .url read⟩
  | ok url =>
    cases readable : url.rooted.readableHost with
    | error e => exact ⟨_, .host read readable⟩
    | ok name =>
      have replied := replyTo_of_readable readable r n
      cases found : n.servers.lookup (String.ofList name) with
      | none => exact ⟨_, .server read readable found⟩
      | some script =>
        rw [found, Option.map_some] at replied
        have got : r.Gets url.rooted n script.next.answer := ⟨by rw [read]; rfl, replied⟩
        cases answer : script.next.answer with
        | error f => exact ⟨_, .sending (answer ▸ got)⟩
        | ok a => exact failsBy_of_answer (answer ▸ got) failed

end Client

end Bearer
