import Bearer.Proofs.Execution
import Bearer.Proofs.Likeness
import Bearer.Proofs.Runs
import Bearer.Proofs.TokenInfo.Likeness

/-!
What becomes visible of the answers of a service. A call reads two answers that differ in what strings say
in the same way, so runs that meet such answers send the same requests, wait, log and report the same and
end alike (`answer_not_disclosed`), except that a failure that is none of this library is logged with a trace,
which shows the answer (`answer_disclosed_by_trace`). Token information and users do not show their user id either.
-/

namespace Bearer

/-- All that can be seen of a run; what comes of an execution is for the caller alone. -/
def visible (events : List Event) : List Event :=
  events.filter fun
    | .execution _ => false
    | _ => true

theorem visible_append (es fs : List Event) : visible (es ++ fs) = visible es ++ visible fs :=
  List.filter_append _ _

theorem traces_visible (es : List Event) : traces (visible es) = traces es := by
  unfold traces visible
  rw [List.filterMap_filter]
  congr
  funext e
  cases e <;> rfl

/-! ### Traces left out -/

def Event.redacted : Event → Event
  | .log level message trace => .log level message (trace.map ({ · with shown := [] }))
  | e => e

theorem eq_of_redacted {e e' : Event} (same : e'.redacted = e.redacted) (untraced : traces [e] = []) : e' = e := by
  cases e with
  | log level message trace =>
    cases trace with
    | some t => cases untraced
    | none =>
      cases e' with
      | log level' message' trace' =>
        cases trace' with
        | some t => cases same
        | none => exact same
      | _ => cases same
  | _ =>
    cases e' with
    | log => cases same
    | _ => exact same

/-- Where there is no trace, nothing is left out. -/
theorem eq_of_map_redacted {es es' : List Event} (same : es'.map Event.redacted = es.map Event.redacted)
    (untraced : traces es = []) : es' = es := by
  induction es generalizing es' with
  | nil => exact List.map_eq_nil_iff.1 same
  | cons e es ih =>
    obtain ⟨e', rest, rfl, first, later⟩ := List.map_eq_cons_iff.1 same
    have both : traces ([e] ++ es) = [] := untraced
    rw [traces, List.filterMap_append] at both
    obtain ⟨alone, behind⟩ := List.append_eq_nil_iff.1 both
    rw [eq_of_redacted first alone, ih later behind]

theorem redacted_failureRecord (f : Failure) (shown shown' : List String) :
    (Client.failureRecord f shown').redacted = (Client.failureRecord f shown).redacted := by
  unfold Client.failureRecord
  split <;> rfl

/-! ### Networks -/

structure Reply.Alike (A : Answer → Answer → Prop) (r r' : Reply) : Prop where
  latency : r'.latency = r.latency
  answer : OutcomeAlike A r.answer r'.answer

structure Script.Alike (R : α → α → Prop) (s s' : Script α) : Prop where
  next : R s.next s'.next
  later : List.Forall₂ R s.later s'.later

theorem Script.Alike.advance {R : α → α → Prop} {s s' : Script α} (h : Script.Alike R s s') :
    Script.Alike R s.advance s'.advance := by
  obtain ⟨x, xs⟩ := s
  obtain ⟨y, ys⟩ := s'
  have later : List.Forall₂ R xs ys := h.later
  cases later with
  | nil => exact h
  | cons first rest => exact ⟨first, rest⟩

/-- Networks at the same time, whose servers are about to answer alike. -/
structure Network.Alike (A : Answer → Answer → Prop) (n m : Network) : Prop where
  clock : n.clock = m.clock
  epoch : n.epoch = m.epoch
  jitter : n.jitter = m.jitter
  servers : List.Forall₂ (fun x y => x.1 = y.1 ∧ Script.Alike (Reply.Alike A) x.2 y.2) n.servers m.servers

def Likeness.ofAnswers (A : Answer → Answer → Prop) : Likeness where
  network := Network.Alike A
  events es es' := (visible es').map Event.redacted = (visible es).map Event.redacted
  times met := ⟨met.clock, met.epoch, met.jitter⟩
  pass met seconds := ⟨congrArg (· + seconds) met.clock, met.epoch, met.jitter, met.servers⟩
  nil := rfl
  append h h' := by rw [visible_append, visible_append, List.map_append, List.map_append, h, h']
  note _ := rfl

/-- Servers that are about to answer alike give alike replies. -/
theorem Likeness.pairs_reply (A : Answer → Answer → Prop) (host : String) :
    (Likeness.ofAnswers A).Pairs (Option.Rel (OutcomeAlike A)) (Action.ask host) (Action.ask host) := by
  intro n m met
  have script := lookup_alike met.servers host
  unfold Action.ask
  generalize n.servers.lookup host = s, m.servers.lookup host = s' at script ⊢
  cases script with
  | none => exact ⟨.none, rfl, met⟩
  | @some s s' alike =>
    refine ⟨.some alike.next.answer, rfl, ?_, met.epoch, met.jitter, ?_⟩
    · show n.clock + s.next.latency = m.clock + s'.next.latency
      rw [met.clock, alike.next.latency]
    · rw [List.forall₂_map_left_iff, List.forall₂_map_right_iff]
      refine met.servers.imp ?_
      rintro ⟨name, script⟩ ⟨name', script'⟩ ⟨same, alike⟩
      obtain rfl : name = name' := same
      dsimp only
      split
      · exact ⟨rfl, alike.advance⟩
      · exact ⟨rfl, alike⟩

/-! ### Answers -/

/-- The same answer, or two answers within the limit, with status 200, whose bodies differ in what strings
say and which break off, if they do, for the same reason. -/
inductive Answer.Alike (p : FieldParser) (depth : Nat) (limit : Int) : Answer → Answer → Prop
  | same (a : Answer) : Alike p depth limit a a
  | texts {a a' : Answer} {text text' : List Char} (status : a.status = 200) (status' : a'.status = 200)
    (fits : a.Fits limit) (fits' : a'.Fits limit) (broken : a'.breakAfter.map (·.2) = a.breakAfter.map (·.2))
    (body : a.chunks.flatten = Utf8.encode text) (body' : a'.chunks.flatten = Utf8.encode text')
    (alike : p.TextsAlike depth text text') : Alike p depth limit a a'

inductive Response.Alike (p : FieldParser) (depth : Nat) : Response → Response → Prop
  | same (r : Response) : Alike p depth r r
  | texts {text text' : List Char} (alike : p.TextsAlike depth text text') :
    Alike p depth ⟨200, Utf8.encode text⟩ ⟨200, Utf8.encode text'⟩

theorem Response.Alike.tokenInfo {p : FieldParser} {depth : Nat} {r r' : Response} (h : Response.Alike p depth r r')
    (now : Double) :
    OutcomeAlike TokenInfo.Alike (r.tokenInfo (p.toParser depth) now) (r'.tokenInfo (p.toParser depth) now) := by
  cases h with
  | same => exact outcomeAlike_refl TokenInfo.alike_refl _
  | texts alike => exact ((FieldParser.parse_alike alike now).mapError _).mapError _

section

variable {p : FieldParser} {depth : Nat} {limit : Int} (r : Request) (url : Url) (host : String)

theorem Answer.Alike.received {a a' : Answer} (h : Answer.Alike p depth limit a a') :
    OutcomeAlike (Response.Alike p depth) (received limit r url host (some (.ok a)))
      (received limit r url host (some (.ok a'))) := by
  cases h with
  | same => exact outcomeAlike_refl Response.Alike.same _
  | texts status status' fits fits' broken body body' alike =>
    rw [received_of_stays (stays_of_status status _ _), received_of_stays (stays_of_status status' _ _)]
    cases complete : a.breakAfter with
    | none =>
      rw [complete] at broken
      rw [read_of_fits complete fits, read_of_fits (Option.map_eq_none_iff.1 broken) fits', status, status', body,
        body']
      exact .ok (.texts alike)
    | some cut =>
      rw [complete] at broken
      obtain ⟨cut', complete', reason⟩ := Option.map_eq_some_iff.1 broken
      rw [read_of_broken fits.not_isOversized complete, read_of_broken fits'.not_isOversized complete', reason]
      exact .error _

theorem received_alike {reply reply' : Option (Except Failure Answer)}
    (h : Option.Rel (OutcomeAlike (Answer.Alike p depth limit)) reply reply') :
    OutcomeAlike (Response.Alike p depth) (received limit r url host reply) (received limit r url host reply') := by
  cases h with
  | none => exact .error _
  | some answer =>
    cases answer with
    | error f => exact .error _
    | ok alike => exact alike.received r url host

end

/-! ### Clients -/

namespace Client

variable {c : Client} {p : FieldParser} {depth : Nat} (parser : c.parser = p.toParser depth)

def beforeAnswers (c : Client) (p : FieldParser) (depth : Nat) : Likeness :=
  .ofAnswers (Answer.Alike p depth c.maxResponseBytes)

theorem events_failureRecord (f : Failure) (shown shown' : List String) :
    (c.beforeAnswers p depth).events [failureRecord f shown] [failureRecord f shown'] := by
  have untold (shown : List String) : visible [failureRecord f shown] = [failureRecord f shown] := by
    unfold failureRecord
    split <;> rfl
  show (visible _).map _ = (visible _).map _
  rw [untold, untold, List.map_singleton, List.map_singleton, redacted_failureRecord f shown shown']

theorem clients_beforeAnswers (c : Client) (p : FieldParser) (depth : Nat) :
    (c.beforeAnswers p depth).Clients TokenInfo.Alike c c where
  policy := rfl
  budget := rfl
  endpoint := rfl
  fallback := rfl
  told s := Likeness.pairs_tell c.listening s
  active _ _ alike := alike.active

include parser

theorem pairs_execute (r : Request) :
    (c.beforeAnswers p depth).Pairs (OutcomeAlike TokenInfo.Alike) (c.execute r) (c.execute r) := by
  apply Likeness.pairs_execute (P := Response.Alike p depth) fun s => Likeness.pairs_tell c.listening s
  · refine Likeness.pairs_exchange rfl (outcomeAlike_refl (fun url => ⟨rfl, rfl, fun host => ?_⟩) _)
    exact (Likeness.pairs_reply _ _).mono fun _ _ => received_alike r url.rooted host
  · intro response response' alike now
    rw [parser]
    exact alike.tokenInfo now
  · exact fun _ _ _ => rfl

theorem tokens_beforeAnswers (given : GivenToken) :
    (c.beforeAnswers p depth).Tokens TokenInfo.Alike c c given given where
  accepted := by
    refine outcomeAlike_refl (fun token => ⟨Likeness.names_refl _, fun fallback => ?_⟩) _
    exact outcomeAlike_refl (fun r => ⟨rfl, pairs_execute parser r⟩) _
  traced f _ _ _ := events_failureRecord f _ _

end Client

/-! ### Sessions -/

namespace Session

/-- Two runs of one call, behind the same earlier calls, that meet answers which differ in what strings say
look the same and end alike: with the same failure, or with token information that is as active and
expires as late. Only the values in traces may tell them apart, and a trace is there for a failure that is none of
this library. Token information and users that differ in a user id have the same text. -/
theorem answer_not_disclosed {s : Session} {p : FieldParser} {depth : Nat}
    (parser : s.client.parser = p.toParser depth) {n m : Network}
    (met : Network.Alike (Answer.Alike p depth s.client.maxResponseBytes) n m) (calls : List Call) (call : Call) :
    let before := s.runAll calls n
    let before' := s.runAll calls m
    let run := before.result.run call before.network
    let run' := before'.result.run call before'.network
    (visible run'.events).map Event.redacted = (visible run.events).map Event.redacted ∧
      (traces run.events = [] → visible run'.events = visible run.events) ∧
      (∀ t ∈ traces run.events, t.met.kind.isIntrospection = false) ∧
      run'.network.clock = run.network.clock ∧
      OutcomeAlike (Reported.Alike TokenInfo.Alike fun _ _ => True) run.result.2 run'.result.2 ∧
      (∀ (t : TokenInfo) (a b : String),
        { t with userId := some a }.text = { t with userId := some b }.text) ∧
      ∀ (u : User) (a : String), { u with userId := a }.text = u.text := by
  intro before before' run run'
  have clients := s.client.clients_beforeAnswers p depth
  have same (call : Call) : Call.Alike ((s.client.beforeAnswers p depth).Tokens TokenInfo.Alike s.client s.client)
      call call := Call.alike_refl (Client.tokens_beforeAnswers parser) call
  have users (t t' : TokenInfo) (alike : TokenInfo.Alike t t') := alike.toUser
  have start : Session.Alike TokenInfo.Alike s.client s.client s s := by
    refine ⟨rfl, rfl, Iff.rfl, rfl, ?_⟩
    exact List.forall₂_same.2 fun _ _ => ⟨rfl, outcomeAlike_refl TokenInfo.alike_refl _⟩
  obtain ⟨sessions, -, met⟩ := Likeness.pairs_runAll clients users
    (List.forall₂_same.2 fun call _ => same call) start n m met
  obtain ⟨⟨-, result⟩, events, network⟩ := Likeness.pairs_run clients sessions users (same call) _ _ met
  obtain ⟨xs, runs⟩ := before.result.does_run call before.network
  refine ⟨events, fun untraced => eq_of_map_redacted events ?_, runs.traced, network.clock.symm, result,
    fun _ _ _ => rfl, fun _ _ => rfl⟩
  rw [traces_visible]
  exact untraced

/-- Answers of one text in one chunk. -/
def saying (text : String) : Answer := { status := 200, chunks := [Utf8.encode text.toList] }

theorem alike_saying {p : FieldParser} {depth : Nat} {text text' : String}
    (short : (Utf8.encode text.toList).length ≤ 1000000) (short' : (Utf8.encode text'.toList).length ≤ 1000000)
    (alike : p.TextsAlike depth text.toList text'.toList) :
    Answer.Alike p depth 1000000 (saying text) (saying text') := by
  have fits (text : String) (short : (Utf8.encode text.toList).length ≤ 1000000) : (saying text).Fits 1000000 := by
    refine ⟨fun size declared => (by cases declared), .inr (Int.ofNat_le.2 ?_)⟩
    rw [saying, List.flatten_singleton]
    exact short
  exact .texts rfl rfl (fits text short) (fits text' short') rfl List.flatten_singleton List.flatten_singleton alike

theorem script_of_alike {A : Answer → Answer → Prop} {a a' : Answer} (alike : A a a') :
    Script.Alike (Reply.Alike A) ⟨⟨.zero, .ok a⟩, []⟩ ⟨⟨.zero, .ok a'⟩, []⟩ :=
  ⟨⟨rfl, .ok alike⟩, .nil⟩

def naming (userId : String) : Answer := saying ("\x7b\"uid\":\"" ++ userId ++ "\"\x7d")

theorem writes_mjw : Json.Writes "mjw".toList "mjw".toList := Json.writes_plain rfl

theorem writes_ann : Json.Writes "ann".toList "ann".toList := Json.writes_plain rfl

/-- Answers that name different users are alike where no member says whether the token is active. -/
theorem alike_naming {p : FieldParser} (unflagged : p.activeField = none) :
    Answer.Alike p 1000 1000000 (naming "mjw") (naming "ann") := by
  refine alike_saying (by decide +kernel) (by decide +kernel) ⟨?_, fun what line column position malformed => ?_,
    fun field data data' named => ?_⟩
  · have parts (userId : String) : ("\x7b\"uid\":\"" ++ userId ++ "\"\x7d").toList =
        '\x7b' :: '"' :: ("uid".toList ++ '"' :: ':' :: '"' :: (userId.toList ++ '"' :: "\x7d".toList)) := by
      simp
    have name : Json.Writes "uid".toList "uid".toList := Json.writes_plain rfl
    rw [parts, parts]
    refine .other (by decide) (.string name name (fun _ => rfl) ?_)
    refine .other (by decide) (.string writes_mjw writes_ann (fun colon => ?_) ?_)
    · cases colon
    · exact Json.alike_of_unquoted (by decide)
  · have read : (Json.read 1000 ("\x7b\"uid\":\"" ++ "mjw" ++ "\"\x7d").toList).toBool = true := by decide +kernel
    rw [malformed] at read
    cases read
  · rw [unflagged] at named
    cases named

/-- A user's name in front of arrays in an array. -/
def nesting (userId : String) : Answer := saying ("[\"" ++ userId ++ "\",[[]]]")

/-- Answers that name different users are alike if they cannot be read, as a reader goes two containers deep. -/
theorem alike_nesting (p : FieldParser) : Answer.Alike p 2 1000000 (nesting "mjw") (nesting "ann") := by
  have deep : (Json.read 2 ("[\"" ++ "mjw" ++ "\",[[]]]").toList).map (fun _ => ()) = .error (.tooDeep .array) := by
    decide +kernel
  refine alike_saying (by decide +kernel) (by decide +kernel) ⟨?_, fun what line column position malformed => ?_,
    fun field data data' _ read => ?_⟩
  · have parts (userId : String) : ("[\"" ++ userId ++ "\",[[]]]").toList =
        '[' :: '"' :: (userId.toList ++ '"' :: ",[[]]]".toList) := by
      simp
    rw [parts, parts]
    refine .other (by decide) (.string writes_mjw writes_ann (fun colon => ?_) ?_)
    · cases colon
    · exact Json.alike_of_unquoted (by decide)
  · rw [malformed] at deep
    cases deep
  · rw [read] at deep
    cases deep

/-- Two answers that name different users. -/
theorem answer_not_disclosed_userId :
    let p : FieldParser := { userIdField := some "uid" }
    let client : Client := {
      endpoint := { endpoint := "https://a.example/i", queryParameter := some "q" }
      parser := p.toParser 1000
      budget := .whole 1 }
    let s : Session := { mode := .blocking, client }
    let n (a : Answer) : Network := { servers := [("a.example", ⟨⟨.zero, .ok a⟩, []⟩)] }
    let run (userId : String) := s.run (.introspect "t" none) (n (naming userId))
    (run "mjw").result.2 = .ok (.info { userId := some "mjw" }) ∧
      (run "ann").result.2 = .ok (.info { userId := some "ann" }) ∧
      visible (run "ann").events = visible (run "mjw").events := by
  intro p client s n run
  have met : Network.Alike (Answer.Alike p 1000 client.maxResponseBytes) (n (naming "mjw")) (n (naming "ann")) :=
    ⟨rfl, rfl, rfl, .cons ⟨rfl, script_of_alike (alike_naming rfl)⟩ .nil⟩
  obtain ⟨-, same, -⟩ := answer_not_disclosed (s := s) rfl met [] (.introspect "t" none)
  exact ⟨by decide +kernel, by decide +kernel, same (by decide +kernel)⟩

/-- Answers that cannot be read show in the trace of that. The answers that name different users can be read, but lack
an expiry, so the fallback is asked, and its connection fails by what is none of this library. The trace of that shows
what the endpoint answered. -/
theorem answer_disclosed_by_trace :
    let p := FieldParser.planB
    let s (depth : Nat) : Session := {
      mode := .blocking
      client := {
        endpoint := {
          endpoint := "https://a.example/i", fallback := some "https://b.example/i", queryParameter := some "q" }
        parser := p.toParser depth
        budget := .whole 1 } }
    let broken : Reply := ⟨.zero, .error (.raised (.foreign "ValueError") "broken")⟩
    let n (a : Answer) : Network :=
      { servers := [("a.example", ⟨⟨.zero, .ok a⟩, []⟩), ("b.example", ⟨broken, []⟩)] }
    let run (depth : Nat) (a : Answer) := (s depth).run (.introspect "t" none) (n a)
    let Discloses (depth : Nat) (a a' : Answer) : Prop :=
      Network.Alike (Answer.Alike p depth 1000000) (n a) (n a') ∧
        (run depth a').result.2 = (run depth a).result.2 ∧
        visible (run depth a').events ≠ visible (run depth a).events
    Discloses 2 (nesting "mjw") (nesting "ann") ∧ Discloses 1000 (naming "mjw") (naming "ann") := by
  intro p s broken n run Discloses
  have discloses {depth : Nat} {a a' : Answer} (alike : Answer.Alike p depth 1000000 a a')
      (same : (run depth a').result.2 = (run depth a).result.2)
      (apart : traces (run depth a').events ≠ traces (run depth a).events) : Discloses depth a a' := by
    refine ⟨⟨rfl, rfl, rfl, .cons ⟨rfl, script_of_alike alike⟩ (.cons ⟨rfl, ⟨rfl, .error _⟩, .nil⟩ .nil)⟩, same,
      fun seen => apart ?_⟩
    have traced := congrArg traces seen
    rwa [traces_visible, traces_visible] at traced
  exact ⟨discloses (alike_nesting p) (by decide +kernel) (by decide +kernel),
    discloses (alike_naming rfl) (by decide +kernel) (by decide +kernel)⟩

end Session

end Bearer
