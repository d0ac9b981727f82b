import Bearer.Proofs.Call
import Bearer.Proofs.Retry.Loop

/-!
The journal of a call with retries: its executions, its waits and its log records, in order. Each endpoint leaves
the journal of its rounds (`RoundJournal`), from which follow the numbers of the attempts, the waits and the
records in front of them. `retries_journaled` puts the journals of both endpoints together, with the record of
the switch between them and the record of the outcome at the end.
-/

namespace Bearer

/-! ### Records -/

def Event.opensWith (words : String) : Event → Bool
  | .log _ message _ => words.toList.isPrefixOf message.toList
  | _ => false

def said (words : String) (es : List Event) : List Event := es.filter (Event.opensWith words)

@[simp] theorem said_append (words : String) (es fs : List Event) :
    said words (es ++ fs) = said words es ++ said words fs := List.filter_append ..

theorem opensWith_append (words rest : String) (level : Level) (trace : Option Trace) :
    (Event.log level (words ++ rest) trace).opensWith words = true := by
  rw [Event.opensWith, String.toList_append]
  exact List.isPrefixOf_iff_prefix.2 (List.prefix_append _ _)

def startsApart (v w : String) : Bool := !(v.toList.isPrefixOf w.toList || w.toList.isPrefixOf v.toList)

theorem not_opensWith {words start : String} (other : startsApart words start = true) {e : Event}
    (opening : e.opensWith start = true) : e.opensWith words = false := by
  cases e with
  | log level message trace =>
    rw [← Bool.not_eq_true]
    intro opening'
    have starts := List.isPrefixOf_iff_prefix.1 opening
    have starts' := List.isPrefixOf_iff_prefix.1 opening'
    simp only [startsApart, Bool.not_eq_true', Bool.or_eq_false_iff] at other
    rcases List.prefix_or_prefix_of_prefix starts' starts with h | h
    · exact absurd (List.isPrefixOf_iff_prefix.2 h) (by simp [other.1])
    · exact absurd (List.isPrefixOf_iff_prefix.2 h) (by simp [other.2])
  | _ => cases opening

theorem said_eq_nil_of_opensWith {words start : String} (other : startsApart words start = true) {es : List Event}
    (opening : ∀ e ∈ es, e.opensWith start = true) : said words es = [] :=
  List.filter_eq_nil_iff.2 fun e member => by simp [not_opensWith other (opening e member)]

def Event.isRecord : Event → Bool
  | .log .. => true
  | _ => false

theorem Event.isRecord_of_opensWith {words : String} {e : Event} (opening : e.opensWith words = true) :
    e.isRecord = true := by
  cases e with
  | log _ _ _ => rfl
  | _ => cases opening

def Event.isEntry : Event → Bool
  | .execution _ | .wait _ | .log .. => true
  | _ => false

theorem Event.isEntry_of_isRecord {e : Event} (record : e.isRecord = true) : e.isEntry = true := by
  cases e with
  | log _ _ _ => rfl
  | _ => cases record

def journal (es : List Event) : List Event := es.filter Event.isEntry

@[simp] theorem journal_append (es fs : List Event) : journal (es ++ fs) = journal es ++ journal fs :=
  List.filter_append ..

theorem executions_journal (es : List Event) : executions (journal es) = executions es := by
  unfold executions journal
  rw [List.filterMap_filter]
  congr 1
  funext e
  cases e <;> rfl

theorem journal_of_signals {es : List Event} (signals : ∀ e ∈ es, e.IsSignal) : journal es = [] := by
  refine List.filter_eq_nil_iff.2 fun e member => ?_
  have signal := signals e member
  cases e with
  | signal _ _ => exact Bool.false_ne_true
  | _ => cases signal

theorem shownBy_journal (es : List Event) : Trace.shownBy (journal es) = Trace.shownBy es :=
  Trace.shownBy_filter (fun _ => rfl) (fun _ => rfl) es

theorem filter_journal {keep : Event → Bool} (entries : ∀ e, keep e = true → e.isEntry = true) (es : List Event) :
    (journal es).filter keep = es.filter keep := by
  rw [journal, List.filter_filter]
  congr 1
  funext e
  cases h : keep e with
  | true => simp [entries e h]
  | false => simp

/-! ### Executions -/

def Event.IsSending : Event → Prop
  | .request _ | .signal .. => True
  | .log level message trace => (Event.log level message trace).opensWith "Request to " = true
  | _ => False

/-- Sending is recorded only where a request could not be sent. -/
theorem opensWith_of_sending {es : List Event} (sending : ∀ e ∈ es, e.IsSending) :
    ∀ e ∈ journal es, e.opensWith "Request to " = true := by
  intro e member
  obtain ⟨member, entry⟩ := List.mem_filter.1 member
  have sent := sending e member
  cases e with
  | log level message trace => exact sent
  | execution _ | wait _ => cases sent
  | _ => cases entry

theorem sending_report (e : ExchangeError) (endpoint : String) : (e.report endpoint).Emits Event.IsSending := by
  cases e with
  | notSent f =>
    refine emits_emit ?_
    simp only [Event.IsSending, String.append_assoc]
    exact opensWith_append ..
  | _ => exact emits_silent fun _ => rfl

namespace Client

variable {c : Client} {r : Request} {k : Nat} {n : Network}

theorem sending_perform (c : Client) (r : Request) : (c.perform r).Emits Event.IsSending :=
  emits_perform (fun _ _ => trivial) (emits_exchange_of_report (fun _ => trivial) (sending_report · _) _)

theorem journal_execute (c : Client) (r : Request) (n : Network) :
    ∃ unsent, (∀ e ∈ unsent, e.opensWith "Request to " = true) ∧
      journal (c.execute r n).events = unsent ++ [.execution (c.executed r n)] := by
  refine ⟨_, opensWith_of_sending (sending_perform c r n), ?_⟩
  simp only [execute, Action.bind_apply, journal_append]
  rfl

def retryable? : Except Failure TokenInfo → Option Failure
  | .error f => if f.isRetryable then some f else none
  | .ok _ => none

theorem retryable?_error {f : Failure} (retryable : f.isRetryable = true) : retryable? (.error f) = some f :=
  if_pos retryable

def attemptRecord (r : Request) (k : Nat) (f : Failure) : Event :=
  .log .warning ("Attempt " ++ toString k ++ " against " ++ r.endpoint ++ " failed: " ++ f.message)

theorem opensWith_attemptRecord (r : Request) (k : Nat) (f : Failure) :
    (attemptRecord r k f).opensWith "Attempt " = true := by
  simp only [attemptRecord, String.append_assoc]
  exact opensWith_append ..

def attemptRecords (r : Request) (k : Nat) (outcome : Except Failure TokenInfo) : List Event :=
  (retryable? outcome).toList.map (attemptRecord r k)

theorem opensWith_attemptRecords {outcome : Except Failure TokenInfo} :
    ∀ e ∈ attemptRecords r k outcome, e.opensWith "Attempt " = true := by
  intro e member
  obtain ⟨f, -, rfl⟩ := List.mem_map.1 member
  exact opensWith_attemptRecord r k f

/-- One execution in the journal, behind the record of a request that could not be sent. -/
def round (unsent : List Event) (k : Nat) (x : Execution) : List Event :=
  unsent ++ .execution x :: attemptRecords x.request k x.outcome

theorem journal_attempt (c : Client) (r : Request) (k : Nat) (n : Network) :
    ∃ unsent, (∀ e ∈ unsent, e.opensWith "Request to " = true) ∧
      journal (c.attempt r k n).events = round unsent k (c.executed r n) := by
  obtain ⟨unsent, opening, executed⟩ := journal_execute c r n
  refine ⟨unsent, opening, ?_⟩
  rw [round, request_executed, outcome_executed, attempt, Action.bind_apply, journal_append, executed,
    List.append_assoc]
  refine congrArg (fun es : List Event => unsent ++ .execution (c.executed r n) :: es) ?_
  cases (c.execute r n).result with
  | ok t => rfl
  | error f =>
    have reported (m : Network) : journal (reportAttempt r k f m).events = attemptRecords r k (.error f) := by
      by_cases retryable : f.isRetryable = true
      · simp only [reportAttempt, attemptRecords, retryable?, if_pos retryable]
        rfl
      · simp only [reportAttempt, attemptRecords, retryable?, if_neg retryable]
        rfl
    simp only [Action.bind_apply, journal_append, reported]
    exact List.append_nil _

/-! ### Rounds -/

def scheduled : Event := .log .warning "stamina.retry_scheduled"

/-- The journal of rounds of one request from attempt `k` on. All but the last end with the record of an attempt.
The record of the retry stands directly behind it, and a wait behind that. -/
inductive RoundJournal (r : Request) : Nat → List Event → Prop
  | last {unsent : List Event} (opening : ∀ e ∈ unsent, e.opensWith "Request to " = true) (k : Nat)
    {x : Execution} (own : x.request = r) : RoundJournal r k (round unsent k x)
  | again {k : Nat} {f : Failure} {unsent es : List Event}
    (opening : ∀ e ∈ unsent, e.opensWith "Request to " = true) {x : Execution} (own : x.request = r)
    (failed : x.outcome = .error f) (retryable : f.isRetryable = true) (seconds : Double)
    (rest : RoundJournal r (k + 1) es) :
    RoundJournal r k (round unsent k x ++ scheduled :: .wait seconds :: es)

theorem roundJournal_attemptFrom (p : RetryPolicy) (budget : Budget) (c : Client) (r : Request)
    (started : Double) (left k : Nat) (n : Network) :
    RoundJournal r k (journal (p.attemptFrom budget (c.attempt r) started left k n).events) := by
  refine RetryPolicy.attemptFrom_induction (motive := fun _ k _ run => RoundJournal r k (journal run.events))
    (fun _ k n _ => ?_) (fun _ k n f rest failed retryable _ ih => ?_) left k n
  · obtain ⟨unsent, opening, attempted⟩ := journal_attempt c r k n
    show RoundJournal r k (journal (c.attempt r k n).events)
    rw [attempted]
    exact .last opening k (request_executed c r n)
  · obtain ⟨unsent, opening, attempted⟩ := journal_attempt c r k n
    rw [result_attempt, ← outcome_executed] at failed
    -- The announcement in front of the round is no entry.
    show RoundJournal r k (journal ((c.attempt r k n).events ++ scheduled :: .wait _ :: rest.events))
    rw [journal_append, attempted]
    exact .again opening (request_executed c r n) failed retryable _ ih

section

variable {unsent : List Event} (opening : ∀ e ∈ unsent, e.opensWith "Request to " = true) {x : Execution}
include opening

theorem executions_round : executions (round unsent k x) = [x] := by
  have none {words : String} {es : List Event} (h : ∀ e ∈ es, e.opensWith words = true) : executions es = [] := by
    refine List.filterMap_eq_nil_iff.2 fun e member => ?_
    have record := Event.isRecord_of_opensWith (h e member)
    cases e <;> first | rfl | cases record
  show executions (unsent ++ ([.execution x] ++ attemptRecords x.request k x.outcome)) = _
  rw [executions_append, executions_append, none opening, none opensWith_attemptRecords]
  rfl

theorem waits_round : waits (round unsent k x) = [] := by
  refine List.filterMap_eq_nil_iff.2 fun e member => ?_
  have record : e = .execution x ∨ e.isRecord = true := by
    rcases List.mem_append.1 member with member | member
    · exact .inr (Event.isRecord_of_opensWith (opening e member))
    · rcases List.mem_cons.1 member with same | member
      · exact .inl same
      · exact .inr (Event.isRecord_of_opensWith (opensWith_attemptRecords e member))
  cases e with
  | wait _ => rcases record with record | record <;> cases record
  | _ => rfl

theorem said_round {words : String} (unrelated : startsApart words "Request to " = true) :
    said words (round unsent k x) = said words (attemptRecords x.request k x.outcome) := by
  rw [round, said_append, said_eq_nil_of_opensWith unrelated opening]
  rfl

end

theorem said_attemptRecords {outcome : Except Failure TokenInfo} :
    said "Attempt " (attemptRecords r k outcome) =
      ((retryable? outcome).toList.zipIdx k).map fun (f, j) => attemptRecord r j f := by
  rw [said, List.filter_eq_self.2 opensWith_attemptRecords, attemptRecords]
  cases retryable? outcome <;> rfl

namespace RoundJournal

variable {es : List Event}

theorem waited (h : RoundJournal r k es) : (waits es).length + 1 = (executions es).length := by
  induction h with
  | last opening _ _ =>
    rw [executions_round opening, waits_round opening]
    rfl
  | @again _ _ _ es opening _ _ _ _ seconds _ ih =>
    have own : executions (scheduled :: .wait seconds :: es) = executions es := rfl
    have own' : waits (scheduled :: .wait seconds :: es) = seconds :: waits es := rfl
    rw [executions_append, waits_append, executions_round opening, waits_round opening, own, own']
    exact congrArg (· + 1) ih

/-- The records of the attempts are those of the failures after which another one may be made, numbered. -/
theorem attempts (h : RoundJournal r k es) : said "Attempt " es =
    (((executions es).filterMap (retryable? ·.outcome)).zipIdx k).map fun (f, j) => attemptRecord r j f := by
  induction h with
  | @last _ opening k x own =>
    rw [said_round opening (by decide +kernel), own, said_attemptRecords, executions_round opening]
    cases retryable : retryable? x.outcome <;> simp [retryable]
  | @again k f _ es opening x own failed retryable seconds _ ih =>
    have asked : retryable? x.outcome = some f := by rw [failed, retryable?_error retryable]
    have same : executions (scheduled :: .wait seconds :: es) = executions es := rfl
    have same' : said "Attempt " (scheduled :: .wait seconds :: es) = said "Attempt " es := rfl
    rw [said_append, said_round opening (by decide +kernel), own, said_attemptRecords, same', ih, executions_append,
      executions_round opening, same, List.filterMap_append, List.zipIdx_append, List.map_append]
    simp [asked]

theorem retries (h : RoundJournal r k es) :
    said "stamina.retry_scheduled" es = List.replicate (waits es).length scheduled := by
  have none {r : Request} {outcome : Except Failure TokenInfo} {k : Nat} :
      said "stamina.retry_scheduled" (attemptRecords r k outcome) = [] :=
    said_eq_nil_of_opensWith (by decide +kernel) opensWith_attemptRecords
  induction h with
  | last opening _ _ =>
    rw [said_round opening (by decide +kernel), none, waits_round opening]
    rfl
  | @again _ _ _ es opening _ _ _ _ seconds _ ih =>
    have own : said "stamina.retry_scheduled" (scheduled :: .wait seconds :: es) = scheduled :: said _ es := rfl
    have own' : waits (scheduled :: .wait seconds :: es) = seconds :: waits es := rfl
    rw [said_append, said_round opening (by decide +kernel), none, own, ih, waits_append, waits_round opening, own']
    rfl

/-- Nothing is said but what executions, attempts and retries say. -/
theorem said_eq_nil (h : RoundJournal r k es) {words : String}
    (unrelated : ∀ start ∈ ["Request to ", "Attempt ", "stamina.retry_scheduled"], startsApart words start = true) :
    said words es = [] := by
  simp only [List.forall_mem_cons] at unrelated
  obtain ⟨request, attempt, retry, -⟩ := unrelated
  have none {r : Request} {outcome : Except Failure TokenInfo} {k : Nat} :
      said words (attemptRecords r k outcome) = [] := said_eq_nil_of_opensWith attempt opensWith_attemptRecords
  induction h with
  | last opening _ _ => rw [said_round opening request, none]
  | @again _ _ _ es opening _ _ _ _ seconds _ ih =>
    have own : said words [scheduled] = [] :=
      List.filter_cons_of_neg (by rw [not_opensWith retry (by decide +kernel)]; decide)
    show said words (_ ++ ([scheduled] ++ ([.wait seconds] ++ es))) = []
    rw [said_append, said_append, said_append, said_round opening request, none, own, ih]
    rfl

end RoundJournal

structure BlockJournal (r : Request) (outcome : Except Failure TokenInfo) (es : List Event) : Prop where
  block : Block r outcome (executions es)
  rounds : RoundJournal r 1 es
  attempts : said "Attempt " es =
    (((executions es).filterMap (retryable? ·.outcome)).zipIdx 1).map fun (f, k) => attemptRecord r k f
  retries : said "stamina.retry_scheduled" es = List.replicate (waits es).length scheduled
  waited : (waits es).length + 1 = (executions es).length

theorem blockJournal_call {b : Budget} (within : b.isExhausted = false) (c : Client) (r : Request)
    (n : Network) : BlockJournal r (c.call (some b) r n).result (journal (c.call (some b) r n).events) := by
  have rounds : RoundJournal r 1 (journal (c.call (some b) r n).events) := by
    rw [call_within within]
    exact roundJournal_attemptFrom c.policy b c r _ _ 1 n
  have block : Block r (c.call (some b) r n).result (executions (journal (c.call (some b) r n).events)) := by
    rw [executions_journal]
    refine block_call c (fun b' same => ?_) r n
    obtain rfl := Option.some.inj same
    exact within
  exact ⟨block, rounds, rounds.attempts, rounds.retries, rounds.waited⟩

/-! ### Both endpoints -/

def usingFallback (c : Client) (f : Failure) : Event :=
  .log .warning ("Introspection endpoint " ++ c.endpoint.endpoint ++ " failed, using fallback: " ++ f.message)

inductive Asked (c : Client) (token : String) : Except Failure TokenInfo → List Event → Prop
  | alone {r : Request} {outcome : Except Failure TokenInfo} {es : List Event}
    (made : c.endpoint.request token false = .ok r) (block : BlockJournal r outcome es)
    (stays : ∀ f, outcome = .error f → (f.kind.allowsFallback && c.endpoint.fallback.isSome) = false)
    (unswitched : said "Introspection endpoint " es = []) : Asked c token outcome es
  | both {r r' : Request} {f : Failure} {outcome : Except Failure TokenInfo} {es es' : List Event}
    (made : c.endpoint.request token false = .ok r) (block : BlockJournal r (.error f) es)
    (switches : (f.kind.allowsFallback && c.endpoint.fallback.isSome) = true)
    (made' : c.endpoint.request token true = .ok r') (block' : BlockJournal r' outcome es')
    (switched : said "Introspection endpoint " (es ++ usingFallback c f :: es') = [usingFallback c f]) :
    Asked c token outcome (es ++ usingFallback c f :: es')

theorem opensWith_usingFallback (c : Client) (f : Failure) :
    (usingFallback c f).opensWith "Introspection endpoint " = true := by
  simp only [usingFallback, String.append_assoc]
  exact opensWith_append ..

theorem RoundJournal.unswitched {es : List Event} (h : RoundJournal r k es) :
    said "Introspection endpoint " es = [] := h.said_eq_nil (by decide +kernel)

section

variable {token : String} {first : Request} {b : Budget} (made : c.endpoint.request token false = .ok first)
  (within : b.isExhausted = false)
include made within

theorem asked_alone (stays : ∀ f, (c.call (some b) first n).result = .error f →
      (f.kind.allowsFallback && c.endpoint.fallback.isSome) = false) :
    c.Asked token (c.askBoth (some b) token n).result (journal (c.askBoth (some b) token n).events) := by
  have asked : c.ask (some b) token false = c.call (some b) first := ask_of_request made
  have block := blockJournal_call within c first n
  rw [askBoth_stays (by rwa [asked]), asked]
  exact .alone made block stays block.rounds.unswitched

theorem asked_both {second : Request} (made' : c.endpoint.request token true = .ok second) {f : Failure}
    (failed : (c.call (some b) first n).result = .error f)
    (switches : (f.kind.allowsFallback && c.endpoint.fallback.isSome) = true) :
    c.Asked token (c.askBoth (some b) token n).result (journal (c.askBoth (some b) token n).events) := by
  have asked : c.ask (some b) token false = c.call (some b) first := ask_of_request made
  have asked' : c.ask (some b) token true = c.call (some b) second := ask_of_request made'
  have block := blockJournal_call within c first n
  have block' := blockJournal_call within c second (c.call (some b) first n).network
  rw [failed] at block
  rw [askBoth_switches (by rwa [asked]) switches, asked, asked']
  show c.Asked token _ (journal (_ ++ usingFallback c f :: _))
  rw [journal_append, show journal (usingFallback c f :: (c.call (some b) second _).events) =
    usingFallback c f :: journal _ from rfl]
  refine .both made block switches made' block' ?_
  rw [said_append, block.rounds.unswitched, List.nil_append]
  exact (List.filter_cons_of_pos (opensWith_usingFallback c f)).trans
    (congrArg (_ :: ·) block'.rounds.unswitched)

theorem asked_askBoth
    (made' : c.endpoint.fallback.isSome = true → ∃ second, c.endpoint.request token true = .ok second)
    (n : Network) :
    c.Asked token (c.askBoth (some b) token n).result (journal (c.askBoth (some b) token n).events) := by
  cases came : (c.call (some b) first n).result with
  | ok t => exact asked_alone made within fun f failed => by cases came.symm.trans failed
  | error f =>
    cases switches : f.kind.allowsFallback && c.endpoint.fallback.isSome with
    | true =>
      obtain ⟨second, made'⟩ := made' (Bool.and_eq_true_iff.1 switches).2
      exact asked_both made within made' came switches
    | false =>
      refine asked_alone made within fun g failed => ?_
      obtain rfl := Except.error.inj (came.symm.trans failed)
      exact switches

end

theorem Asked.said_eq_nil {token : String} {outcome : Except Failure TokenInfo} {es : List Event}
    (h : c.Asked token outcome es) {words : String}
    (unrelated : ∀ start ∈ ["Request to ", "Attempt ", "stamina.retry_scheduled"], startsApart words start = true)
    (switch : startsApart words "Introspection endpoint " = true) : said words es = [] := by
  cases h with
  | alone _ block _ _ => exact block.rounds.said_eq_nil unrelated
  | @both _ _ f _ es es' _ block _ _ block' _ =>
    have silent : said words [usingFallback c f] = [] :=
      List.filter_cons_of_neg (by simp [not_opensWith switch (opensWith_usingFallback c f)])
    show said words (es ++ ([usingFallback c f] ++ es')) = []
    rw [said_append, said_append, block.rounds.said_eq_nil unrelated, silent, block'.rounds.said_eq_nil unrelated]
    rfl

/-! ### Whole calls -/

def concludes (e : Event) : Bool :=
  e.opensWith "Introspected token " || e.opensWith "Token introspection failed: " ||
    e.opensWith "Unexpected error during token introspection"

theorem isRecord_of_concludes {e : Event} (h : concludes e = true) : e.isRecord = true := by
  simp only [concludes, Bool.or_eq_true] at h
  rcases h with (h | h) | h <;> exact Event.isRecord_of_opensWith h

theorem concludes_failureRecord (f : Failure) (shown : List String) : concludes (failureRecord f shown) = true := by
  unfold failureRecord
  split
  · simp [concludes, opensWith_append]
  · have opening := opensWith_append "Unexpected error during token introspection" "" .error (some ⟨f, shown⟩)
    simp only [String.append_empty] at opening
    simp [concludes, opening]

theorem concludes_outcomeRecord (c : Client) (token : String) (shown : List String)
    (outcome : Except Failure TokenInfo) : concludes (c.outcomeRecord token shown outcome) = true := by
  cases outcome with
  | ok t =>
    have opening : (c.outcomeRecord token shown (.ok t)).opensWith "Introspected token " = true := by
      simp only [outcomeRecord, String.append_assoc]
      exact opensWith_append ..
    simp [concludes, opening]
  | error f => exact concludes_failureRecord f shown

theorem Asked.not_concludes {token : String} {outcome : Except Failure TokenInfo} {es : List Event}
    (h : c.Asked token outcome es) : es.filter concludes = [] := by
  have success : said "Introspected token " es = [] := h.said_eq_nil (by decide +kernel) (by decide +kernel)
  have failure : said "Token introspection failed: " es = [] := h.said_eq_nil (by decide +kernel) (by decide +kernel)
  have surprise : said "Unexpected error during token introspection" es = [] :=
    h.said_eq_nil (by decide +kernel) (by decide +kernel)
  simp only [said, List.filter_eq_nil_iff] at success failure surprise ⊢
  intro e member
  simp [concludes, success e member, failure e member, surprise e member]

/-- How a call went whose asking left `asked` in the journal and came to `outcome`: the record of the outcome is the
last one, and no other record is one of an outcome. -/
structure Journaled (run : Step (Except Failure TokenInfo)) (outcome : Except Failure TokenInfo)
    (asked : List Event) (record : Event) : Prop where
  result : run.result = outcome.mapError leaving
  entries : journal run.events = asked ++ [record]
  last : (run.events.filter Event.isRecord).getLast? = some record
  once : run.events.filter concludes = [record]

theorem journaled_of_events {run : Step (Except Failure TokenInfo)} {outcome : Except Failure TokenInfo}
    {front asked back : List Event} {record : Event} {span : Span}
    (result : run.result = outcome.mapError leaving) (before : ∀ e ∈ front, e.IsSignal)
    (behind : ∀ e ∈ back, e.IsSignal) (concluding : concludes record = true)
    (silent : (journal asked).filter concludes = [])
    (events : run.events = front ++ asked ++ (back ++ [record, .span span])) :
    Journaled run outcome (journal asked) record := by
  have isRecord := isRecord_of_concludes concluding
  -- Of what stands around the asking only the record is an entry.
  have closing : journal [record, .span span] = [record] :=
    List.filter_cons_of_pos (Event.isEntry_of_isRecord isRecord)
  have entries : journal run.events = journal asked ++ [record] := by
    rw [events, journal_append, journal_append, journal_append, journal_of_signals before,
      journal_of_signals behind, closing]
    rfl
  refine ⟨result, entries, ?_, ?_⟩
  · rw [← filter_journal fun _ => Event.isEntry_of_isRecord, entries, List.filter_append,
      List.filter_cons_of_pos isRecord]
    exact List.getLast?_concat
  · rw [← filter_journal fun _ h => Event.isEntry_of_isRecord (isRecord_of_concludes h), entries,
      List.filter_append, silent, List.filter_cons_of_pos concluding]
    rfl

theorem retries_journaled {fields : Json.Members} (accepted : Endpoint.ofFields fields = .ok c.endpoint)
    (nonempty : c.endpoint.endpoint ≠ "") (nonemptyFallback : c.endpoint.fallback ≠ some "") {b : Budget}
    (positive : b.isExhausted = false) (given : GivenToken) (n : Network) :
    let run := c.introspectWithin (some b) given n
    (∀ token, given.accept = .ok token → ∃ outcome asked, c.Asked token outcome asked ∧
        Journaled run outcome asked (c.outcomeRecord token (given.shown ++ Trace.shownBy asked) outcome)) ∧
      ∀ f, given.accept = .error f → Journaled run (.error f) [] (failureRecord f given.shown) := by
  constructor
  · intro token acceptable
    obtain ⟨first, made, made'⟩ := exists_requests accepted nonempty nonemptyFallback token
    obtain ⟨result, front, back, before, behind, events⟩ := events_of_accepted (c := c) acceptable (some b) n
    have asked := asked_askBoth made positive made' n
    refine ⟨_, _, asked, ?_⟩
    rw [← shownBy_journal] at events
    exact journaled_of_events result before behind (c.concludes_outcomeRecord token _ _) asked.not_concludes events
  · intro f refused
    obtain ⟨result, front, before, events⟩ := events_of_refused (c := c) refused (some b) n
    have whole : (c.introspectWithin (some b) given n).events =
        front ++ [] ++ ([] ++ [failureRecord f given.shown, .span (Span.fail {} f (leaving f))]) := by
      rw [events, List.append_nil, List.nil_append]
    exact journaled_of_events result before (by simp) (concludes_failureRecord f _) rfl whole

/-- The endpoint and then the fallback fail with status 503 until the attempts are used up. -/
theorem retries_journaled_twice :
    let endpoint : Endpoint := {
      endpoint := "https://a.example/i", fallback := some "https://b.example/i", method := .post }
    let client : Client := {
      endpoint
      parser := fun _ _ => .ok {}
      policy := { attempts := 2, waitInitial := .zero }
      budget := .whole 1 }
    let refused : Answer := { status := 503 }
    let n : Network := { servers := [("a.example", ⟨⟨.zero, .ok refused⟩, []⟩),
      ("b.example", ⟨⟨.zero, .ok refused⟩, []⟩)] }
    let given : GivenToken := .text (.whole " t ")
    let run := client.introspectWithin (some client.budget) given n
    (∃ outcome asked, client.Asked "t" outcome asked ∧
      Journaled run outcome asked (client.outcomeRecord "t" (given.shown ++ Trace.shownBy asked) outcome)) ∧
      (said "Attempt " run.events).length = 4 := by
  intro endpoint client refused n given run
  have accepted : Endpoint.ofFields [("endpoint", .str "https://a.example/i"),
      ("fallback_endpoint", .str "https://b.example/i"), ("method", .str "POST")] = .ok client.endpoint := by
    decide +kernel
  have journaled := retries_journaled accepted (by decide) (by decide) (b := client.budget) (by decide +kernel)
    given n
  exact ⟨journaled.1 "t" (by decide +kernel), by decide +kernel⟩

end Client

end Bearer
