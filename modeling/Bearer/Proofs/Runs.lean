import Bearer.Proofs.Retry.Budget

/-!
Runs. What a client does is executions one after another, each in the network that the one before left,
with waits of its policy and notes in between (`Client.Runs`). Everything that a client or a session can do
is such a run (`does_introspectWithin`, `Session.runs_runAll`), so what one execution, one wait and one note
keep is kept by all of it.
-/

namespace Bearer

open Double (NotNegative)

def Event.IsAside : Event → Prop
  | .log _ _ none | .attempt .. => True
  | _ => False

def Signal.isServiceCall : Signal → Bool
  | .serviceCall _ | .serviceCallSuccess _ | .serviceCallFailure _ => true
  | _ => false

/-- A note of a session: one of a call, or one about the whole request. Traces are those of failures that are
none of this library. -/
def Event.IsRemark : Event → Prop
  | .log _ _ trace => ∀ t ∈ trace, t.met.kind.isIntrospection = false
  | .attempt .. | .span _ => True
  | .signal s _ => s.isServiceCall = false
  | _ => False

theorem Event.IsAside.isRemark {e : Event} (aside : e.IsAside) : e.IsRemark := by
  cases e with
  | attempt => trivial
  | log level message trace =>
    cases trace with
    | none => exact fun _ member => nomatch member
    | some t => cases aside
  | _ => cases aside

def traces (events : List Event) : List Trace :=
  events.filterMap fun
    | .log _ _ trace => trace
    | _ => none

theorem mem_traces {t : Trace} {events : List Event} :
    t ∈ traces events ↔ ∃ level message, .log level message (some t) ∈ events := by
  rw [traces, List.mem_filterMap]
  constructor
  · rintro ⟨e, member, found⟩
    cases e with
    | log level message trace =>
      obtain rfl : trace = some t := found
      exact ⟨level, message, member⟩
    | _ => cases found
  · rintro ⟨level, message, member⟩
    exact ⟨_, member, rfl⟩

namespace Client

theorem untraced_execute (c : Client) (r : Request) {t : Trace} {level : Level} {message : String} :
    (c.execute r).Emits (· ≠ .log level message (some t)) := by
  have exchanged : (exchange c.maxResponseBytes r).Emits (· ≠ .log level message (some t)) :=
    (emits_exchange _ _).mono fun e exchanged same => by
      subst same
      cases exchanged
  exact emits_bind (emits_perform (fun _ _ => nofun) exchanged) fun x =>
    emits_bind (emits_emit nofun) fun _ => emits_silent fun _ => rfl

/-- `es` are the events of executions, the first of which meets the network `n`, with waits and notes in
between. Each execution is there with the network that it meets, and the last network is `m`. -/
inductive Runs (c : Client) (Note : Event → Prop) :
    Network → List (Request × Network) → List Event → Network → Prop
  | done (n : Network) : Runs c Note n [] [] n
  | note {n m : Network} {xs : List (Request × Network)} {e : Event} {es : List Event} (noted : Note e)
    (rest : Runs c Note n xs es m) : Runs c Note n xs (e :: es) m
  | wait {n m : Network} {xs : List (Request × Network)} {es : List Event} (k : Nat)
    (rest : Runs c Note (c.policy.waited k n) xs es m) :
    Runs c Note n xs (.wait (c.policy.wait n.jitter k) :: es) m
  | execute {n m : Network} {xs : List (Request × Network)} {es : List Event} (r : Request)
    (rest : Runs c Note (c.execute r n).network xs es m) :
    Runs c Note n ((r, n) :: xs) ((c.execute r n).events ++ es) m

variable {c : Client} {Note Note' : Event → Prop} {n m k : Network} {xs ys : List (Request × Network)}
  {es fs : List Event}

theorem Runs.trans (h : c.Runs Note n xs es m) (h' : c.Runs Note m ys fs k) :
    c.Runs Note n (xs ++ ys) (es ++ fs) k := by
  induction h with
  | done n => exact h'
  | note noted _ ih => exact .note noted (ih h')
  | wait k _ ih => exact .wait k (ih h')
  | execute r _ ih =>
    rw [List.append_assoc]
    exact .execute r (ih h')

theorem Runs.mono (h : c.Runs Note n xs es m) (weaker : ∀ e, Note e → Note' e) : c.Runs Note' n xs es m := by
  induction h with
  | done n => exact .done n
  | note noted _ ih => exact .note (weaker _ noted) ih
  | wait k _ ih => exact .wait k ih
  | execute r _ ih => exact .execute r ih

/-- A trace is that of a failure that is none of this library. -/
theorem Runs.traced (h : c.Runs Event.IsRemark n xs es m) :
    ∀ t ∈ traces es, t.met.kind.isIntrospection = false := by
  intro t member
  rw [mem_traces] at member
  obtain ⟨level, message, member⟩ := member
  induction h with
  | done n => cases member
  | note noted _ ih =>
    rcases List.mem_cons.1 member with rfl | member
    · exact noted t rfl
    · exact ih member
  | wait k _ ih =>
    rcases List.mem_cons.1 member with logged | member
    · cases logged
    · exact ih member
  | execute r _ ih =>
    rcases List.mem_append.1 member with member | member
    · exact absurd rfl (untraced_execute c r _ _ member)
    · exact ih member

theorem runs_of_notes (noted : ∀ e ∈ es, Note e) (n : Network) : c.Runs Note n [] es n := by
  induction es with
  | nil => exact .done n
  | cons e es ih =>
    exact .note (noted e List.mem_cons_self) (ih fun e member => noted e (List.mem_cons_of_mem _ member))

/-- Time passes in a run, if the policy's waits do not lead back. -/
theorem Runs.later (sound : c.policy.Sound) (h : c.Runs Note n xs es m) (ordinary : n.Ordinary)
    (share : NotNegative n.jitter) : n.Later m ∧ ∀ x ∈ xs, n.clock.le x.2.clock = true := by
  induction h with
  | done n => exact ⟨.refl n, by simp⟩
  | note _ _ ih => exact ih ordinary share
  | @wait n _ _ _ k _ ih =>
    have forward := RetryPolicy.zero_le_wait sound share k
    have waited : n.Later (c.policy.waited k n) :=
      ⟨rfl, fun ordinary => ⟨RetryPolicy.ordinary_waited sound share k ordinary, ordinary.time.le_add forward⟩⟩
    obtain ⟨later, met⟩ := ih (waited.forward ordinary).1 share
    exact ⟨waited.trans later, fun x member => Double.le_trans (waited.forward ordinary).2 (met x member)⟩
  | @execute n _ _ _ r _ ih =>
    have executed := later_execute c r n
    have after := executed.forward ordinary
    obtain ⟨later, met⟩ := ih after.1 (executed.jitter.symm ▸ share)
    refine ⟨executed.trans later, fun x member => ?_⟩
    rcases List.mem_cons.1 member with rfl | member
    · exact Double.le_refl ordinary.time.number
    · exact Double.le_trans after.2 (met x member)

/-! ### Actions that are runs -/

def Does (c : Client) (Note : Event → Prop) (a : Action α) : Prop :=
  ∀ n, ∃ xs, c.Runs Note n xs (a n).events (a n).network

variable {a : Action α} {r : Request} {budget : Option Budget}

theorem does_bind {f : α → Action β} (first : c.Does Note a) (later : ∀ x, c.Does Note (f x)) :
    c.Does Note (a >>= f) := by
  intro n
  obtain ⟨xs, runs⟩ := first n
  obtain ⟨ys, runs'⟩ := later (a n).result (a n).network
  exact ⟨xs ++ ys, runs.trans runs'⟩

theorem does_of_emits (noted : a.Emits Note) (quiet : a.Quiet) : c.Does Note a := by
  intro n
  rw [(quiet n).2]
  exact ⟨[], runs_of_notes (noted n) n⟩

theorem does_pure (x : α) : c.Does Note (pure x : Action α) := fun n => ⟨[], .done n⟩

theorem Does.recorded (h : c.Does Note a) : c.Does Note a.recorded := h

theorem Does.mono (h : c.Does Note a) (weaker : ∀ e, Note e → Note' e) : c.Does Note' a := by
  intro n
  obtain ⟨xs, runs⟩ := h n
  exact ⟨xs, runs.mono weaker⟩

theorem does_log (level : Level) (message : String) : c.Does Event.IsAside (Action.log level message) :=
  does_of_emits (emits_emit trivial) (quietness.log level message none)

theorem does_execute (c : Client) (r : Request) : c.Does Note (c.execute r) := by
  intro n
  refine ⟨[(r, n)], ?_⟩
  rw [← List.append_nil (c.execute r n).events]
  exact .execute r (.done _)

theorem does_attempt (c : Client) (r : Request) (k : Nat) : c.Does Event.IsAside (c.attempt r k) := by
  apply does_bind (does_execute c r)
  intro outcome
  cases outcome with
  | ok t => exact does_pure _
  | error f =>
    refine does_bind (?_ : c.Does _ (reportAttempt r k f)) fun _ => does_pure _
    unfold reportAttempt
    split
    · exact does_log _ _
    · exact does_pure _

theorem does_call (c : Client) (budget : Option Budget) (r : Request) :
    c.Does Event.IsAside (c.call budget r) := by
  intro n
  cases budget with
  | none => exact does_execute c r n
  | some b =>
    cases exhausted : b.isExhausted with
    | true =>
      rw [call_exhausted exhausted]
      exact does_pure _ n
    | false =>
      rw [call_within exhausted]
      refine RetryPolicy.attemptFrom_induction (motive := fun _ _ n run =>
        ∃ xs, c.Runs Event.IsAside n xs run.events run.network) (fun _ k n _ => ?_)
        (fun _ k n f rest _ _ _ ih => ?_) _ _ n
      · obtain ⟨xs, runs⟩ := does_attempt c r k n
        exact ⟨xs, .note trivial runs⟩
      · obtain ⟨xs, runs⟩ := does_attempt c r k n
        obtain ⟨ys, rest⟩ := ih
        exact ⟨xs ++ ys, .note trivial (runs.trans (.note trivial (.wait k rest)))⟩

theorem does_ask (c : Client) (budget : Option Budget) (token : String) (fallback : Bool) :
    c.Does Event.IsAside (c.ask budget token fallback) := by
  unfold ask
  cases c.endpoint.request token fallback with
  | error f => exact does_pure _
  | ok r => exact does_call c budget r

theorem does_askBoth (c : Client) (budget : Option Budget) (token : String) :
    c.Does Event.IsAside (c.askBoth budget token) := by
  apply does_bind (does_ask c budget token false)
  intro outcome
  cases outcome with
  | ok t => exact does_pure _
  | error f =>
    dsimp only
    split
    · exact does_bind (does_log _ _) fun _ => does_ask c budget token true
    · exact does_pure _

theorem does_tell {s : Signal} (own : s.isServiceCall = false) (listening : Bool) :
    c.Does Event.IsRemark (Action.tell listening s) :=
  does_of_emits (emits_tell listening fun _ => own) (quietness.tell listening s)

theorem does_span (s : Span) : c.Does Event.IsRemark (Action.emit (.span s)) :=
  does_of_emits (emits_emit trivial) (quiet_emit rfl)

theorem isRemark_failureRecord (f : Failure) (shown : List String) : (failureRecord f shown).IsRemark := by
  unfold failureRecord
  split
  next => exact fun _ member => nomatch member
  next foreign =>
    intro t member
    obtain rfl := Option.some.inj (Option.mem_def.1 member)
    exact Bool.eq_false_iff.2 foreign

theorem does_fail (c : Client) (started : Double) (span : Span) (f : Failure) (shown : List String) :
    c.Does Event.IsRemark (c.fail started span f shown) := by
  apply does_bind (does_tell rfl _)
  intro _
  rw [reportFailure_eq]
  have quiet := quietness.note (isNote_failureRecord f shown)
  apply does_bind (does_of_emits (emits_emit (isRemark_failureRecord f shown)) quiet)
  intro _
  exact does_bind (does_span _) fun _ => does_pure _

theorem does_succeed (c : Client) (started : Double) (span : Span) (fingerprint : String) (t : TokenInfo) :
    c.Does Event.IsRemark (c.succeed started span fingerprint t) := by
  apply does_bind (does_tell rfl _)
  intro _
  apply does_bind ((does_log _ _).mono fun _ => Event.IsAside.isRemark)
  intro _
  exact does_bind (does_span _) fun _ => does_pure _

theorem does_introspectWithin (c : Client) (budget : Option Budget) (given : GivenToken) :
    c.Does Event.IsRemark (c.introspectWithin budget given) := by
  apply does_bind (a := Action.clock) fun n => ⟨[], .done n⟩
  intro started
  apply does_bind (does_tell rfl _)
  intro _
  apply does_bind (does_tell rfl _)
  intro _
  cases given.accept with
  | error f => exact does_fail c _ _ f _
  | ok token =>
    apply does_bind ((does_askBoth c budget token).recorded.mono fun _ => Event.IsAside.isRemark)
    rintro ⟨outcome, asked⟩
    cases outcome with
    | ok t => exact does_succeed c _ _ _ t
    | error f => exact does_fail c _ _ f _

end Client

/-! ### Sessions -/

namespace Session

theorem does_introspect (s : Session) (token : GivenToken) (budget : Option Budget) :
    s.client.Does Event.IsRemark (s.introspect token budget) := by
  have asks (budget : Option Budget) : s.client.Does Event.IsRemark (s.client.introspectWithin budget token) :=
    s.client.does_introspectWithin budget token
  unfold introspect
  split
  · split
    · exact Client.does_pure _
    · exact asks _
  · exact asks none

theorem does_close (s : Session) : s.client.Does Event.IsRemark s.close := by
  unfold close
  split
  · split
    · exact Client.does_pure _
    · exact Client.does_bind ((Client.does_log _ _).mono fun _ => Event.IsAside.isRemark) fun _ =>
        Client.does_pure _
  · exact Client.does_pure _

theorem does_run (s : Session) (call : Call) : s.client.Does Event.IsRemark (s.run call) := by
  cases call with
  | introspect token budget =>
    exact Client.does_bind (s.does_introspect token budget) fun _ => Client.does_pure _
  | introspectWithRetry token budget =>
    exact Client.does_bind (s.client.does_introspectWithin _ token) fun _ => Client.does_pure _
  | getUser token budget =>
    apply Client.does_bind _ fun _ => Client.does_pure _
    apply Client.does_bind (s.does_introspect token budget)
    intro outcome
    cases outcome <;> exact Client.does_pure _
  | submit token budget name =>
    show s.client.Does Event.IsRemark (s.submit token budget name)
    unfold submit
    split
    · exact Client.does_pure _
    · exact Client.does_bind (s.client.does_introspectWithin _ token) fun _ => Client.does_pure _
  | result name => exact Client.does_pure _
  | close => exact Client.does_bind s.does_close fun _ => Client.does_pure _
  | state => exact Client.does_pure _
  | scope => exact Client.does_bind s.does_close fun _ => Client.does_pure _

theorem runs_runAll (s : Session) (calls : List Call) (n : Network) : ∃ xs,
    s.client.Runs Event.IsRemark n xs (s.runAll calls n).events (s.runAll calls n).network := by
  induction calls generalizing s n with
  | nil => exact ⟨[], .done n⟩
  | cons call calls ih =>
    obtain ⟨xs, first⟩ := s.does_run call n
    obtain ⟨ys, later⟩ := ih (s.run call n).result.1 (s.run call n).network
    rw [client_run] at later
    exact ⟨xs ++ ys, first.trans later⟩

end Session

end Bearer
