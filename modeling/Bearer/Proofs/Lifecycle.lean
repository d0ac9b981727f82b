import Mathlib.Data.Fintype.Basic
import Mathlib.Tactic.FinCases
import Bearer.Proofs.Network

/-!
The life of a background client. Each token that it hands over leaves its books as they were, in
whatever order the two threads come to it (`Books.submit_eq`); so between calls nothing is on its way
and nothing is pending. Closing is the only call that changes more than books and outcomes, and it
happens once.
-/

namespace Bearer

/-! ### Books -/

namespace Books

structure Idle (b : Books) : Prop where
  submitting : b.submitting = 0
  pending : b.pending = []

/-- In any order of the threads' steps the books are as they were, and the future is finished. -/
theorem submit_eq {b : Books} (fresh : b.made ∉ b.pending) (pace : Pace) :
    (b.submit pace).books = { b with made := b.made + 1 } ∧ (b.submit pace).future.finished = true := by
  have filed : b.pending.insert b.made = b.made :: b.pending := List.insert_of_not_mem fresh
  obtain ⟨finishing, callingBack, inOrder⟩ := pace
  -- six orders, in three of which the caller discards the future, and in three the other thread
  fin_cases finishing <;> fin_cases callingBack <;> first
    | exact absurd inOrder (by decide)
    | simp [submit, Handover.meet, Handover.start, Handover.file, Handover.watch, Handover.finish, Handover.callBack,
        Handover.discard, filed]

theorem Idle.submit {b : Books} (idle : b.Idle) (pace : Pace) : (b.submit pace).books.Idle := by
  have fresh : b.made ∉ b.pending := by simp [idle.pending]
  rw [(submit_eq fresh pace).1]
  exact ⟨idle.submitting, idle.pending⟩

end Books

theorem Connection.release_of_borrowed {c : Connection} (borrowed : c.owned = false) : c.release = c := by
  obtain ⟨owned, isOpen⟩ := c
  obtain rfl : owned = false := borrowed
  exact congrArg (Connection.mk false) (Bool.and_true isOpen)

/-! ### One call -/

def Call.closes : Call → Bool
  | .close | .scope => true
  | _ => false

namespace Session

variable {s t u : Session} {n : Network} {name : String}

/-- What calls keep of a background client, some of which may have closed it. -/
structure Kept (s t : Session) (closes : Bool) : Prop where
  mode : t.mode = s.mode
  client : t.client = s.client
  idle : t.books.Idle
  closed : t.closed = (s.closed || closes)
  connection : s.connection.owned = false → t.connection = s.connection

theorem Kept.refl (idle : s.books.Idle) : s.Kept s false :=
  ⟨rfl, rfl, idle, (Bool.or_false _).symm, fun _ => rfl⟩

theorem Kept.trans {first second : Bool} (before : s.Kept t first) (after : t.Kept u second) :
    s.Kept u (first || second) where
  mode := after.mode.trans before.mode
  client := after.client.trans before.client
  idle := after.idle
  closed := by rw [after.closed, before.closed, Bool.or_assoc]
  connection borrowed := by
    have same := before.connection borrowed
    rw [after.connection (same ▸ borrowed), same]

section

variable (idle : s.books.Idle)
include idle

theorem kept_asked : s.Kept s.asked false := by
  refine ⟨rfl, rfl, ?_, (Bool.or_false _).symm, fun _ => rfl⟩
  unfold asked
  dsimp only
  split
  · exact idle.submit _
  · exact idle

theorem kept_submit (token : GivenToken) (budget : Option Budget) (name : String) (n : Network) :
    s.Kept (s.submit token budget name n).result.1 false := by
  unfold submit
  split
  · exact .refl idle
  · exact ⟨rfl, rfl, idle.submit _, (Bool.or_false _).symm, fun _ => rfl⟩

variable (background : s.mode = .background)
include background

theorem kept_close (n : Network) : s.Kept (s.close n).result true := by
  unfold close
  rw [if_pos background]
  split
  next closed => exact ⟨rfl, rfl, idle, closed.trans (Bool.or_true _).symm, fun _ => rfl⟩
  next => exact ⟨rfl, rfl, idle, (Bool.or_true _).symm, Connection.release_of_borrowed⟩

theorem kept_run (call : Call) (n : Network) : s.Kept (s.run call n).result.1 call.closes := by
  cases call with
  | introspect token budget => exact kept_asked idle
  | introspectWithRetry token budget => exact .refl idle
  | getUser token budget => exact kept_asked idle
  | submit token budget name => exact kept_submit idle token budget name n
  | result name => exact .refl idle
  | close => exact kept_close idle background n
  | state => exact .refl idle
  | scope => exact kept_close idle background n

end

theorem kept_runAll (idle : s.books.Idle) (background : s.mode = .background) (calls : List Call)
    (n : Network) : s.Kept (s.runAll calls n).result (calls.any Call.closes) := by
  induction calls generalizing s n with
  | nil => exact .refl idle
  | cons call calls ih =>
    have first := kept_run idle background call n
    exact first.trans (ih first.idle (first.mode.trans background) _)

/-! ### Futures -/

/-- Only a submission under the same name makes another future of that name. -/
theorem outcome_run {call : Call} (other : ∀ token budget, call ≠ .submit token budget name) (n : Network) :
    (s.run call n).result.1.outcome name = s.outcome name := by
  have closed : (s.close n).result.outcome name = s.outcome name := by
    obtain ⟨_, _, left⟩ := s.result_close n
    rw [left]
    rfl
  cases call with
  | submit token budget name' =>
    show (s.submit token budget name' n).result.1.outcome name = _
    have different : (name == name') = false :=
      beq_eq_false_iff_ne.2 fun same => other token budget (same ▸ rfl)
    unfold submit
    split
    · rfl
    · show (List.lookup name ((name', _) :: s.outcomes)).getD _ = _
      rw [List.lookup_cons, different]
      rfl
  | close => exact closed
  | scope => exact closed
  | _ => rfl

theorem outcome_runAll {calls : List Call} (other : ∀ call ∈ calls, ∀ token budget, call ≠ .submit token budget name)
    (n : Network) : (s.runAll calls n).result.outcome name = s.outcome name := by
  induction calls generalizing s n with
  | nil => rfl
  | cons call calls ih =>
    obtain ⟨first, later⟩ := List.forall_mem_cons.1 other
    exact (ih later _).trans (outcome_run first n)

/-- The latest outcome of a name is the one that counts. -/
theorem outcome_eq {r : Except Failure TokenInfo} {older : List (String × Except Failure TokenInfo)}
    (latest : s.outcomes = (name, r) :: older) : s.outcome name = r := by
  unfold outcome
  rw [latest, List.lookup_cons_self]
  rfl

theorem submit_of_open (opened : s.closed = false) (token : GivenToken) (budget : Option Budget)
    (name : String) : s.submit token budget name = s.client.introspectWithRetry token budget >>= fun r =>
      pure ({ s with books := s.handover.books, outcomes := (name, r) :: s.outcomes }, .ok .submitted) := by
  unfold submit
  rw [opened]
  rfl

/-! ### The end -/

structure Over (s : Session) : Prop where
  introspect : ∀ token budget, s.run (.introspect token budget) =
    pure (s, .error (.raised .tokenInfo "Failed to send token request"))
  getUser : ∀ token budget, s.run (.getUser token budget) =
    pure (s, .error (.raised .tokenInfo "Failed to send token request"))
  submit : ∀ token budget name, s.run (.submit token budget name) =
    pure (s, .error (.raised .tokenInfo "Failed to send token request"))
  close : s.run .close = pure (s, .ok (.closed true))
  scope : s.run .scope = pure (s, .ok .left)

theorem over_of_closed (background : s.mode = .background) (closed : s.closed = true) : s.Over := by
  have asked : s.asked = s := by
    unfold Session.asked
    rw [if_neg (by simp [closed])]
  have refused (token : GivenToken) (budget : Option Budget) :
      s.introspect token budget = pure (.error closedRefusal) := by
    unfold Session.introspect
    rw [background]
    exact if_pos closed
  have left : s.close = pure s := by
    unfold Session.close
    rw [if_pos background, if_pos closed]
  constructor
  case introspect =>
    intro token budget
    show s.introspect token budget >>= _ = _
    rw [refused, asked]
    rfl
  case getUser =>
    intro token budget
    show Client.userOf (s.introspect token budget) >>= _ = _
    rw [refused, asked]
    rfl
  case submit => exact fun token budget name => if_pos closed
  case close =>
    show s.close >>= _ = _
    rw [left, ← closed]
    rfl
  case scope =>
    show s.close >>= _ = _
    rw [left]
    rfl

/-- After any calls a background client is closed if and only if one of them closed it; its books are idle,
and a borrowed connection is as it was. Until then a token that is submitted has a finished future, which
tells the same outcome after whatever else is called. From then on the client refuses all tokens and does
nothing. -/
theorem background_lifecycle (background : s.mode = .background) (opened : s.closed = false)
    (idle : s.books.Idle) (calls : List Call) (n : Network) :
    let t := (s.runAll calls n).result
    (t.closed = calls.any Call.closes ∧ t.run .state = pure (t, .ok (.closed t.closed))) ∧
    t.books.Idle ∧ (s.connection.owned = false → t.connection = s.connection) ∧
    (t.closed = false → ∀ token budget name m,
      let r := (s.client.introspectWithRetry token budget m).result
      let submission := t.run (.submit token budget name) m
      submission.result.2 = .ok .submitted ∧ t.handover.future.finished = true ∧
      ∀ later, (∀ call ∈ later, ∀ token budget, call ≠ .submit token budget name) →
        let u := (submission.result.1.runAll later submission.network).result
        u.run (.result name) = pure (u, r.map .info)) ∧
    (t.closed = true → t.Over) := by
  intro t
  have kept : s.Kept t (calls.any Call.closes) := kept_runAll idle background calls n
  refine ⟨⟨?_, rfl⟩, kept.idle, kept.connection, ?_, over_of_closed (kept.mode.trans background)⟩
  · rw [kept.closed, opened, Bool.false_or]
  · intro still token budget name m r submission
    have submitted : submission = t.submit token budget name m := rfl
    rw [submit_of_open still] at submitted
    have stored : submission.result.1.outcome name = (t.client.introspectWithRetry token budget m).result := by
      rw [submitted]
      exact outcome_eq rfl
    refine ⟨submitted ▸ rfl, ?_, ?_⟩
    · exact (Books.submit_eq (by simp [kept.idle.pending]) _).2
    · intro later others u
      have same : u.outcome name = r := by
        rw [outcome_runAll others, stored, kept.client]
      show pure (u, (u.outcome name).map Reported.info) = _
      rw [same]

/-- An empty token's future is finished before it is even filed, and tells its error after the end, too. -/
theorem background_lifecycle_ended :
    let s : Session := {
      mode := .background
      client := {
        endpoint := { endpoint := "https://a.example/i", method := .post }
        parser := FieldParser.planB.toParser 1000
        budget := .whole 1 }
      pace := fun k => if k = 1 then .hasty else .awaited }
    let n : Network := { servers := [("a.example", ⟨⟨.zero, .ok { status := 500 }⟩, []⟩)] }
    let t := (s.runAll [.introspect "t" none] n).result
    let submission := t.run (.submit " " none "f") n
    let u := (submission.result.1.runAll [.close, .state, .close] submission.network).result
    let ended := (s.runAll [.introspect "t" none, .scope] n).result
    (s.mode = .background ∧ s.closed = false ∧ s.books.Idle) ∧
      t.pace t.books.made = .hasty ∧ submission.result.2 = .ok .submitted ∧
      t.handover.future.finished = true ∧
      u.run (.result "f") = pure (u, .error Token.refusal) ∧
      ended.closed = true ∧ ended.connection = s.connection ∧ ended.books.Idle ∧ ended.Over := by
  intro s n t submission u ended
  have idle : s.books.Idle := ⟨rfl, rfl⟩
  obtain ⟨⟨still, -⟩, -, -, submits, -⟩ := background_lifecycle rfl rfl idle [.introspect "t" none] n
  obtain ⟨reported, finished, tells⟩ := submits still " " none "f" n
  have told := tells [.close, .state, .close] (by simp)
  obtain ⟨⟨closed, -⟩, empty, kept, -, refuses⟩ :=
    background_lifecycle rfl rfl idle [.introspect "t" none, .scope] n
  refine ⟨⟨rfl, rfl, idle⟩, rfl, reported, finished, told.trans ?_, closed, kept rfl, empty, refuses closed⟩
  have refused : (s.client.introspectWithRetry " " none n).result = .error Token.refusal := by
    have blank : GivenToken.accept " " = .error Token.refusal := rfl
    show (s.client.introspectWithin _ _ n).result = _
    unfold Client.introspectWithin
    rw [blank]
    rfl
  rw [refused]
  rfl

end Session

end Bearer
