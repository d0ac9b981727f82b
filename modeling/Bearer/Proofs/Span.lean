import Bearer.Proofs.Agreement
import Bearer.Proofs.GivenToken
import Bearer.Proofs.Journal
import Bearer.Proofs.Runs

/-!
The span of a call. Asking the endpoints finishes no span, so the one that stands at the end of a call is the only
one, and it tells of what the call caught and of what came of it (`finishes_one_span`).
-/

namespace Bearer

@[simp] theorem spans_append (es fs : List Event) : spans (es ++ fs) = spans es ++ spans fs :=
  List.filterMap_append

theorem spans_of_signals {es : List Event} (signals : ∀ e ∈ es, e.IsSignal) : spans es = [] := by
  refine List.filterMap_eq_nil_iff.2 fun e member => ?_
  have signal := signals e member
  cases e with
  | span _ => cases signal
  | _ => rfl

theorem spans_record {e : Event} (record : e.isRecord = true) (es : List Event) : spans (e :: es) = spans es := by
  cases e with
  | log _ _ _ => rfl
  | _ => cases record

/-- How a span tells of a call that caught one thing and came to another. -/
structure Span.Tells (s : Span) (c : Client) (given : GivenToken) (caught result : Except Failure TokenInfo) :
    Prop where
  ok_iff : s.failure = none ↔ ∃ t, result = .ok t
  ok : ∀ t, result = .ok t → s.active = some t.active ∧ s.recorded = []
  error : ∀ g, result = .error g → s.active = none ∧ s.failure = some (g.kind.word ++ ": " ++ g.message) ∧
    ∃ f, caught = .error f ∧ g = Client.leaving f ∧
      s.recorded = [(f.kind.word, f.message), (g.kind.word, g.message)]
  named : ∀ text, given.Spells text → s.endpoint = some c.endpoint.endpoint ∧
    s.fingerprint = some (Token.fingerprint c.salt (Text.strip text))
  unnamed : (∀ text, ¬ given.Spells text) → s.endpoint = none ∧ s.fingerprint = none

namespace Client

variable {c : Client}

theorem spans_execute (c : Client) (r : Request) (n : Network) : spans (c.execute r n).events = [] := by
  have performed : spans (c.perform r n).events = [] := by
    refine List.filterMap_eq_nil_iff.2 fun e member => ?_
    have sending := sending_perform c r n e member
    cases e with
    | span _ => cases sending
    | _ => rfl
  show spans (_ ++ _) = []
  rw [spans_append, performed]
  rfl

theorem Runs.spans_eq_nil {n m : Network} {xs : List (Request × Network)} {es : List Event}
    (h : c.Runs Event.IsAside n xs es m) : spans es = [] := by
  induction h with
  | done _ => rfl
  | @note _ _ _ e _ noted _ ih =>
    cases e with
    | span _ => cases noted
    | _ => exact ih
  | wait _ _ ih => exact ih
  | execute r _ ih => rw [spans_append, spans_execute, ih]; rfl

theorem spans_askBoth (c : Client) (budget : Option Budget) (token : String) (n : Network) :
    spans (c.askBoth budget token n).events = [] := by
  obtain ⟨_, runs⟩ := does_askBoth c budget token n
  exact runs.spans_eq_nil

theorem tells_outcomeSpan {given : GivenToken} {token : String} (accepted : given.accept = .ok token)
    (outcome : Except Failure TokenInfo) :
    (c.outcomeSpan token outcome).Tells c given outcome (outcome.mapError leaving) := by
  have endpoint : (c.outcomeSpan token outcome).endpoint = some c.endpoint.endpoint := by cases outcome <;> rfl
  have fingerprint : (c.outcomeSpan token outcome).fingerprint = some (Token.fingerprint c.salt token) := by
    cases outcome <;> rfl
  have named (text : String) (spelled : given.Spells text) : token = Text.strip text := by
    have accepted' := GivenToken.accept_eq_ok_iff.2 ⟨text, spelled, rfl⟩
    exact Except.ok.inj (accepted.symm.trans accepted')
  refine ⟨?_, ?_, ?_, fun text spelled => ⟨endpoint, named text spelled ▸ fingerprint⟩, fun unspelled => ?_⟩
  · cases outcome with
    | ok t => exact ⟨fun _ => ⟨t, rfl⟩, fun _ => rfl⟩
    | error f => exact ⟨nofun, nofun⟩
  · rintro t came
    cases outcome with
    | ok t' =>
      obtain rfl := Except.ok.inj came
      exact ⟨rfl, rfl⟩
    | error f => cases came
  · rintro g came
    cases outcome with
    | ok t => cases came
    | error f =>
      obtain rfl := Except.error.inj came
      exact ⟨rfl, rfl, f, rfl, rfl, rfl⟩
  · obtain ⟨text, spelled, -⟩ := GivenToken.accept_eq_ok_iff.1 accepted
    exact absurd spelled (unspelled text)

theorem tells_of_refused {given : GivenToken} {f : Failure} (refused : given.accept = .error f) :
    (Span.fail {} f (leaving f)).Tells c given (.error f) (.error (leaving f)) := by
  refine ⟨⟨nofun, nofun⟩, nofun, ?_, fun text spelled => ?_, fun _ => ⟨rfl, rfl⟩⟩
  · rintro g came
    obtain rfl := Except.error.inj came
    exact ⟨rfl, rfl, f, rfl, rfl, rfl⟩
  · have accepted := GivenToken.accept_eq_ok_iff.2 ⟨text, spelled, rfl⟩
    cases refused.symm.trans accepted

theorem spans_introspectWithin (c : Client) (budget : Option Budget) (given : GivenToken) (n : Network) :
    ∃ s, spans (c.introspectWithin budget given n).events = [s] ∧
      s.Tells c given (c.caught budget given n) (c.introspectWithin budget given n).result := by
  cases acceptable : given.accept with
  | ok token =>
    obtain ⟨result, front, back, before, behind, events⟩ := events_of_accepted (c := c) acceptable budget n
    have caught : c.caught budget given n = (c.askBoth budget token n).result := by rw [Client.caught, acceptable]
    have spanned : spans (c.introspectWithin budget given n).events =
        [c.outcomeSpan token (c.askBoth budget token n).result] := by
      rw [events, spans_append, spans_append, spans_append, spans_of_signals before, spans_askBoth,
        spans_of_signals behind, spans_record (isRecord_of_concludes (c.concludes_outcomeRecord token _ _))]
      rfl
    rw [caught, result, spanned]
    exact ⟨_, rfl, tells_outcomeSpan acceptable _⟩
  | error f =>
    obtain ⟨result, front, before, events⟩ := events_of_refused (c := c) acceptable budget n
    have caught : c.caught budget given n = .error f := by rw [Client.caught, acceptable]
    have spanned : spans (c.introspectWithin budget given n).events = [Span.fail {} f (leaving f)] := by
      rw [events, spans_append, spans_of_signals before,
        spans_record (isRecord_of_concludes (concludes_failureRecord f _))]
      rfl
    rw [caught, result, spanned]
    exact ⟨_, rfl, tells_of_refused acceptable⟩

theorem userOf_apply (a : Action (Except Failure TokenInfo)) (n : Network) :
    (userOf a n).result = (a n).result.bind TokenInfo.toUser ∧ (userOf a n).events = (a n).events := by
  rw [userOf, Action.bind_apply]
  cases (a n).result <;> exact ⟨rfl, List.append_nil _⟩

end Client

end Bearer
