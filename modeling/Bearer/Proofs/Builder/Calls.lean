import Bearer.Proofs.Settings
import Bearer.Proofs.Text.CodePoint

/-!
What calls of the setters leave in a builder. Each call writes to some of the parts of a builder and leaves
the others (`held_call`), so after any calls a part holds what was written to it last (`held_after`), and
only the order of calls that write to the same part counts (`after_congr`). Settings write to no part twice,
so that their calls may be made in any order.
-/

namespace Bearer

open Json (Members Value)

/-! ### Parts -/

namespace Builder

inductive Part where
  | parser | endpoint | fallback | queryParameter | method | clientId | clientSecret | httpTimeout
  | maxResponseBytes | retryBudget | salt
  deriving DecidableEq, Repr

abbrev Part.Held : Part → Type
  | parser => Option Provider
  | endpoint | fallback | queryParameter | clientId | clientSecret => Value
  | method => RawText
  | salt => String
  | httpTimeout => Option Double
  | maxResponseBytes => Int
  | retryBudget => Option Budget

def held (b : Builder) : (part : Part) → part.Held
  | .parser => b.parser
  | .endpoint => b.endpoint
  | .fallback => b.fallback
  | .queryParameter => b.queryParameter
  | .method => b.method
  | .clientId => b.clientId
  | .clientSecret => b.clientSecret
  | .httpTimeout => b.httpTimeout
  | .maxResponseBytes => b.maxResponseBytes
  | .retryBudget => b.retryBudget
  | .salt => b.salt

theorem ext_held {b c : Builder} (same : ∀ part, b.held part = c.held part) : b = c := by
  cases b
  cases c
  simp only [Builder.mk.injEq]
  exact ⟨same .parser, same .endpoint, same .fallback, same .queryParameter, same .method, same .clientId,
    same .clientSecret, same .httpTimeout, same .maxResponseBytes, same .retryBudget, same .salt⟩

end Builder

open Builder (Part)

namespace Setting

/-- What a call writes to a part, in the form in which it is held. -/
def written? : Setting → (part : Part) → Option part.Held
  | .parser p, .parser => some (some p)
  | .endpoint v, .endpoint => some v
  | .fallback v, .fallback => some v
  | .queryParameter v, .queryParameter => some v
  | .method (.str s), .method => some s.strip.upper
  | .credentials id _, .clientId => some id
  | .credentials _ secret, .clientSecret => some secret
  | .httpTimeout seconds, .httpTimeout => some seconds
  | .maxResponseBytes n, .maxResponseBytes => some n
  | .retryBudget budget, .retryBudget => some budget
  | .salt s, .salt => some s
  | _, _ => none

def writes (call : Setting) (part : Part) : Bool := (call.written? part).isSome

def allWritten (calls : List Setting) (part : Part) : List part.Held := calls.filterMap (·.written? part)

end Setting

namespace Builder

open Setting (allWritten)

/-! ### One call -/

/-- The builder after a call. A method that is no text is refused, and nothing is set. -/
def call (b : Builder) (c : Setting) : Builder :=
  match b.set c with
  | .ok set => set
  | .error _ => b

theorem set_eq_ok_iff {b c : Builder} {s : Setting} :
    b.set s = .ok c ↔ b.call s = c ∧ ∀ v, s = .method v → ∃ text, v = .str text := by
  cases s with
  | method v => cases v <;> simp [set, call]
  | _ => simp [set, call]

theorem held_call (b : Builder) (s : Setting) (part : Part) :
    (b.call s).held part = (s.written? part).getD (b.held part) := by
  cases s with
  | method v => cases v <;> cases part <;> simp only [call, set, held, Setting.written?, Option.getD]
  | _ => cases part <;> simp only [call, set, held, Setting.written?, Option.getD]

/-! ### Calls one after another -/

def after (b : Builder) (calls : List Setting) : Builder := calls.foldl call b

theorem held_after (b : Builder) (calls : List Setting) (part : Part) :
    (b.after calls).held part = (allWritten calls part).getLast?.getD (b.held part) := by
  induction calls generalizing b with
  | nil => rfl
  | cons s calls ih =>
    have step : b.after (s :: calls) = (b.call s).after calls := rfl
    rw [step, ih, held_call, allWritten, allWritten, List.filterMap_cons]
    cases s.written? part with
    | none => rfl
    | some v => rw [List.getLast?_cons, Option.getD_some, Option.getD_some]

theorem allWritten_filter (calls : List Setting) (part : Part) :
    allWritten (calls.filter (·.writes part)) part = allWritten calls part := by
  rw [allWritten, List.filterMap_filter, allWritten]
  congr 1
  funext s
  cases written : s.written? part <;> simp [Setting.writes, written]

/-- Builders are equal after calls that write the same values to each part in the same order. -/
theorem after_congr {calls others : List Setting}
    (same : ∀ part, allWritten calls part = allWritten others part) (b : Builder) :
    b.after calls = b.after others := by
  refine ext_held fun part => ?_
  rw [held_after, held_after, same part]

end Builder

/-! ### Settings -/

open Setting (allWritten)

namespace Settings

def value? (s : Settings) : (part : Part) → Option part.Held
  | .parser => none
  | .endpoint => some (.str s.endpoint)
  | .fallback => s.fallback.map fun url => .str (.whole url)
  | .queryParameter => s.queryParameter.map fun parameter => .str (.whole parameter)
  | .method => some s.method.word
  | .clientId => s.clientId.map fun id => .str (.whole id)
  | .clientSecret => s.clientSecret.map fun secret => .str (.whole secret)
  | .httpTimeout => some (some s.httpTimeout)
  | .maxResponseBytes => some s.maxResponseBytes
  | .retryBudget => s.retryBudget.map fun budget => some (.double budget)
  | .salt => some s.salt

theorem held_ofSettings (s : Settings) (parser : Option Provider) (part : Part) :
    (Builder.ofSettings s parser).held part = (s.value? part).getD (({ parser } : Builder).held part) := by
  cases part with
  | retryBudget => cases given : s.retryBudget <;> simp [Builder.ofSettings, Builder.held, value?, given]
  | _ => rfl

def calls (s : Settings) : List Setting := [
  some (.endpoint (.str s.endpoint)),
  s.queryParameter.map fun parameter => .queryParameter (.str parameter),
  s.fallback.map fun url => .fallback (.str url),
  some (.method (.str s.method.word)),
  s.clientId.bind fun id => s.clientSecret.map fun secret => .credentials (.str id) (.str secret),
  some (.httpTimeout (some s.httpTimeout)),
  some (.maxResponseBytes s.maxResponseBytes),
  s.retryBudget.map fun budget => .retryBudget (some (.double budget)),
  some (.salt s.salt)].filterMap id

theorem upper_strip_word (m : Method) : Text.upper (Text.strip m.word) = m.word := by
  cases m <;> decide +kernel

theorem allWritten_given (calls : List (Option Setting)) (part : Part) :
    allWritten (calls.filterMap id) part = calls.flatMap fun s => (s.bind (·.written? part)).toList := by
  induction calls with
  | nil => rfl
  | cons s calls ih =>
    rw [List.flatMap_cons, ← ih]
    cases s with
    | none => rfl
    | some s =>
      simp only [allWritten, List.filterMap_cons, id, Option.bind_some]
      cases s.written? part <;> rfl

theorem allWritten_calls {s : Settings} (credentials : s.clientId.isSome = s.clientSecret.isSome)
    (part : Part) : allWritten s.calls part = (s.value? part).toList := by
  have both : (∃ id secret, s.clientId = some id ∧ s.clientSecret = some secret) ∨
      s.clientId = none ∧ s.clientSecret = none := by
    cases id : s.clientId <;> cases secret : s.clientSecret <;> simp [id, secret] at credentials ⊢
  rw [calls, allWritten_given]
  simp only [List.flatMap_cons, List.flatMap_nil, Option.bind_some, Option.bind_map]
  rcases both with ⟨id, secret, hid, hsecret⟩ | ⟨hid, hsecret⟩
  all_goals
    cases part <;> simp [Setting.written?, value?, hid, hsecret, upper_strip_word, Option.map_eq_bind,
      Function.comp_def]

/-- The calls for settings, in any order, make the builder that is made from the settings. -/
theorem after_calls {s : Settings} (credentials : s.clientId.isSome = s.clientSecret.isSome)
    {calls : List Setting} (order : calls.Perm s.calls) (parser : Option Provider) :
    ({ parser } : Builder).after calls = Builder.ofSettings s parser := by
  refine Builder.ext_held fun part => ?_
  have written : (allWritten calls part).Perm (s.value? part).toList :=
    allWritten_calls credentials part ▸ order.filterMap _
  rw [Builder.held_after, held_ofSettings]
  cases value : s.value? part with
  | none =>
    rw [value] at written
    rw [written.eq_nil]
    rfl
  | some v =>
    rw [value] at written
    rw [written.eq_singleton]
    rfl

end Settings

namespace Builder

/-- No call is refused but one for a method that is no text. Each part of a builder holds what the last call
for it wrote, or what it held at first. So the order of calls counts only where they write to the same part,
and for accepted settings, whose calls never do, it does not count at all. -/
theorem last_calls_count :
    (∀ (b c : Builder) (s : Setting), b.set s = .ok c ↔
      b.call s = c ∧ ∀ v, s = .method v → ∃ text, v = .str text) ∧
    (∀ (b : Builder) (calls : List Setting) (part : Part),
      (b.after calls).held part = (allWritten calls part).getLast?.getD (b.held part)) ∧
    (∀ (b : Builder) (calls others : List Setting),
      (∀ part, calls.filter (·.writes part) = others.filter (·.writes part)) →
        b.after calls = b.after others ∧
          ∀ mode env machine lent,
            (b.after calls).build mode env machine lent = (b.after others).build mode env machine lent) ∧
    ∀ (env : Environment) (keywords : Members) (s : Settings) (parser : Option Provider)
      (calls : List Setting), Settings.read env keywords = .ok s → calls.Perm s.calls →
        ({ parser } : Builder).after calls = ofSettings s parser := by
  refine ⟨fun b c s => set_eq_ok_iff, held_after, fun b calls others same => ?_, ?_⟩
  · have equal : b.after calls = b.after others := by
      refine after_congr (fun part => ?_) b
      rw [← allWritten_filter calls, ← allWritten_filter others, same part]
    exact ⟨equal, fun mode env machine lent => by rw [equal]⟩
  · intro env keywords s parser calls accepted order
    exact Settings.after_calls (Settings.read_eq_ok_iff.1 accepted).2.credentials order parser

/-- Two salts keep their order while a method moves, and the calls for settings are made backwards. -/
theorem last_calls_count_moved :
    let calls : List Setting := [.method (.str " post"), .salt "old", .endpoint .null, .salt "new"]
    let others : List Setting := [.salt "old", .endpoint .null, .method (.str " post"), .salt "new"]
    let s : Settings := { endpoint := "https://id.example", queryParameter := some "t" }
    (googleV3.after calls).held .salt = "new" ∧ googleV3.after calls = googleV3.after others ∧
      Settings.read [] [("endpoint", .str " https://id.example"), ("query_parameter", .str "t")] = .ok s ∧
      ({} : Builder).after s.calls.reverse = ofSettings s := by
  intro calls others s
  have accepted : Settings.read [] [("endpoint", .str " https://id.example"), ("query_parameter", .str "t")] =
      .ok s := by
    decide +kernel
  obtain ⟨-, last, moved, settings⟩ := last_calls_count
  refine ⟨last googleV3 calls .salt, (moved googleV3 calls others ?_).1, accepted, ?_⟩
  · intro part
    cases part <;> rfl
  · exact settings [] _ s none _ accepted (List.reverse_perm s.calls)

end Builder

end Bearer
