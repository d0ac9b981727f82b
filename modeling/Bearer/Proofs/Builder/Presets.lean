import Bearer.Proofs.Builder.Modes

/-!
Presets of builders and of endpoints. A builder drops a name or a secret that is given alone while an endpoint
keeps it, so the two are not made of the same values. They are asked alike all the same (`Endpoint.AskedLike`):
the check passes over credentials, and requests carry none unless both are there. `presets_agree` follows.
-/

namespace Bearer

open Builder (optionalValue)

/-! ### Endpoints that are asked alike -/

namespace Endpoint

/-- Endpoints whose requests cannot be told apart. -/
structure AskedLike (e f : Endpoint) : Prop where
  endpoint : e.endpoint = f.endpoint
  queryParameter : e.queryParameter = f.queryParameter
  fallback : e.fallback = f.fallback
  method : e.method = f.method
  credentials : e.credentials = f.credentials

variable {e f : Endpoint}

theorem AskedLike.check (h : AskedLike e f) : e.check = f.check := by
  simp only [Endpoint.check, urls, h.endpoint, h.queryParameter, h.fallback, h.method]

theorem AskedLike.requestTo (h : AskedLike e f) (url token : String) :
    e.requestTo url token = f.requestTo url token := by
  simp only [Endpoint.requestTo, h.queryParameter, h.method, h.credentials]

theorem AskedLike.request (h : AskedLike e f) (token : String) (fallback : Bool) :
    e.request token fallback = f.request token fallback := by
  have asked : e.asked fallback = f.asked fallback := by simp only [asked, h.endpoint, h.fallback]
  simp only [Endpoint.request, asked, h.requestTo]

/-- Values that are read as an endpoint make it if it passes the check. -/
theorem ofFields_eq_ok_iff {fields : Json.Members} (read : readFields fields = .ok e) :
    ofFields fields = .ok f ↔ e.check = .ok () ∧ e = f := by
  rw [ofFields, read]
  constructor
  · intro made
    obtain ⟨_, same, made⟩ := bind_eq_ok_iff.1 made
    obtain rfl := Except.ok.inj same
    obtain ⟨_, checked, same⟩ := bind_eq_ok_iff.1 made
    exact ⟨checked, Except.ok.inj same⟩
  · rintro ⟨checked, rfl⟩
    exact bind_eq_ok_iff.2 ⟨e, rfl, bind_eq_ok_iff.2 ⟨(), checked, rfl⟩⟩

end Endpoint

/-! ### Presets -/

inductive Preset where
  | planB (endpoint : String)
  | googleV3
  | amazon
  | rfc7662 (endpoint : String) (clientId clientSecret : Option String)

namespace Preset

def builder : Preset → Builder
  | planB url => .planB (.str url)
  | googleV3 => .googleV3
  | amazon => .amazon
  | rfc7662 url id secret => .rfc7662 (.str url) (optionalValue id) (optionalValue secret)

def endpoint : Preset → Except Endpoint.Error Endpoint
  | planB url => Endpoint.planB (.str url)
  | googleV3 => Endpoint.googleV3
  | amazon => Endpoint.amazon
  | rfc7662 url id secret => Endpoint.rfc7662 (.str url) (optionalValue id) (optionalValue secret)

/-- The values that a preset is given, all of them. -/
def given : Preset → Endpoint
  | planB url => { endpoint := url, queryParameter := some Endpoint.accessTokenParameter }
  | googleV3 => { endpoint := Endpoint.googleUrl, queryParameter := some Endpoint.accessTokenParameter }
  | amazon => { endpoint := Endpoint.amazonUrl, queryParameter := some Endpoint.accessTokenParameter }
  | rfc7662 url id secret => { endpoint := url, method := .post, clientId := id, clientSecret := secret }

/-- The values that the builder of a preset hands on: a name without a secret, or a secret without a name,
is not among them. -/
def kept (p : Preset) : Endpoint :=
  { p.given with
    clientId := p.given.credentials.map (·.1)
    clientSecret := p.given.credentials.map (·.2) }

theorem askedLike (p : Preset) : p.kept.AskedLike p.given where
  endpoint := rfl
  queryParameter := rfl
  fallback := rfl
  method := rfl
  credentials := by
    unfold kept
    cases p.given.credentials <;> rfl

variable (p : Preset)

theorem endpoint_eq_ok_iff {e : Endpoint} : p.endpoint = .ok e ↔ p.given.check = .ok () ∧ p.given = e := by
  cases p with
  | rfc7662 url id secret =>
    cases id <;> cases secret <;> exact Endpoint.ofFields_eq_ok_iff rfl
  | _ => exact Endpoint.ofFields_eq_ok_iff rfl

theorem makeEndpoint_eq_ok_iff {e : Endpoint} :
    p.builder.makeEndpoint = .ok e ↔ p.kept.check = .ok () ∧ p.kept = e := by
  refine Builder.makeEndpoint_eq_ok_iff.trans (Endpoint.ofFields_eq_ok_iff ?_)
  cases p with
  | rfc7662 url id secret => cases id <;> cases secret <;> rfl
  | _ => rfl

theorem resolves_iff {e : Endpoint} :
    (∃ provider, p.builder.Resolves e provider) ↔ p.kept.check = .ok () ∧ p.kept = e := by
  rw [← makeEndpoint_eq_ok_iff]
  constructor
  · rintro ⟨provider, h⟩
    exact h.accepted
  · intro made
    cases p with
    | rfc7662 url id secret => cases id <;> cases secret <;> exact ⟨_, rfl, nofun, made⟩
    | _ => exact ⟨_, rfl, nofun, made⟩

/-! ### Agreement -/

variable {p} {mode : Mode} {machine : Machine} {env : Environment} {lent : Bool} {built : Built}

theorem exists_build_iff : (∃ built, p.builder.build mode env machine lent = .ok built) ↔
    p.kept.check = .ok () ∧ (Builder.ownsConnection mode lent = true → HttpClient.make machine env = .ok ()) := by
  cases p.builder.outcome machine env with
  | refused f kind incomplete all =>
    refine iff_of_false (by simp [all]) fun h => incomplete ?_
    obtain ⟨provider, complete⟩ := p.resolves_iff.2 ⟨h.1, rfl⟩
    exact ⟨_, provider, complete⟩
  | unconnected e provider complete refusal refused own borrowed =>
    have checked := (p.resolves_iff.1 ⟨provider, complete⟩).1
    cases owned : Builder.ownsConnection mode lent with
    | true => exact iff_of_false (by simp [own mode lent owned]) (by simp [refused])
    | false =>
      obtain ⟨built, made, -⟩ := borrowed mode lent owned
      exact iff_of_true ⟨built, made⟩ ⟨checked, nofun⟩
  | made e provider complete passed all =>
    have checked := (p.resolves_iff.1 ⟨provider, complete⟩).1
    obtain ⟨built, made, -⟩ := all mode lent
    exact iff_of_true ⟨built, made⟩ ⟨checked, fun _ => passed⟩

theorem endpoint_of_build (made : p.builder.build mode env machine lent = .ok built) :
    built.session.client.endpoint = p.kept := by
  obtain ⟨provider, resolved⟩ := Builder.of_build made
  exact (p.resolves_iff.1 ⟨provider, Builder.resolve_eq_ok_iff.1 resolved⟩).2.symm

/-- The builder of a preset builds a client, of any mode, exactly if the endpoint of the preset can be made and,
unless the client is lent one, so can the HTTP client, on this machine and in this environment. The client's requests
are then those of this endpoint, for every token. -/
theorem presets_agree (p : Preset) (mode : Mode) (machine : Machine) (env : Environment) (lent : Bool) :
    ((∃ built, p.builder.build mode env machine lent = .ok built) ↔
      (∃ e, p.endpoint = .ok e) ∧
        (Builder.ownsConnection mode lent = true → HttpClient.make machine env = .ok ())) ∧
    ∀ built e, p.builder.build mode env machine lent = .ok built → p.endpoint = .ok e →
      ∀ token fallback, built.session.client.endpoint.request token fallback = e.request token fallback := by
  constructor
  · rw [exists_build_iff, p.askedLike.check]
    simp only [endpoint_eq_ok_iff, exists_and_left, exists_eq', and_true]
  · intro built e made accepted token fallback
    obtain ⟨-, rfl⟩ := p.endpoint_eq_ok_iff.1 accepted
    rw [endpoint_of_build made]
    exact p.askedLike.request token fallback

/-- A name without a secret stays with the endpoint and not with the client, which are asked alike. -/
theorem presets_agree_without_secret :
    let p := rfc7662 "https://id.example/introspect" (some "me") none
    ∃ built e, p.builder.build .async [] = .ok built ∧ p.endpoint = .ok e ∧
      built.session.client.endpoint ≠ e ∧
      ∀ token, built.session.client.endpoint.request token = e.request token := by
  intro p
  have accepted : p.endpoint = .ok p.given := p.endpoint_eq_ok_iff.2 ⟨by decide +kernel, rfl⟩
  have passed : HttpClient.make {} [] = .ok () := by decide +kernel
  obtain ⟨builds, requests⟩ := presets_agree p .async {} [] false
  obtain ⟨built, made⟩ := builds.2 ⟨⟨_, accepted⟩, fun _ => passed⟩
  refine ⟨built, _, made, accepted, ?_, fun token => requests built _ made accepted token false⟩
  rw [endpoint_of_build made]
  decide

/-- With a proxy whose port is no number nothing is built, though the endpoint can be made. -/
theorem not_every_preset_built :
    ¬ ∀ (p : Preset) (mode : Mode) (env : Environment),
      (∃ built, p.builder.build mode env = .ok built) ↔ ∃ e, p.endpoint = .ok e := by
  intro always
  have refused : HttpClient.make {} [("HTTP_PROXY", "http://proxy.example:port")] =
      .error (.invalidUrl (.port "port")) := by
    decide +kernel
  have checked : googleV3.given.check = .ok () := by decide +kernel
  obtain ⟨built, made⟩ := (always googleV3 .blocking _).2 ⟨_, googleV3.endpoint_eq_ok_iff.2 ⟨checked, rfl⟩⟩
  have passed := (exists_build_iff.1 ⟨built, made⟩).2 rfl
  cases refused.symm.trans passed

end Preset

end Bearer
