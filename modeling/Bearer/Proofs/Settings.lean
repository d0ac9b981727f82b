import Mathlib.Data.List.Basic
import Bearer.Builder
import Bearer.Proofs.Except
import Bearer.Proofs.Text.Blank
import Bearer.Proofs.Text.Case

/-!
What accepted settings are made of. Values that are read together are accepted exactly if each of them
is, so `readFields_eq_ok_iff` names for every setting the value that it was read from, and
`read_eq_ok_iff` adds the rules that no setting can break alone. A builder hands them on unchanged to the
endpoint of its clients (`endpoint_of_build`).
-/

namespace Bearer

open Json (Members)

/-! ### Values that are checked together -/

namespace Checked

theorem both_eq_ok_iff {a : Checked α} {b : Checked β} {x : α × β} :
    a.both b = .ok x ↔ a = .ok x.1 ∧ b = .ok x.2 := by
  obtain ⟨x, y⟩ := x
  cases a <;> cases b <;> simp [both]

theorem withIssues_eq_ok_iff {issues : List Issue} {a : Checked α} {x : α} :
    a.withIssues issues = .ok x ↔ a = .ok x ∧ issues = [] := by
  cases a <;> cases issues <;> simp [withIssues]

end Checked

namespace Field

variable {fields : Members} {name : String} {read : Read α}

theorem required_eq_ok_iff {x : α} : required fields name read = .ok x ↔
    ∃ v, Json.lookup? fields name = some v ∧ read v = .ok x := by
  unfold required atField
  cases Json.lookup? fields name with
  | none => simp
  | some v => simp [mapError_eq_ok_iff]

theorem withDefault_eq_ok_iff {default x : α} : withDefault fields name default read = .ok x ↔
    (Json.lookup? fields name = none ∧ x = default) ∨
      ∃ v, Json.lookup? fields name = some v ∧ read v = .ok x := by
  unfold withDefault atField
  cases Json.lookup? fields name with
  | none => simp [eq_comm]
  | some v => simp [mapError_eq_ok_iff]

theorem optional_eq_ok_iff {v : Json.Value} {x : Option α} : optional read v = .ok x ↔
    (v = .null ∧ x = none) ∨ (v ≠ .null ∧ ∃ y, read v = .ok y ∧ some y = x) := by
  cases v with
  | null => simp [optional, eq_comm]
  | _ => simp [optional, map_eq_ok_iff]

theorem text_optionalValue (s : Option String) :
    optional text (Builder.optionalValue s) = .ok s := by
  cases s <;> rfl

/-- What holds of a default and of every value that is read holds of a field. -/
theorem of_withDefault {P : α → Prop} {default x : α} (standard : P default)
    (each : ∀ v y, read v = .ok y → P y) (h : withDefault fields name default read = .ok x) : P x := by
  obtain ⟨-, rfl⟩ | ⟨v, -, found⟩ := withDefault_eq_ok_iff.1 h
  · exact standard
  · exact each v x found

theorem of_optional {P : α → Prop} (each : ∀ v y, read v = .ok y → P y) (v : Json.Value)
    (x : Option α) (h : optional read v = .ok x) : ∀ y ∈ x, P y := by
  rintro y ⟨⟩
  obtain ⟨-, none⟩ | ⟨-, z, found, same⟩ := optional_eq_ok_iff.1 h
  · cases none
  · obtain rfl := Option.some.inj same
    exact each v z found

/-! ### Bounds -/

variable {bound : Nat} {v : Json.Value}

theorem integerAtLeast_eq_ok_iff {n : Int} :
    integerAtLeast bound v = .ok n ↔ integer v = .ok n ∧ (bound : Int) ≤ n := by
  unfold integerAtLeast
  cases integer v with
  | error why => simp
  | ok y =>
    rw [ite_ok_eq_ok_iff, Except.ok.injEq]
    exact and_congr_right fun same => by rw [same]

theorem integerAbove_eq_ok_iff {n : Int} :
    integerAbove bound v = .ok n ↔ integer v = .ok n ∧ (bound : Int) < n := by
  unfold integerAbove
  cases integer v with
  | error why => simp
  | ok y =>
    rw [ite_ok_eq_ok_iff, Except.ok.injEq]
    exact and_congr_right fun same => by rw [same]

theorem numberAtLeast_eq_ok_iff {x : Double} :
    numberAtLeast bound v = .ok x ↔ number v = .ok x ∧ (Double.ofInt bound).le x = true := by
  unfold numberAtLeast
  cases number v with
  | error why => simp
  | ok y =>
    rw [ite_ok_eq_ok_iff, Except.ok.injEq]
    exact and_congr_right fun same => by rw [same]

theorem numberAbove_eq_ok_iff {x : Double} :
    numberAbove bound v = .ok x ↔ number v = .ok x ∧ (Double.ofInt bound).lt x = true := by
  unfold numberAbove
  cases number v with
  | error why => simp
  | ok y =>
    rw [ite_ok_eq_ok_iff, Except.ok.injEq]
    exact and_congr_right fun same => by rw [same]

end Field

/-! ### Settings -/

namespace Settings

variable {fields : Members} {s : Settings}

/-- Each setting is what its field was read as, and no other field was given. -/
structure ReadFrom (fields : Members) (s : Settings) : Prop where
  endpoint : Field.required fields "endpoint" endpointText = .ok s.endpoint
  queryParameter : Field.withDefault fields "query_parameter" none (Field.optional Field.text) =
    .ok s.queryParameter
  fallback : Field.withDefault fields "fallback_endpoint" none (Field.optional endpointText) =
    .ok s.fallback
  method : Field.withDefault fields "method" .get methodText = .ok s.method
  clientId : Field.withDefault fields "client_id" none (Field.optional Field.text) = .ok s.clientId
  clientSecret : Field.withDefault fields "client_secret" none (Field.optional Field.text) =
    .ok s.clientSecret
  httpTimeout : Field.withDefault fields "http_timeout" (.ofInt 5) (Field.numberAbove 0) =
    .ok s.httpTimeout
  maxResponseBytes : Field.withDefault fields "max_response_bytes" 1000000 (Field.integerAbove 0) =
    .ok s.maxResponseBytes
  retryBudget : Field.withDefault fields "retry_budget" none
    (Field.optional (Field.numberAtLeast 0)) = .ok s.retryBudget
  salt : Field.withDefault fields "pii_salt" Token.defaultSalt Field.text = .ok s.salt
  unsafeLocalDev : Field.withDefault fields "unsafe_local_dev" false Field.bool =
    .ok s.unsafeLocalDev
  noExtras : Field.extras fieldNames fields = []

theorem readFields_eq_ok_iff : readFields fields = .ok s ↔ ReadFrom fields s := by
  simp only [readFields, Checked.withIssues_eq_ok_iff, map_eq_ok_iff, Checked.both_eq_ok_iff]
  constructor
  · rintro ⟨⟨⟨⟨endpoint, queryParameter, fallback, method⟩, ⟨clientId, clientSecret⟩, timeout, most,
      budget, salt, dev⟩, read, rfl⟩, noExtras⟩
    obtain ⟨⟨h₁, h₂, h₃, h₄⟩, ⟨h₅, h₆⟩, h₇, h₈, h₉, h₁₀, h₁₁⟩ := read
    exact ⟨h₁, h₂, h₃, h₄, h₅, h₆, h₇, h₈, h₉, h₁₀, h₁₁, noExtras⟩
  · intro h
    refine ⟨⟨⟨⟨s.endpoint, s.queryParameter, s.fallback, s.method⟩, ⟨s.clientId, s.clientSecret⟩,
      s.httpTimeout, s.maxResponseBytes, s.retryBudget, s.salt, s.unsafeLocalDev⟩, ?_, rfl⟩, h.noExtras⟩
    exact ⟨⟨h.endpoint, h.queryParameter, h.fallback, h.method⟩, ⟨h.clientId, h.clientSecret⟩,
      h.httpTimeout, h.maxResponseBytes, h.retryBudget, h.salt, h.unsafeLocalDev⟩

def NamesPlainHttp (url : String) : Prop :=
  ∃ front more, url.toList = front ++ more ∧ front.map Char.toLower = "http://".toList

theorem isPlainHttp_of_names {url : String} (named : NamesPlainHttp url) : isPlainHttp url = true := by
  obtain ⟨front, more, whole, http⟩ := named
  have all : "http://".toList.all (·.toNat < 0x80) = true := by decide
  have ascii : ∀ c ∈ front.map Char.toLower, c.toNat < 0x80 := by
    rw [http]
    exact fun c member => of_decide_eq_true (List.all_eq_true.1 all c member)
  have lowered := Text.startsWith_lower whole ascii
  rwa [http, String.ofList_toList] at lowered

structure Sound (s : Settings) : Prop where
  secure : s.unsafeLocalDev = false → isPlainHttp s.endpoint = false
  secureFallback : s.unsafeLocalDev = false → ∀ url ∈ s.fallback, isPlainHttp url = false
  credentials : s.clientId.isSome = s.clientSecret.isSome

theorem broken?_eq_none_iff : s.broken? = none ↔ Sound s := by
  unfold broken?
  constructor
  · intro h
    split at h
    · cases h
    next endpoint =>
      split at h
      · cases h
      next fallback =>
        split at h
        · cases h
        next credentials =>
          refine ⟨fun strict => ?_, fun strict url given => ?_, by simpa using credentials⟩
          · simpa [strict] using endpoint
          · have all : ∀ x ∈ s.fallback, isPlainHttp x = false := by
              simpa [strict, Option.any_eq_false] using fallback
            exact all url given
  · intro h
    have endpoint : (!s.unsafeLocalDev && isPlainHttp s.endpoint) = false := by
      cases strict : s.unsafeLocalDev with
      | true => rfl
      | false => simp [h.secure strict]
    have fallback : (!s.unsafeLocalDev && s.fallback.any isPlainHttp) = false := by
      cases strict : s.unsafeLocalDev with
      | true => rfl
      | false => simpa [Option.any_eq_false] using h.secureFallback strict
    simp [endpoint, fallback, h.credentials]

theorem read_eq_ok_iff {env : Environment} {keywords : Members} : read env keywords = .ok s ↔
    ReadFrom (Field.ofEnvironment fieldNames variablePrefix env keywords) s ∧ Sound s := by
  rw [← readFields_eq_ok_iff, ← broken?_eq_none_iff]
  unfold read
  cases readFields (Field.ofEnvironment fieldNames variablePrefix env keywords) with
  | error issues => simp
  | ok t =>
    simp only [check, Except.ok.injEq]
    cases broken : t.broken? with
    | none =>
      constructor
      · intro h
        obtain rfl := Except.ok.inj h
        exact ⟨rfl, broken⟩
      · rintro ⟨rfl, -⟩
        rfl
    | some why =>
      refine iff_of_false (by simp) ?_
      rintro ⟨rfl, unbroken⟩
      cases broken.symm.trans unbroken

/-- An endpoint as settings hold it: a text without white space around it. -/
structure IsEndpoint (url : String) : Prop where
  nonempty : url ≠ ""
  stripped : Text.strip url = url

theorem endpointText_eq_ok_iff {v : Json.Value} {url : String} :
    endpointText v = .ok url ↔ ∃ s, Field.text v = .ok s ∧ Text.strip s = url ∧ url ≠ "" := by
  unfold endpointText
  cases Field.text v with
  | error why => simp
  | ok s =>
    by_cases empty : Text.strip s = ""
    · refine iff_of_false (by simp [empty]) ?_
      rintro ⟨t, same, rfl, some⟩
      obtain rfl := Except.ok.inj same
      exact some empty
    · simp only [String.isEmpty_iff, if_neg empty, Except.ok.injEq, exists_eq_left']
      exact ⟨fun same => ⟨same, same ▸ empty⟩, And.left⟩

theorem isEndpoint_of_endpointText (v : Json.Value) (url : String) (h : endpointText v = .ok url) :
    IsEndpoint url := by
  obtain ⟨s, -, rfl, nonempty⟩ := endpointText_eq_ok_iff.1 h
  exact ⟨nonempty, Text.strip_strip s⟩

theorem ReadFrom.isEndpoint (h : ReadFrom fields s) : IsEndpoint s.endpoint := by
  obtain ⟨v, -, read⟩ := Field.required_eq_ok_iff.1 h.endpoint
  exact isEndpoint_of_endpointText v _ read

theorem ReadFrom.isEndpoint_fallback (h : ReadFrom fields s) : ∀ url ∈ s.fallback, IsEndpoint url :=
  Field.of_withDefault (fun _ member => nomatch member)
    (Field.of_optional isEndpoint_of_endpointText) h.fallback

end Settings

/-! ### Endpoints of built clients -/

namespace Endpoint

variable {fields : Members} {e : Endpoint}

structure ReadFrom (fields : Members) (e : Endpoint) : Prop where
  endpoint : Field.required fields "endpoint" Field.text = .ok e.endpoint
  queryParameter : Field.withDefault fields "query_parameter" none (Field.optional Field.text) =
    .ok e.queryParameter
  fallback : Field.withDefault fields "fallback_endpoint" none (Field.optional Field.text) =
    .ok e.fallback
  method : Field.withDefault fields "method" .get Field.method = .ok e.method
  clientId : Field.withDefault fields "client_id" none (Field.optional Field.text) = .ok e.clientId
  clientSecret : Field.withDefault fields "client_secret" none (Field.optional Field.text) =
    .ok e.clientSecret
  noExtras : Field.extras fieldNames fields = []

theorem readFields_eq_ok_iff : readFields fields = .ok e ↔ ReadFrom fields e := by
  simp only [readFields, Checked.withIssues_eq_ok_iff, map_eq_ok_iff, Checked.both_eq_ok_iff]
  constructor
  · rintro ⟨⟨⟨endpoint, queryParameter, fallback, method, clientId, clientSecret⟩, read, rfl⟩, noExtras⟩
    obtain ⟨h₁, h₂, h₃, h₄, h₅, h₆⟩ := read
    exact ⟨h₁, h₂, h₃, h₄, h₅, h₆, noExtras⟩
  · intro h
    refine ⟨⟨⟨e.endpoint, e.queryParameter, e.fallback, e.method, e.clientId, e.clientSecret⟩, ?_, rfl⟩,
      h.noExtras⟩
    exact ⟨h.endpoint, h.queryParameter, h.fallback, h.method, h.clientId, h.clientSecret⟩

theorem readFrom_of_ofFields (h : ofFields fields = .ok e) : ReadFrom fields e := by
  obtain ⟨e', read, h⟩ := bind_eq_ok_iff.1 h
  obtain ⟨_, -, h⟩ := bind_eq_ok_iff.1 h
  obtain rfl := Except.ok.inj h
  exact readFields_eq_ok_iff.1 (mapError_eq_ok_iff.1 read)

end Endpoint

namespace Builder

variable {b : Builder} {mode : Mode} {env : Environment} {built : Built}

theorem build_of_resolve {machine : Machine} {lent : Bool} {e : Endpoint} {p : Provider}
    (resolved : b.resolve = .ok (e, p)) : b.build mode env machine lent =
      (connect (ownsConnection mode lent) machine env).map fun _ => b.assemble mode machine lent e p := by
  rw [build, resolved]
  cases connect (ownsConnection mode lent) machine env <;> rfl

theorem of_build {machine : Machine} {lent : Bool} (made : b.build mode env machine lent = .ok built) :
    ∃ provider, b.resolve = .ok (built.session.client.endpoint, provider) := by
  obtain ⟨⟨e, provider⟩, resolved, -⟩ := bind_eq_ok_iff.1 made
  rw [build_of_resolve resolved] at made
  obtain ⟨_, -, rfl⟩ := map_eq_ok_iff.1 made
  exact ⟨provider, resolved⟩

theorem makeEndpoint_eq_ok_iff {e : Endpoint} : b.makeEndpoint = .ok e ↔
    Endpoint.ofFields [
      ("endpoint", b.endpoint), ("query_parameter", b.queryParameter),
      ("fallback_endpoint", b.fallback), ("method", .str b.method), ("client_id", b.clientId),
      ("client_secret", b.clientSecret)] = .ok e := by
  unfold makeEndpoint
  split
  next found => simp [found]
  next refused => simp [refused]

structure Resolves (b : Builder) (e : Endpoint) (p : Provider) : Prop where
  parser : b.parser = some p
  given : b.endpoint ≠ .null
  accepted : b.makeEndpoint = .ok e

theorem resolve_eq_ok_iff {e : Endpoint} {p : Provider} : b.resolve = .ok (e, p) ↔ b.Resolves e p := by
  unfold resolve
  split
  next absent => exact ⟨nofun, fun h => nomatch absent.symm.trans h.parser⟩
  next absent => exact ⟨nofun, fun h => absurd absent h.given⟩
  next q parser given =>
    rw [map_eq_ok_iff]
    constructor
    · rintro ⟨_, made, ⟨⟩⟩
      exact ⟨parser, given, made⟩
    · rintro ⟨same, -, made⟩
      obtain rfl := Option.some.inj (parser.symm.trans same)
      exact ⟨e, made, rfl⟩

/-- A client that is built from settings has a checked endpoint, which asks what the settings name. -/
theorem endpoint_of_build {s : Settings} {parser : Option Provider} {machine : Machine} {lent : Bool}
    (made : (ofSettings s parser).build mode env machine lent = .ok built) :
    (∃ fields, Endpoint.ofFields fields = .ok built.session.client.endpoint) ∧
      ∀ fallback url, built.session.client.endpoint.asked fallback = some url →
        url = s.endpoint ∨ s.fallback = some url := by
  obtain ⟨provider, resolved⟩ := of_build made
  have accepted := makeEndpoint_eq_ok_iff.1 (resolve_eq_ok_iff.1 resolved).accepted
  have read := Endpoint.readFrom_of_ofFields accepted
  refine ⟨⟨_, accepted⟩, fun fallback url asked => ?_⟩
  cases fallback with
  | false =>
    obtain rfl := Option.some.inj asked
    obtain ⟨v, found, text⟩ := Field.required_eq_ok_iff.1 read.endpoint
    obtain rfl : v = .str s.endpoint := (Option.some.inj found).symm
    exact .inl (Except.ok.inj text).symm
  | true =>
    have given : built.session.client.endpoint.fallback = some url := asked
    obtain ⟨none, -⟩ | ⟨v, found, text⟩ := Field.withDefault_eq_ok_iff.1 read.fallback
    · cases none
    · obtain rfl : v = optionalValue s.fallback := (Option.some.inj found).symm
      have same := Except.ok.inj (text.symm.trans (Field.text_optionalValue s.fallback))
      exact .inr (same.symm.trans given)

end Builder

end Bearer
