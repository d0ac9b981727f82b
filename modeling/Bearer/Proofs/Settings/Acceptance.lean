import Bearer.Proofs.Settings

/-!
What accepted settings are like. Each value keeps to the bounds of its field, wherever it came from, and the
values keep to the rules that they share (`acceptable_of_readFrom`). Given as keywords, they leave nothing to
the environment, and the settings that are read from them are the same ones (`read_keywords`).
-/

namespace Bearer

open Json (Members Value)

/-! ### Keywords for every field -/

namespace Field

variable {names : List String} {keywords : Members}

theorem ofKeyword_of_mem {keyword : String} (named : keyword ∈ names) : ofKeyword names keyword = keyword :=
  if_pos (List.contains_iff_mem.2 named)

variable (all : keywords.map (·.1) = names.map .whole)
include all

theorem exists_name {pair : RawText × Value} (member : pair ∈ keywords) : ∃ name ∈ names, pair.1 = .whole name := by
  have named : pair.1 ∈ names.map .whole := all ▸ List.mem_map_of_mem (f := Prod.fst) member
  obtain ⟨name, known, same⟩ := List.mem_map.1 named
  exact ⟨name, known, same.symm⟩

/-- Keywords that name every field are all that settings are made of. -/
theorem ofEnvironment_of_all (front : String) (env : Environment) :
    ofEnvironment names front env keywords = keywords := by
  have given : keywords.map (fun pair => (ofKeyword names pair.1, pair.2)) = keywords := by
    refine (List.map_congr_left fun pair member => ?_).trans (List.map_id keywords)
    obtain ⟨name, named, same⟩ := exists_name all member
    rw [same, ofKeyword_of_mem named, ← same, id]
  have nothing : (names.filter fun name => !keywords.any (·.1 == .whole name)) = [] := by
    rw [List.filter_eq_nil_iff]
    intro name named
    have known : .whole name ∈ keywords.map (·.1) := all ▸ List.mem_map_of_mem (f := RawText.whole) named
    obtain ⟨⟨keyword, v⟩, member, same⟩ := List.mem_map.1 known
    obtain rfl : keyword = .whole name := same
    simpa using ⟨v, member⟩
  have unfolded : ofEnvironment names front env keywords =
      let given := keywords.map fun pair => (ofKeyword names pair.1, pair.2)
      given ++ (names.filter fun name => !given.any (·.1 == .whole name)).filterMap fun name =>
        (env.find? (front ++ name)).map fun s => (.whole name, .str (.whole s)) := rfl
  simp only [unfolded, given, nothing, List.filterMap_nil, List.append_nil]

theorem extras_of_all : extras names keywords = [] := by
  unfold extras
  rw [List.map_eq_nil_iff, List.filter_eq_nil_iff]
  rintro ⟨keyword, v⟩ member
  obtain ⟨name, named, same⟩ := exists_name all member
  obtain rfl : keyword = .whole name := same
  simpa [RawText.string?] using named

end Field

namespace Settings

variable {fields : Members} {s : Settings}

structure Acceptable (s : Settings) : Prop where
  endpoint : IsEndpoint s.endpoint
  fallback : ∀ url ∈ s.fallback, IsEndpoint url
  method : s.method.word = "GET" ∨ s.method.word = "POST"
  httpTimeout : Double.zero.lt s.httpTimeout = true
  maxResponseBytes : 0 < s.maxResponseBytes
  retryBudget : ∀ budget ∈ s.retryBudget, Double.zero.le budget = true
  credentials : s.clientId = none ↔ s.clientSecret = none
  secure : s.unsafeLocalDev = false → ∀ url, url = s.endpoint ∨ url ∈ s.fallback → ¬ NamesPlainHttp url

theorem Sound.not_namesPlainHttp (h : Sound s) (strict : s.unsafeLocalDev = false) {url : String}
    (asked : url = s.endpoint ∨ url ∈ s.fallback) : ¬ NamesPlainHttp url := by
  intro named
  have plain := isPlainHttp_of_names named
  rcases asked with rfl | fallback
  · exact Bool.false_ne_true ((h.secure strict).symm.trans plain)
  · exact Bool.false_ne_true ((h.secureFallback strict url fallback).symm.trans plain)

theorem word_cases (m : Method) : m.word = "GET" ∨ m.word = "POST" := by
  cases m with
  | get => exact .inl rfl
  | post => exact .inr rfl

theorem ofInt_zero : Double.ofInt (0 : Nat) = .zero := by decide +kernel

/-- Defaults and values that are read keep to the same bounds. -/
theorem acceptable_of_readFrom (read : ReadFrom fields s) (sound : Sound s) : Acceptable s where
  endpoint := read.isEndpoint
  fallback := read.isEndpoint_fallback
  method := word_cases s.method
  httpTimeout := Field.of_withDefault (P := (Double.zero.lt · = true)) (by decide +kernel)
    (fun _ _ found => ofInt_zero ▸ (Field.numberAbove_eq_ok_iff.1 found).2) read.httpTimeout
  maxResponseBytes := Field.of_withDefault (P := (0 < ·)) (by decide)
    (fun _ _ found => (Field.integerAbove_eq_ok_iff.1 found).2) read.maxResponseBytes
  retryBudget := Field.of_withDefault (P := fun budget => ∀ x ∈ budget, Double.zero.le x = true) (by simp)
    (Field.of_optional (P := (Double.zero.le · = true))
      fun _ _ found => ofInt_zero ▸ (Field.numberAtLeast_eq_ok_iff.1 found).2) read.retryBudget
  credentials := by
    have both := sound.credentials
    cases id : s.clientId <;> cases secret : s.clientSecret <;> simp [id, secret] at both ⊢
  secure := fun strict _ => sound.not_namesPlainHttp strict

/-! ### Reading settings again -/

theorem IsEndpoint.endpointText_str {url : String} (h : IsEndpoint url) :
    endpointText (.str url) = .ok url :=
  endpointText_eq_ok_iff.2 ⟨url, rfl, h.stripped, h.nonempty⟩

/-- The settings as keywords, `null` standing for what is not set. -/
def keywords (s : Settings) : Members := [
  ("endpoint", .str s.endpoint), ("query_parameter", Builder.optionalValue s.queryParameter),
  ("fallback_endpoint", Builder.optionalValue s.fallback), ("method", .str s.method.word),
  ("client_id", Builder.optionalValue s.clientId),
  ("client_secret", Builder.optionalValue s.clientSecret), ("http_timeout", .double s.httpTimeout),
  ("max_response_bytes", .int s.maxResponseBytes),
  ("retry_budget", (s.retryBudget.map Value.double).getD .null), ("pii_salt", .str s.salt),
  ("unsafe_local_dev", .bool s.unsafeLocalDev)]

theorem names_keywords (s : Settings) : s.keywords.map (·.1) = fieldNames := rfl

/-- Every field of the keywords is read as the setting that it shows. -/
theorem readFrom_keywords (h : Acceptable s) : ReadFrom s.keywords s where
  endpoint := Field.required_eq_ok_iff.2 ⟨_, rfl, h.endpoint.endpointText_str⟩
  queryParameter := Field.withDefault_eq_ok_iff.2 (.inr ⟨_, rfl, Field.text_optionalValue _⟩)
  fallback := by
    refine Field.withDefault_eq_ok_iff.2 (.inr ⟨_, rfl, ?_⟩)
    cases given : s.fallback with
    | none => rfl
    | some url =>
      refine Field.optional_eq_ok_iff.2 (.inr ⟨nofun, url, ?_, rfl⟩)
      exact (h.fallback url given).endpointText_str
  method := by
    refine Field.withDefault_eq_ok_iff.2 (.inr ⟨_, rfl, ?_⟩)
    cases s.method <;> decide +kernel
  clientId := Field.withDefault_eq_ok_iff.2 (.inr ⟨_, rfl, Field.text_optionalValue _⟩)
  clientSecret := Field.withDefault_eq_ok_iff.2 (.inr ⟨_, rfl, Field.text_optionalValue _⟩)
  httpTimeout := by
    refine Field.withDefault_eq_ok_iff.2 (.inr ⟨_, rfl, Field.numberAbove_eq_ok_iff.2 ⟨rfl, ?_⟩⟩)
    exact ofInt_zero ▸ h.httpTimeout
  maxResponseBytes := Field.withDefault_eq_ok_iff.2
    (.inr ⟨_, rfl, Field.integerAbove_eq_ok_iff.2 ⟨rfl, h.maxResponseBytes⟩⟩)
  retryBudget := by
    refine Field.withDefault_eq_ok_iff.2 (.inr ⟨_, rfl, ?_⟩)
    cases given : s.retryBudget with
    | none => rfl
    | some budget =>
      refine Field.optional_eq_ok_iff.2 (.inr ⟨nofun, budget, ?_, rfl⟩)
      exact Field.numberAtLeast_eq_ok_iff.2 ⟨rfl, ofInt_zero ▸ h.retryBudget budget given⟩
  salt := Field.withDefault_eq_ok_iff.2 (.inr ⟨_, rfl, rfl⟩)
  unsafeLocalDev := Field.withDefault_eq_ok_iff.2 (.inr ⟨_, rfl, rfl⟩)
  noExtras := Field.extras_of_all (names_keywords s)

/-- Nothing of the environment counts beside keywords for every field. -/
theorem read_keywords (h : Acceptable s) (sound : Sound s) (env : Environment) :
    read env s.keywords = .ok s := by
  rw [read_eq_ok_iff, Field.ofEnvironment_of_all (names_keywords s)]
  exact ⟨readFrom_keywords h, sound⟩

end Settings

end Bearer
