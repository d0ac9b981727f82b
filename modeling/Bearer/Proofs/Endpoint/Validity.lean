import Bearer.Proofs.Endpoint.Destination
import Bearer.Proofs.Url.Host

/-!
What the check of an endpoint is worth when requests are made. `checked_requests_iff` says which requests
of a checked endpoint fail to be made and for which of its endpoints every request leads to some host: for
all but an empty one, which the check passes over, and a bare scheme, behind which the token is the host.
-/

namespace Bearer.Endpoint

open Url (IsScheme endsAuthority isControl)

def LeadsToHost (url : String) : Prop :=
  ∃ u host, Url.read url.toList = .ok u ∧
    (String.ofList u.scheme = "http" ∨ String.ofList u.scheme = "https") ∧
    u.readableHost = .ok host ∧ host ≠ []

def IsHttp (u : Url) : Prop := String.ofList u.scheme = "http" ∨ String.ofList u.scheme = "https"

theorem refusesScheme_iff {u : Url} :
    (String.ofList u.scheme != "http" && String.ofList u.scheme != "https") = true ↔ ¬ IsHttp u := by
  simp [IsHttp]

theorem checkUrl_eq_ok_iff {url : String} : checkUrl url = .ok () ↔ LeadsToHost url := by
  unfold checkUrl LeadsToHost
  cases read : Url.read url.toList with
  | error e => simp
  | ok u =>
    by_cases http : String.ofList u.scheme = "http" ∨ String.ofList u.scheme = "https"
    · dsimp only
      rw [if_neg (mt refusesScheme_iff.1 (not_not_intro http))]
      cases readable : u.readableHost with
      | error e => simp [readable]
      | ok host => cases host <;> simp [readable, http]
    · dsimp only
      rw [if_pos (refusesScheme_iff.2 http)]
      simp only [reduceCtorEq, false_iff]
      rintro ⟨v, host, same, scheme, -⟩
      obtain rfl := Except.ok.inj same
      exact http scheme

theorem readableHost_congr {u v : Url} (same : u.host = v.host) : u.readableHost = v.readableHost := by
  rw [Url.readableHost, Url.readableHost, same]

/-! ### Requests that can be made -/

theorem isControl_of_unreserved {c : Char} (h : Percent.isUnreserved c = true) : isControl c = false := by
  simp only [Percent.isUnreserved, Bool.or_eq_true, beq_iff_eq] at h
  rcases h with (((alphanumeric | rfl) | rfl) | rfl) | rfl
  · have bounds := Percent.isAlphanum_iff.1 alphanumeric
    simp only [isControl, Bool.or_eq_false_iff, decide_eq_false_iff_not, beq_eq_false_iff_ne]
    omega
  all_goals rfl

theorem mem_quoteToken {token : String} {c : Char} (member : c ∈ (quoteToken token).toList) :
    c = '%' ∨ Percent.isUnreserved c = true := by
  rw [quoteToken, String.toList_ofList] at member
  exact Percent.mem_encode_all member

theorem isControl_of_mem_quoteToken {token : String} {c : Char} (member : c ∈ (quoteToken token).toList) :
    isControl c = false := by
  rcases mem_quoteToken member with rfl | unreserved
  · rfl
  · exact isControl_of_unreserved unreserved

variable {url front : String} {parameter : Option String}

/-- What leads to a host with the sample token does so with every token, as long as it is not too long. -/
theorem leadsToHost_of_absolute {scheme rest : List Char} (absolute : Absolute url scheme rest)
    (accepted : urlPrefix url parameter = .ok front) (token : String)
    (short : (front ++ quoteToken token).length ≤ Url.maxLength) :
    LeadsToHost (front ++ quoteToken token) := by
  obtain ⟨rfl, checked⟩ := checkUrl_of_urlPrefix accepted
  obtain ⟨u, host, read, http, readable, some⟩ := checkUrl_eq_ok_iff.1 checked
  have clean := (Url.read_eq_ok_iff.1 read).2.1
  have short : ((joinUrl url parameter).toList ++ (quoteToken token).toList).length ≤ Url.maxLength := by
    rw [← String.toList_append, String.length_toList]
    exact short
  rw [String.toList_append, absolute.toList_joinUrl, List.append_assoc] at read
  rw [absolute.toList_joinUrl, List.append_assoc] at short
  have authority (token : List Char) :=
    takeWhile_joined absolute.valid rest (parameter.filter (!·.isEmpty)) token
  have same := (authority sampleToken.toList).trans (authority (quoteToken token).toList).symm
  obtain ⟨v, readToken, origin⟩ := Url.read_exchanged absolute.valid read same short (by
    intro c member
    rcases List.mem_append.1 member with inFront | inToken
    · apply clean
      rw [String.toList_append, absolute.toList_joinUrl]
      simp only [List.mem_append]
      exact .inl (.inr (List.mem_append.1 inFront))
    · exact isControl_of_mem_quoteToken inToken)
  have parts := of_origin origin
  refine ⟨v, host, ?_, ?_, ?_, some⟩
  · rw [String.toList_append, absolute.toList_joinUrl, List.append_assoc]
    exact readToken
  · rw [parts.1]
    exact http
  · rw [readableHost_congr parts.2.1]
    exact readable

/-! ### Endpoints that the check passes over -/

theorem takeScheme_of_head {cs : List Char} (start : cs.head? = some '/' ∨ cs.head? = some '?') :
    Url.takeScheme cs = ([], cs) := by
  rcases start with start | start
  all_goals
    obtain ⟨rest, rfl⟩ := List.head?_eq_some_iff.1 start
    rfl

/-- A URL without a scheme is refused before its host is looked at. -/
theorem checkUrl_of_no_scheme (none : (Url.Parts.ofChars url.toList).scheme = []) :
    (∃ e, checkUrl url = .error (.invalid e)) ∨ checkUrl url = .error (.notAbsolute url) := by
  unfold checkUrl
  cases read : Url.read url.toList with
  | error e => exact .inl ⟨e, rfl⟩
  | ok u =>
    have scheme : u.scheme = [] := by
      by_contra some
      exact Url.scheme_of_read read some none
    exact .inr (by simp [scheme])

theorem urlPrefix_empty (parameter : Option String) :
    ∃ refusal, urlPrefix "" parameter = .error refusal ∧ refusal.toFailure.kind = .initialization := by
  have stripped : stripSlash "".toList = [] := rfl
  have start : (joinUrl "" parameter ++ sampleToken).toList.head? = some '/' ∨
      (joinUrl "" parameter ++ sampleToken).toList.head? = some '?' := by
    rw [String.toList_append, toList_joinUrl, stripped]
    cases parameter.filter (!·.isEmpty) with
    | none => exact .inl rfl
    | some p => exact .inr rfl
  have none : (Url.Parts.ofChars (joinUrl "" parameter ++ sampleToken).toList).scheme = [] :=
    congrArg Prod.fst (takeScheme_of_head start)
  unfold urlPrefix
  dsimp only
  obtain ⟨e, refused⟩ | refused := checkUrl_of_no_scheme none
  · exact ⟨.invalid e, by rw [refused]; rfl, rfl⟩
  · exact ⟨.notAbsolute _, by rw [refused]; rfl, rfl⟩

/-! ### A host that is no address -/

def badAddress : String := "1.2.3.256"

theorem readAuthority_badAddress (scheme : List Char) (a : Url.Authority) :
    Url.readAuthority scheme badAddress.toList ≠ .ok a := by
  have refused : Url.encodeHost badAddress.toList = .error (.ipv4 badAddress) := by decide
  have plain := Url.plain_of_all (by decide : badAddress.toList.all Percent.isUnreserved = true)
  rw [Url.readAuthority_of_plain plain, refused]
  rintro ⟨⟩

theorem quoteToken_badAddress : quoteToken badAddress = badAddress := by decide

theorem accept_badAddress : GivenToken.accept badAddress = .ok badAddress := by decide +kernel

theorem not_leadsToHost_badAddress {scheme : List Char} (valid : IsScheme scheme)
    (whole : url.toList = scheme ++ [':', '/', '/'] ++ badAddress.toList) : ¬ LeadsToHost url := by
  rintro ⟨u, -, read, -⟩
  obtain ⟨a, authority, -⟩ := Url.ofParts_eq_ok_iff.1 (Url.read_eq_ok_iff.1 read).2.2
  have all : badAddress.toList.takeWhile (!endsAuthority ·) = badAddress.toList := by decide
  rw [whole, Url.ofChars_absolute valid] at authority
  dsimp only at authority
  rw [all] at authority
  exact readAuthority_badAddress scheme a authority

/-! ### Endpoints -/

variable {fields : Json.Members} {e : Endpoint} {fallback : Bool}

/-- Can a request be made for every token, and does it lead to some host unless it is too long? -/
def Sound (e : Endpoint) (fallback : Bool) : Prop :=
  ∀ (given : GivenToken) token, given.accept = .ok token →
    ∃ request, e.request token fallback = .ok request ∧
      (request.url.length ≤ Url.maxLength → LeadsToHost request.url)

theorem exists_request (accepted : ofFields fields = .ok e) (asked : e.asked fallback = some url)
    (nonempty : url ≠ "") (token : String) : ∃ request, e.request token fallback = .ok request := by
  cases method : e.method with
  | post =>
    obtain ⟨request, made, -⟩ := request_of_post method asked token
    exact ⟨request, made⟩
  | get =>
    obtain ⟨front, found⟩ := urlPrefix_of_get accepted method asked nonempty
    exact ⟨_, request_of_get method asked found token⟩

theorem request_of_not_asked (none : e.asked fallback = none) (token : String) :
    e.request token fallback =
      .error (.raised .initialization "No fallback endpoint configured") := by
  simp only [request, none]

theorem exists_asked {token : String} {r : Request} (made : e.request token fallback = .ok r) :
    ∃ url, e.asked fallback = some url := by
  cases asked : e.asked fallback with
  | some url => exact ⟨url, rfl⟩
  | none =>
    rw [request_of_not_asked asked] at made
    cases made

theorem request_of_empty (get : e.method = .get) (asked : e.asked fallback = some "") (token : String) :
    ∃ f, e.request token fallback = .error f ∧ f.kind = .initialization := by
  obtain ⟨refusal, refused, kind⟩ := urlPrefix_empty e.queryParameter
  exact ⟨refusal.toFailure, request_of_refused get asked refused token, kind⟩

/-- Why a request cannot be made: there is nothing to ask, or only an empty text to join the token to. -/
theorem request_eq_error_iff (accepted : ofFields fields = .ok e) (token : String) :
    (∃ f, e.request token fallback = .error f) ↔
      e.asked fallback = none ∨ (e.method = .get ∧ e.asked fallback = some "") := by
  constructor
  · rintro ⟨f, failed⟩
    cases asked : e.asked fallback with
    | none => exact .inl rfl
    | some url =>
      by_cases nonempty : url = ""
      · subst nonempty
        refine .inr ⟨?_, rfl⟩
        cases method : e.method with
        | get => rfl
        | post =>
          obtain ⟨request, made, -⟩ := request_of_post method asked token
          cases made.symm.trans failed
      · obtain ⟨request, made⟩ := exists_request accepted asked nonempty token
        cases made.symm.trans failed
  · rintro (none | ⟨get, asked⟩)
    · exact ⟨_, request_of_not_asked none token⟩
    · obtain ⟨f, failed, -⟩ := request_of_empty get asked token
      exact ⟨f, failed⟩

theorem kind_of_request (accepted : ofFields fields = .ok e) {token : String} {f : Failure}
    (failed : e.request token fallback = .error f) : f.kind = .initialization := by
  rcases (request_eq_error_iff accepted token).1 ⟨f, failed⟩ with none | ⟨get, asked⟩
  · obtain rfl := Except.error.inj (failed.symm.trans (request_of_not_asked none token))
    rfl
  · obtain ⟨g, same, kind⟩ := request_of_empty get asked token
    obtain rfl := Except.error.inj (failed.symm.trans same)
    exact kind

theorem not_sound_of_empty (asked : e.asked fallback = some "") : ¬ e.Sound fallback := by
  intro sound
  obtain ⟨request, made, leads⟩ := sound _ _ accept_sampleToken
  cases method : e.method with
  | get =>
    obtain ⟨f, failed, -⟩ := request_of_empty method asked sampleToken
    cases made.symm.trans failed
  | post =>
    obtain ⟨request', made', empty⟩ := request_of_post method asked sampleToken
    obtain rfl := Except.ok.inj (made'.symm.trans made)
    have checked := checkUrl_eq_ok_iff.2 (leads (by rw [empty]; decide))
    rw [empty] at checked
    have none : (Url.Parts.ofChars "".toList).scheme = [] := rfl
    obtain ⟨_, refused⟩ | refused := checkUrl_of_no_scheme none
    · cases refused.symm.trans checked
    · cases refused.symm.trans checked

theorem not_sound_of_bareScheme (get : e.method = .get) (asked : e.asked fallback = some url)
    (accepted : urlPrefix url e.queryParameter = .ok front)
    (unnamed : e.queryParameter.filter (!·.isEmpty) = none) (bare : BareScheme url) :
    ¬ e.Sound fallback := by
  intro sound
  obtain ⟨request, made, leads⟩ := sound _ _ accept_badAddress
  obtain rfl := Except.ok.inj (made.symm.trans (request_of_get get asked accepted badAddress))
  obtain ⟨rfl, checked⟩ := checkUrl_of_urlPrefix accepted
  obtain ⟨u, -, read, -⟩ := checkUrl_eq_ok_iff.1 checked
  obtain ⟨scheme, valid, whole⟩ := bare
  rw [quoteToken_badAddress] at leads
  have sent : (joinUrl url e.queryParameter ++ badAddress).toList =
      scheme ++ [':', '/', '/'] ++ badAddress.toList := by
    rw [String.toList_append, toList_joinUrl_of_bare whole unnamed]
  have short : (joinUrl url e.queryParameter ++ badAddress).length ≤ Url.maxLength := by
    have fits := (Url.read_eq_ok_iff.1 read).1
    have longer : badAddress.length ≤ sampleToken.length := by decide
    rw [String.length_toList, String.length_append] at fits
    rw [String.length_append]
    omega
  exact not_leadsToHost_badAddress valid sent (leads short)

theorem sound_of_post (accepted : ofFields fields = .ok e) (post : e.method = .post)
    (asked : e.asked fallback = some url) (nonempty : url ≠ "") : e.Sound fallback := by
  intro _ token _
  obtain ⟨request, made, rfl⟩ := request_of_post post asked token
  have checked := checkUrl_of_post accepted post asked nonempty
  exact ⟨request, made, fun _ => checkUrl_eq_ok_iff.1 checked⟩

theorem sound_iff (accepted : ofFields fields = .ok e) (asked : e.asked fallback = some url) :
    e.Sound fallback ↔ url ≠ "" ∧
      ¬ (e.method = .get ∧ e.queryParameter.filter (!·.isEmpty) = none ∧ BareScheme url) := by
  by_cases nonempty : url = ""
  · subst nonempty
    exact iff_of_false (not_sound_of_empty asked) fun h => h.1 rfl
  cases method : e.method with
  | post => exact iff_of_true (sound_of_post accepted method asked nonempty) ⟨nonempty, by simp⟩
  | get =>
    obtain ⟨front, found⟩ := urlPrefix_of_get accepted method asked nonempty
    obtain ⟨scheme, rest, absolute⟩ | ⟨unnamed, bare⟩ := of_urlPrefix found
    · refine iff_of_true (fun _ token _ => ?_) ⟨nonempty, fun h => absolute.not_bareScheme h.2.2⟩
      exact ⟨_, request_of_get method asked found token, leadsToHost_of_absolute absolute found token⟩
    · refine iff_of_false (not_sound_of_bareScheme method asked found unnamed bare) fun h => ?_
      exact h.2 ⟨rfl, unnamed, bare⟩

/-- A request of a checked endpoint fails to be made exactly if there is nothing to ask, or with GET an
empty text, and then it is a failure of the set-up. Every request leads to some host, whatever the token,
exactly if the text that is asked is neither empty nor, with the token in the path, a bare scheme. -/
theorem checked_requests_iff (accepted : ofFields fields = .ok e) :
    (∀ token fallback f, e.request token fallback = .error f → f.kind = .initialization) ∧
    (∀ token fallback, (∃ f, e.request token fallback = .error f) ↔
      e.asked fallback = none ∨ (e.method = .get ∧ e.asked fallback = some "")) ∧
    ∀ fallback url, e.asked fallback = some url →
      (e.Sound fallback ↔ url ≠ "" ∧
        ¬ (e.method = .get ∧ e.queryParameter.filter (!·.isEmpty) = none ∧ BareScheme url)) := by
  refine ⟨fun token fallback f failed => ?_, fun token fallback => ?_, fun fallback url asked => ?_⟩
  · exact kind_of_request accepted failed
  · exact request_eq_error_iff accepted token
  · exact sound_iff accepted asked

/-- Of an endpoint with an empty fallback, the first text is sound and the other is not. -/
theorem checked_requests_empty_fallback :
    let e : Endpoint := { endpoint := "https://example.com/a?b", fallback := some "" }
    ofFields [("endpoint", .str "https://example.com/a?b"), ("fallback_endpoint", .str "")] = .ok e ∧
      e.Sound false ∧ ¬ e.Sound true ∧ ∀ token, ∃ f, e.request token true = .error f := by
  intro e
  have accepted : ofFields [("endpoint", .str "https://example.com/a?b"), ("fallback_endpoint", .str "")] =
      .ok e := by
    decide +kernel
  obtain ⟨-, failed, sound⟩ := checked_requests_iff accepted
  refine ⟨accepted, (sound false _ rfl).2 ⟨by decide, fun bare => ?_⟩, fun empty => ?_, fun token => ?_⟩
  · have absolute : Absolute "https://example.com/a?b" "https".toList "example.com/a?b".toList :=
      ⟨isScheme_https, by decide⟩
    exact absolute.not_bareScheme bare.2.2
  · exact ((sound true _ rfl).1 empty).1 rfl
  · exact (failed token true).2 (.inr ⟨rfl, rfl⟩)

/-- The check passes over an empty text, and no request for it can be made. -/
theorem not_every_check_suffices :
    ¬ ∀ (fields : Json.Members) (e : Endpoint) (given : GivenToken) (token : String), ofFields fields = .ok e →
      given.accept = .ok token →
        (∃ request, e.request token false = .ok request) ∧
        ((∃ f, e.request token true = .error f ∧ f.kind = .initialization) ↔ e.fallback = none) ∧
        ∀ fallback request, e.request token fallback = .ok request →
          request.url.length ≤ Url.maxLength → LeadsToHost request.url := by
  intro always
  have accepted : ofFields [("endpoint", .str "")] = .ok { endpoint := "" } := by decide +kernel
  obtain ⟨⟨request, made⟩, -⟩ := always _ _ _ _ accepted accept_sampleToken
  have asked : ({ endpoint := "" } : Endpoint).asked false = some "" := rfl
  obtain ⟨f, failed, -⟩ := request_of_empty rfl asked sampleToken
  cases made.symm.trans failed

end Bearer.Endpoint
