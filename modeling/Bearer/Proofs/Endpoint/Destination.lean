import Bearer.GivenToken
import Bearer.Proofs.Endpoint.Prefix

/-!
Where requests go. Scheme, host and port of a request are those of the endpoint that is asked, whatever
the token (`destination_fixed_iff`), but for one endpoint that the check lets through: a scheme and two
slashes. Behind these the token itself is the host.
-/

namespace Bearer.Endpoint

/-! ### Requests of an accepted endpoint -/

variable {fields : Json.Members} {e : Endpoint} {fallback : Bool} {url : String}

theorem check_of_ofFields (accepted : ofFields fields = .ok e) : e.check = .ok () := by
  obtain ⟨_, -, h⟩ := bind_eq_ok_iff.1 accepted
  obtain ⟨_, checked, h⟩ := bind_eq_ok_iff.1 h
  obtain rfl := Except.ok.inj h
  exact checked

theorem mem_urls (asked : e.asked fallback = some url) (nonempty : url ≠ "") : url ∈ e.urls := by
  have given : (!url.isEmpty) = true := by simpa using nonempty
  unfold Endpoint.asked at asked
  split at asked
  · simp [urls, asked, given]
  · obtain rfl := Option.some.inj asked
    simp [urls, given]

theorem urlPrefix_of_get (accepted : ofFields fields = .ok e) (get : e.method = .get)
    (asked : e.asked fallback = some url) (nonempty : url ≠ "") :
    ∃ front, urlPrefix url e.queryParameter = .ok front := by
  have checked := check_of_ofFields accepted
  rw [check, get] at checked
  have one := of_forM (mapError_eq_ok_iff.1 checked) (mem_urls asked nonempty)
  cases found : urlPrefix url e.queryParameter with
  | error refusal => rw [found] at one; cases one
  | ok front => exact ⟨front, rfl⟩

theorem checkUrl_of_post (accepted : ofFields fields = .ok e) (post : e.method = .post)
    (asked : e.asked fallback = some url) (nonempty : url ≠ "") : checkUrl url = .ok () := by
  have checked := check_of_ofFields accepted
  rw [check, post] at checked
  dsimp only at checked
  split at checked
  · cases checked
  · exact of_forM (mapError_eq_ok_iff.1 checked) (mem_urls asked nonempty)

theorem request_of_get {front : String} (get : e.method = .get) (asked : e.asked fallback = some url)
    (accepted : urlPrefix url e.queryParameter = .ok front) (token : String) :
    e.request token fallback =
      .ok { method := .get, url := front ++ quoteToken token, endpoint := url } := by
  simp only [request, asked, requestTo, get, accepted]

theorem request_of_refused {refusal : UrlRefusal} (get : e.method = .get)
    (asked : e.asked fallback = some url) (refused : urlPrefix url e.queryParameter = .error refusal)
    (token : String) : e.request token fallback = .error refusal.toFailure := by
  simp only [request, asked, requestTo, get, refused]

theorem request_eq_of_post (post : e.method = .post) (asked : e.asked fallback = some url) (token : String) :
    e.request token fallback = .ok {
      method := .post, url, endpoint := url
      form := some [("token", token), ("token_type_hint", "access_token")]
      credentials := e.credentials } := by
  simp only [request, asked, requestTo, post]

theorem request_of_post (post : e.method = .post) (asked : e.asked fallback = some url)
    (token : String) : ∃ request, e.request token fallback = .ok request ∧ request.url = url :=
  ⟨_, request_eq_of_post post asked token, rfl⟩

/-! ### The destination -/

/-- Do the requests for all tokens lead where the endpoint leads? -/
def FixedDestination (e : Endpoint) (fallback : Bool) (url : String) : Prop :=
  ∃ base, Url.read url.toList = .ok base ∧
    ∀ (given : GivenToken) token, given.accept = .ok token →
      ∃ request, e.request token fallback = .ok request ∧
        ∀ u, Url.read request.url.toList = .ok u →
          u.scheme = base.scheme ∧ u.host = base.host ∧ u.port = base.port

theorem of_origin {u v : Url} (h : u.origin = v.origin) :
    u.scheme = v.scheme ∧ u.host = v.host ∧ u.port = v.port := by
  simp only [Url.origin, Prod.mk.injEq] at h
  exact ⟨h.1, h.2.2.1, h.2.2.2⟩

theorem fixedDestination_of_post (accepted : ofFields fields = .ok e) (post : e.method = .post)
    (asked : e.asked fallback = some url) (nonempty : url ≠ "") : e.FixedDestination fallback url := by
  obtain ⟨base, read, -, -⟩ := of_checkUrl (checkUrl_of_post accepted post asked nonempty)
  refine ⟨base, read, fun _ token _ => ?_⟩
  obtain ⟨request, made, rfl⟩ := request_of_post post asked token
  refine ⟨request, made, fun u readToken => ?_⟩
  obtain rfl := Except.ok.inj (readToken.symm.trans read)
  exact ⟨rfl, rfl, rfl⟩

theorem fixedDestination_of_absolute {front : String} {scheme rest : List Char}
    (get : e.method = .get) (asked : e.asked fallback = some url)
    (accepted : urlPrefix url e.queryParameter = .ok front) (absolute : Absolute url scheme rest) :
    e.FixedDestination fallback url := by
  obtain ⟨base, read, -, same⟩ := absolute.read_endpoint accepted
  refine ⟨base, read, fun _ token _ => ⟨_, request_of_get get asked accepted token, ?_⟩⟩
  intro u readToken
  rw [String.toList_append] at readToken
  exact of_origin (same _ u readToken)

theorem host_of_bareScheme {base : Url} (bare : BareScheme url) (read : Url.read url.toList = .ok base) :
    base.host = [] := by
  obtain ⟨scheme, valid, whole⟩ := bare
  by_contra host
  have authority := Url.authority_of_host read host
  rw [whole, ← List.append_nil (scheme ++ _), Url.ofChars_absolute valid] at authority
  exact authority rfl

theorem accept_sampleToken : GivenToken.accept sampleToken = .ok sampleToken := by decide +kernel

theorem quoteToken_sampleToken : quoteToken sampleToken = sampleToken := by
  decide +kernel

theorem not_fixedDestination_of_bareScheme {front : String} (get : e.method = .get)
    (asked : e.asked fallback = some url) (accepted : urlPrefix url e.queryParameter = .ok front)
    (bare : BareScheme url) : ¬ e.FixedDestination fallback url := by
  rintro ⟨base, read, fixed⟩
  obtain ⟨request, made, same⟩ := fixed _ _ accept_sampleToken
  obtain rfl := Except.ok.inj (made.symm.trans (request_of_get get asked accepted sampleToken))
  obtain ⟨-, checked⟩ := checkUrl_of_urlPrefix accepted
  obtain ⟨u, readToken, -, host⟩ := of_checkUrl checked
  rw [quoteToken_sampleToken] at same
  exact host ((same u readToken).2.1.trans (host_of_bareScheme bare read))

/-- Requests lead where their endpoint leads, whatever the token, unless a bare scheme is asked and the
token stands in the path. -/
theorem destination_fixed_iff (accepted : ofFields fields = .ok e)
    (asked : e.asked fallback = some url) (nonempty : url ≠ "") :
    e.FixedDestination fallback url ↔
      ¬ (e.method = .get ∧ e.queryParameter.filter (!·.isEmpty) = none ∧ BareScheme url) := by
  cases method : e.method with
  | post => simp [fixedDestination_of_post accepted method asked nonempty]
  | get =>
    obtain ⟨front, found⟩ := urlPrefix_of_get accepted method asked nonempty
    obtain ⟨scheme, rest, absolute⟩ | ⟨unnamed, bare⟩ := of_urlPrefix found
    · have fixed := fixedDestination_of_absolute method asked found absolute
      refine iff_of_true fixed ?_
      rintro ⟨-, -, bare⟩
      exact not_fixedDestination_of_bareScheme method asked found bare fixed
    · simp [not_fixedDestination_of_bareScheme method asked found bare, unnamed, bare]

theorem googleV3_accepted :
    googleV3 = .ok { endpoint := googleUrl, queryParameter := some accessTokenParameter } := by
  decide +kernel

theorem googleV3_destination_fixed : ∃ e, googleV3 = .ok e ∧ e.FixedDestination false googleUrl :=
  ⟨_, googleV3_accepted, (destination_fixed_iff googleV3_accepted rfl (by decide)).2
    fun bare => absurd bare.2.1 (by decide)⟩

/-- Behind a bare scheme the token is the host. -/
theorem not_every_destination_fixed :
    ¬ ∀ (fields : Json.Members) (e : Endpoint) (fallback : Bool) (url : String),
      ofFields fields = .ok e → e.asked fallback = some url → url ≠ "" →
        e.FixedDestination fallback url := by
  intro always
  have accepted : ofFields [("endpoint", .str "https://")] = .ok { endpoint := "https://" } := by
    decide +kernel
  have asked : ({ endpoint := "https://" } : Endpoint).asked false = some "https://" := rfl
  have fixed := always _ _ false "https://" accepted asked (by decide)
  obtain ⟨front, found⟩ := urlPrefix_of_get accepted rfl asked (by decide)
  exact not_fixedDestination_of_bareScheme rfl asked found ⟨"https".toList, isScheme_https, by simp⟩ fixed

end Bearer.Endpoint
