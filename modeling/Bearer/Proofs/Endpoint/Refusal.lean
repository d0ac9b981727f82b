import Bearer.Proofs.Endpoint.Validity

/-!
How a text is refused as an endpoint. `urlPrefix_outcomes` says that every refusal is a failure of the
set-up but one: a host marked as Punycode is decoded after all else was found in order, and what the
decoding refuses it for is passed on as it is.
-/

namespace Bearer.Endpoint

/-! ### Refusals -/

/-- A URL of HTTP whose host is marked as Punycode and stands for no name. -/
def Undecodable (url : String) (e : DomainName.Error) : Prop :=
  ∃ u, Url.read url.toList = .ok u ∧ IsHttp u ∧
    DomainName.mark.isPrefixOf u.host = true ∧ DomainName.decode u.host = .error e

def Refused (url : String) : UrlRefusal → Prop
  | .invalid e => Url.read url.toList = .error e
  | .notAbsolute text => url = text ∧
    ∃ u, Url.read url.toList = .ok u ∧ (IsHttp u → u.readableHost = .ok [])
  | .host e => Undecodable url e

theorem readableHost_eq_error_iff {u : Url} {e : DomainName.Error} : u.readableHost = .error e ↔
    DomainName.mark.isPrefixOf u.host = true ∧ DomainName.decode u.host = .error e := by
  rw [Url.readableHost]
  split
  next marked => simp only [marked, true_and]
  next plain => simp only [plain, reduceCtorEq, Bool.false_eq_true, false_and]

theorem undecodable_iff {url : String} {e : DomainName.Error} : Undecodable url e ↔
    ∃ u, Url.read url.toList = .ok u ∧ IsHttp u ∧ u.readableHost = .error e := by
  simp only [Undecodable, readableHost_eq_error_iff]

theorem checkUrl_eq_error_iff {url : String} {refusal : UrlRefusal} :
    checkUrl url = .error refusal ↔ Refused url refusal := by
  unfold checkUrl
  cases read : Url.read url.toList with
  | error e => cases refusal <;> simp [Refused, undecodable_iff, read]
  | ok u =>
    by_cases http : IsHttp u
    · dsimp only
      rw [if_neg (mt refusesScheme_iff.1 (not_not_intro http))]
      cases readable : u.readableHost with
      | error e => cases refusal <;> simp [Refused, undecodable_iff, read, http, readable]
      | ok host => cases host <;> cases refusal <;> simp [Refused, undecodable_iff, read, http, readable]
    · dsimp only
      rw [if_pos (refusesScheme_iff.2 http)]
      cases refusal <;> simp [Refused, undecodable_iff, read, http]

variable {endpoint : String} {parameter : Option String} {e : DomainName.Error}

theorem urlPrefix_eq_ok_iff {front : String} : urlPrefix endpoint parameter = .ok front ↔
    joinUrl endpoint parameter = front ∧ LeadsToHost (joinUrl endpoint parameter ++ sampleToken) := by
  rw [urlPrefix, map_eq_ok_iff, ← checkUrl_eq_ok_iff]
  constructor
  · rintro ⟨_, checked, rfl⟩
    exact ⟨rfl, checked⟩
  · rintro ⟨rfl, checked⟩
    exact ⟨(), checked, rfl⟩

theorem urlPrefix_eq_error_iff {refusal : UrlRefusal} : urlPrefix endpoint parameter = .error refusal ↔
    Refused (joinUrl endpoint parameter ++ sampleToken) refusal := by
  rw [urlPrefix, ← checkUrl_eq_error_iff]
  cases checkUrl (joinUrl endpoint parameter ++ sampleToken) <;> simp [Except.map]

/-! ### Hosts that cannot be decoded -/

theorem isHttp_congr {u v : Url} (same : u.scheme = v.scheme) : IsHttp u ↔ IsHttp v := by
  rw [IsHttp, IsHttp, same]

theorem IsHttp.nonempty {u : Url} (h : IsHttp u) : u.scheme ≠ [] := by
  intro none
  rw [IsHttp, none] at h
  exact absurd h (by decide)

theorem host_of_mark {u : Url} (marked : DomainName.mark.isPrefixOf u.host = true) : u.host ≠ [] := by
  intro none
  rw [none] at marked
  cases marked

/-- Behind a bare scheme the sample token is the host, which is not marked. -/
theorem not_undecodable_of_bareScheme (bare : BareScheme endpoint)
    (unnamed : parameter.filter (!·.isEmpty) = none) :
    ¬ Undecodable (joinUrl endpoint parameter ++ sampleToken) e := by
  rintro ⟨u, read, -, marked, -⟩
  obtain ⟨scheme, valid, whole⟩ := bare
  rw [String.toList_append, toList_joinUrl_of_bare whole unnamed] at read
  have plain := Url.plain_of_all (by decide : sampleToken.toList.all Percent.isUnreserved = true)
  have sent : Url.encodeHost sampleToken.toList = .ok sampleToken.toList := by decide
  have host := Except.ok.inj (sent.symm.trans (Url.of_read_plain plain valid read).2)
  rw [← host] at marked
  exact absurd marked (by decide)

/-- The joint and what follows it neither make nor mend a host that cannot be decoded. -/
theorem undecodable_joined_iff : Undecodable (joinUrl endpoint parameter ++ sampleToken) e ↔
    Undecodable endpoint e ∧ ∃ u, Url.read (joinUrl endpoint parameter ++ sampleToken).toList = .ok u := by
  constructor
  · intro undecodable
    obtain ⟨u, read, http, marked, failed⟩ := undecodable
    refine ⟨?_, u, read⟩
    obtain ⟨scheme, rest, absolute⟩ | ⟨unnamed, bare⟩ :=
      of_read_joined read http.nonempty (host_of_mark marked)
    · obtain ⟨base, readBase, origin⟩ := absolute.exists_base read
      have parts := of_origin origin
      exact ⟨base, readBase, (isHttp_congr parts.1).2 http, parts.2.1 ▸ marked, parts.2.1 ▸ failed⟩
    · exact absurd ⟨u, read, http, marked, failed⟩ (not_undecodable_of_bareScheme bare unnamed)
  · rintro ⟨⟨base, readBase, http, marked, failed⟩, u, read⟩
    -- the host of the endpoint is not empty, so that the joint stands behind it
    obtain ⟨scheme, rest, absolute⟩ := absolute_of_read readBase http.nonempty (host_of_mark marked)
    have joined := read
    rw [String.toList_append] at joined
    have parts := of_origin (absolute.origin_eq joined readBase)
    exact ⟨u, read, (isHttp_congr parts.1).2 http, parts.2.1 ▸ marked, parts.2.1 ▸ failed⟩

/-! ### Outcomes -/

theorem kind_of_refused {url : String} {refusal : UrlRefusal} (refused : Refused url refusal) :
    refusal.toFailure.kind = .initialization ∨
      ∃ e, refusal = .host e ∧ Undecodable url e := by
  cases refusal with
  | invalid e => exact .inl rfl
  | notAbsolute text => exact .inl rfl
  | host e => exact .inr ⟨e, rfl, refused⟩

/-- An endpoint gives the text in front of a token exactly if that text leads to some host with the sample
token behind it. It is refused by anything but a failure of the set-up exactly if its own host cannot be
decoded and the text can be read nevertheless, and then by what the decoding failed for. -/
theorem urlPrefix_outcomes (endpoint : String) (parameter : Option String) :
    let front := joinUrl endpoint parameter
    (∀ given, urlPrefix endpoint parameter = .ok given ↔
      front = given ∧ LeadsToHost (front ++ sampleToken)) ∧
    (∀ refusal, urlPrefix endpoint parameter = .error refusal →
      refusal.toFailure.kind = .initialization ∨
        ∃ e, refusal.toFailure = .raised (.foreign e.kind) e.message ∧ Undecodable endpoint e) ∧
    ((∃ refusal, urlPrefix endpoint parameter = .error refusal ∧
        refusal.toFailure.kind ≠ .initialization) ↔
      (∃ e, Undecodable endpoint e) ∧ ∃ u, Url.read (front ++ sampleToken).toList = .ok u) := by
  intro front
  refine ⟨fun given => urlPrefix_eq_ok_iff, ?_, ?_, ?_⟩
  · intro refusal refused
    obtain kind | ⟨e, rfl, undecodable⟩ := kind_of_refused (urlPrefix_eq_error_iff.1 refused)
    · exact .inl kind
    · exact .inr ⟨e, rfl, (undecodable_joined_iff.1 undecodable).1⟩
  · rintro ⟨refusal, refused, other⟩
    obtain kind | ⟨e, rfl, undecodable⟩ := kind_of_refused (urlPrefix_eq_error_iff.1 refused)
    · exact absurd kind other
    · obtain ⟨own, read⟩ := undecodable_joined_iff.1 undecodable
      exact ⟨⟨e, own⟩, read⟩
  · rintro ⟨⟨e, own⟩, read⟩
    have undecodable := undecodable_joined_iff.2 ⟨own, read⟩
    exact ⟨.host e, urlPrefix_eq_error_iff.2 undecodable, by rintro ⟨⟩⟩

theorem urlPrefix_unmarked_punycode :
    urlPrefix "https://xn--/" none = .error (.host .noPunycode) := by
  decide

/-- A mark with nothing behind it is refused for its encoding. -/
theorem urlPrefix_outcomes_undecodable :
    urlPrefix "https://xn--/" none = .error (.host .noPunycode) ∧
      ((UrlRefusal.host .noPunycode).toFailure.kind = .initialization ∨
        ∃ e, (UrlRefusal.host .noPunycode).toFailure = .raised (.foreign e.kind) e.message ∧
          Undecodable "https://xn--/" e) :=
  ⟨urlPrefix_unmarked_punycode,
    (urlPrefix_outcomes "https://xn--/" none).2.1 _ urlPrefix_unmarked_punycode⟩

theorem not_every_refusal_of_set_up :
    ¬ ∀ (endpoint : String) (parameter : Option String) (refusal : UrlRefusal),
      urlPrefix endpoint parameter = .error refusal → refusal.toFailure.kind = .initialization := by
  intro always
  have kind := always _ _ _ urlPrefix_unmarked_punycode
  cases kind

end Bearer.Endpoint
