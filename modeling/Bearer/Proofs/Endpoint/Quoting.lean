import Bearer.Proofs.Endpoint.Validity

/-!
Tokens as text in a URL. `Quotes` says what a text must be like to stand for a token: it writes the bytes
of the token without any delimiter, and it is read back. `urls_quote_tokens` says that every GET request
asks the prefix of its endpoint with such a text behind it, as one more part of the URL, so that no two
tokens are asked with the same URL.
-/

namespace Bearer

/-! ### Delimiters -/

def Url.isDelimiter (c : Char) : Bool :=
  [':', '/', '?', '#', '[', ']', '@'].contains c || isSubDelimiter c

theorem Url.reserved_of_isDelimiter {c : Char} (h : isDelimiter c = true) :
    Percent.isUnreserved c = false ∧ c ≠ '%' := by
  have reserved {signs : List Char} (all : signs.all fun c => !Percent.isUnreserved c && c != '%')
      (member : signs.contains c = true) : Percent.isUnreserved c = false ∧ c ≠ '%' := by
    simpa using List.all_eq_true.1 all c (List.contains_iff_mem.1 member)
  rw [isDelimiter, Bool.or_eq_true] at h
  rcases h with between | within
  · exact reserved (by decide) between
  · exact reserved (by decide) within

theorem Percent.Writes.undelimited {text : List Char} {bytes : List UInt8} (h : Writes text bytes) :
    ∀ c ∈ text, Url.isDelimiter c = false := by
  intro c member
  cases delimits : Url.isDelimiter c with
  | false => rfl
  | true =>
    obtain ⟨reserved, notPercent⟩ := Url.reserved_of_isDelimiter delimits
    exact absurd member (h.not_mem reserved notPercent)

theorem exists_last_delimiter (endpoint : String) (parameter : Option String) :
    ∃ body c, (joinUrl endpoint parameter).toList = body ++ [c] ∧ Url.isDelimiter c = true := by
  rw [toList_joinUrl]
  cases parameter.filter (!·.isEmpty) with
  | none => exact ⟨_, '/', rfl, by decide⟩
  | some p =>
    obtain ⟨c, -, whole⟩ := joint_some (stripSlash endpoint.toList) p
    refine ⟨stripSlash endpoint.toList ++ c :: p.toList, '=', ?_, by decide⟩
    rw [whole, List.append_assoc, List.cons_append]

/-- What is written without delimiters behind a prefix is one more part, and the others stay as they are. -/
theorem exists_parts (endpoint : String) (parameter : Option String) :
    ∃ parts, ∀ rest : String, (∀ c ∈ rest.toList, Url.isDelimiter c = false) →
      Text.pieces Url.isDelimiter (joinUrl endpoint parameter ++ rest).toList = parts ++ [rest.toList] := by
  obtain ⟨body, c, whole, delimits⟩ := exists_last_delimiter endpoint parameter
  refine ⟨Text.pieces Url.isDelimiter body, fun rest undelimited => ?_⟩
  rw [String.toList_append, whole, List.append_assoc, List.singleton_append, Text.pieces_append delimits,
    Text.pieces_eq_singleton undelimited]

namespace Endpoint

/-! ### Quoted tokens -/

/-- Does a text stand for a token: does it write the bytes of the token in unreserved characters and
escapes, and is it read as the token? -/
structure Quotes (text token : String) : Prop where
  writes : Percent.Writes text.toList (Utf8.encode token.toList)
  read : Utf8.decode (Percent.decode text.toList) = .ok token.toList

theorem Quotes.token_eq {text token other : String} (h : Quotes text token) (h' : Quotes text other) :
    token = other := String.toList_inj.1 (Except.ok.inj (h.read.symm.trans h'.read))

theorem quotes_quoteToken (token : String) : Quotes (quoteToken token) token := by
  have writes : Percent.Writes (quoteToken token).toList (Utf8.encode token.toList) := by
    rw [quoteToken, String.toList_ofList]
    exact Percent.writes_encode_all token.toList
  refine ⟨writes, ?_⟩
  rw [writes.decode_eq]
  exact Utf8.decode_iff.2 rfl

example : quoteToken "a+b/c=&d%\u00e9" = "a%2Bb%2Fc%3D%26d%25%C3%A9" := by decide

/-! ### Requests -/

variable {fields : Json.Members} {e : Endpoint} {fallback : Bool} {url : String}

/-- With GET, a request asks the prefix of its endpoint and behind it a text that stands for the token.
Cut at its delimiters, the URL has one part for the token, and the others are the same for all tokens.
Different tokens are asked with different URLs. Only an empty endpoint, which is not looked at when it is
checked, has no prefix, and then there is no request either. -/
theorem urls_quote_tokens (accepted : ofFields fields = .ok e) (get : e.method = .get)
    (asked : e.asked fallback = some url) :
    (url ≠ "" → ∃ front parts, urlPrefix url e.queryParameter = .ok front ∧
      ∀ token, ∃ rest, Quotes rest token ∧
        Text.pieces Url.isDelimiter (front ++ rest).toList = parts ++ [rest.toList] ∧
        e.request token fallback = .ok { method := .get, url := front ++ rest, endpoint := url }) ∧
    (∀ token other request request', e.request token fallback = .ok request →
      e.request other fallback = .ok request' → request.url = request'.url → token = other) ∧
    (url = "" → ∃ refusal, urlPrefix url e.queryParameter = .error refusal ∧
      ∀ token, e.request token fallback = .error refusal.toFailure) := by
  refine ⟨fun nonempty => ?_, fun token other request request' made made' same => ?_, ?_⟩
  · obtain ⟨front, found⟩ := urlPrefix_of_get accepted get asked nonempty
    obtain ⟨parts, cut⟩ := exists_parts url e.queryParameter
    rw [← (checkUrl_of_urlPrefix found).1] at cut
    refine ⟨front, parts, found, fun token => ?_⟩
    have quotes := quotes_quoteToken token
    exact ⟨_, quotes, cut _ quotes.writes.undelimited, request_of_get get asked found token⟩
  · cases found : urlPrefix url e.queryParameter with
    | error refusal => cases made.symm.trans (request_of_refused get asked found token)
    | ok front =>
      obtain rfl := Except.ok.inj (made.symm.trans (request_of_get get asked found token))
      obtain rfl := Except.ok.inj (made'.symm.trans (request_of_get get asked found other))
      have texts : quoteToken token = quoteToken other := (String.append_right_inj front).1 same
      exact (texts ▸ quotes_quoteToken token).token_eq (quotes_quoteToken other)
  · rintro rfl
    obtain ⟨refusal, refused, -⟩ := urlPrefix_empty e.queryParameter
    exact ⟨refusal, refused, request_of_refused get asked refused⟩

/-- An endpoint of which only the fallback can be asked, and two tokens of which one is the other quoted. -/
theorem urls_quote_tokens_fallback :
    let backup := "https://backup.example.com/info?realm=a"
    let e : Endpoint := {
      endpoint := "", queryParameter := some accessTokenParameter, fallback := some backup }
    planB (.str "") (.str backup) = .ok e ∧
      (∃ refusal, urlPrefix "" e.queryParameter = .error refusal ∧
        ∀ token, e.request token = .error refusal.toFailure) ∧
      ∃ front rest slash escaped, urlPrefix backup e.queryParameter = .ok front ∧
        Quotes rest "a/b" ∧ e.request "a/b" true = .ok slash ∧ slash.url = front ++ rest ∧
        e.request "a%2Fb" true = .ok escaped ∧ slash.url ≠ escaped.url := by
  intro backup e
  have accepted : planB (.str "") (.str backup) = .ok e := by decide +kernel
  obtain ⟨-, -, none⟩ := urls_quote_tokens accepted rfl (rfl : e.asked false = some "")
  obtain ⟨some, distinct, -⟩ := urls_quote_tokens accepted rfl (rfl : e.asked true = some backup)
  obtain ⟨front, parts, found, quoted⟩ := some (by decide)
  obtain ⟨rest, quotes, -, slash⟩ := quoted "a/b"
  obtain ⟨_, -, -, escaped⟩ := quoted "a%2Fb"
  refine ⟨accepted, none rfl, front, rest, _, _, found, quotes, slash, rfl, escaped, fun same => ?_⟩
  exact absurd (distinct _ _ _ _ slash escaped same) (by decide)

end Endpoint

end Bearer
