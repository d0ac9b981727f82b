import Bearer.Proofs.Endpoint.Query
import Bearer.Proofs.GivenToken

/-!
Tokens in a path. `Appends` says what a URL must be like to bring the token to the receiver as one more
segment of the path of the endpoint, all else being as in the endpoint. The token is joined as text in
front of which dot segments are removed, so this holds exactly for endpoints that `Extensible` describes
and for tokens that are no dot segments themselves (`appends_iff`).
-/

namespace Bearer.Endpoint

open Url (endsAuthority safeInPath)

/-! ### One more segment -/

def withSlash (path : List Char) : List Char :=
  if path.getLast? = some '/' then path else path ++ ['/']

/-- Does a URL bring a token to its receiver as one more segment of the path, and all else as the URL of
the endpoint does? -/
structure Appends (base u : Url) (token : List Char) : Prop where
  segment : ∃ segment, u.path = withSlash base.path ++ segment ∧ '/' ∉ segment ∧
    Percent.decode segment = Utf8.encode token
  query : u.query = base.query
  fragment : u.fragment = base.fragment
  origin : u.origin = base.origin

/-- An endpoint that ends in its path, as it is written: a slash that is left at the end when dot
segments are removed does not count. -/
structure Extensible (url : String) (base : Url) : Prop where
  hosted : ¬ BareScheme url
  noQuery : '?' ∉ url.toList
  noFragment : '#' ∉ url.toList
  slash : base.path.getLast? = some '/' → url.toList.getLast? = some '/'

theorem length_le_withSlash (path : List Char) : path.length ≤ (withSlash path).length := by
  unfold withSlash
  split
  · exact Nat.le_refl _
  · simp

variable {base u : Url} {token : List Char}

theorem Appends.longer (h : Appends base u token) (given : token ≠ []) :
    base.path.length < u.path.length := by
  obtain ⟨segment, path, -, decoded⟩ := h.segment
  have some : segment ≠ [] := by
    rintro rfl
    have nothing : Utf8.encode token = Utf8.encode [] := decoded.symm
    exact given (Utf8.encode_injective nothing)
  have positive := List.length_pos_iff.2 some
  have kept := length_le_withSlash base.path
  rw [path, List.length_append]
  omega

/-- What is joined with a slash is one more segment, unless the slash at the end of the path was not
taken from the text. -/
theorem segment_iff (path : List Char) {tail segment : List Char} {bytes : List UInt8}
    (short : tail = [] ∨ tail = ['/']) (whole : '/' ∉ segment)
    (decoded : Percent.decode segment = bytes) :
    (∃ more, path ++ '/' :: segment = withSlash (path ++ tail) ++ more ∧ '/' ∉ more ∧
      Percent.decode more = bytes) ↔ ((path ++ tail).getLast? = some '/' → tail = ['/']) := by
  rcases short with rfl | rfl
  · rw [List.append_nil]
    by_cases slash : path.getLast? = some '/'
    · have same : withSlash path = path := if_pos slash
      rw [same]
      refine iff_of_false ?_ (fun h => absurd (h slash) (by simp))
      rintro ⟨more, cut, wholeMore, -⟩
      obtain rfl := List.append_cancel_left cut
      exact wholeMore List.mem_cons_self
    · have added : withSlash path = path ++ ['/'] := if_neg slash
      rw [added]
      refine iff_of_true ⟨segment, by simp, whole, decoded⟩ fun h => absurd h slash
  · have same : withSlash (path ++ ['/']) = path ++ ['/'] := if_pos (by simp)
    rw [same]
    exact iff_of_true ⟨segment, by simp, whole, decoded⟩ fun _ => rfl

/-! ### Escaped tokens -/

theorem encode_quoted (token : List Char) : Percent.encode safeInPath (quoted token) = quoted token := by
  apply Percent.encode_of_kept
  intro c member
  rcases Percent.mem_encode_all member with rfl | unreserved
  · rfl
  · rw [unreserved]
    rfl

theorem not_mem_slash_quoted (token : List Char) : '/' ∉ quoted token :=
  not_mem_quoted (by decide) (by decide) token

theorem quoted_eq_iff {dots : List Char} (same : quoted dots = dots) :
    quoted token = dots ↔ token = dots := by
  constructor
  · intro h
    exact Percent.encode_all_injective (h.trans same.symm)
  · rintro rfl
    exact same

theorem quoted_dot : quoted ['.'] = ['.'] := by decide

theorem quoted_dots : quoted ['.', '.'] = ['.', '.'] := by decide

/-! ### Paths -/

/-- Behind an authority, what has neither query nor fragment is empty or starts with a slash. -/
theorem rooted_behind {rest : List Char} (noHash : '#' ∉ rest.dropWhile (!endsAuthority ·))
    (noMark : '?' ∉ rest.dropWhile (!endsAuthority ·)) :
    rest.dropWhile (!endsAuthority ·) = [] ∨ (rest.dropWhile (!endsAuthority ·)).head? = some '/' := by
  have start := List.head?_dropWhile_not (!endsAuthority ·) rest
  cases behind : rest.dropWhile (!endsAuthority ·) with
  | nil => exact .inl rfl
  | cons c more =>
    rw [behind] at start noHash noMark
    have ends : endsAuthority c = true := by simpa using start
    rcases Url.endsAuthority_iff.1 ends with rfl | rfl | rfl
    · exact .inr rfl
    · exact absurd List.mem_cons_self noMark
    · exact absurd List.mem_cons_self noHash

theorem encode_slash_cons (path segment : List Char) :
    Percent.encode safeInPath (path ++ '/' :: segment) =
      Percent.encode safeInPath path ++ '/' :: Percent.encode safeInPath segment := by
  have slash : Percent.encodeChar safeInPath '/' = ['/'] := Percent.encodeChar_of_kept (by decide)
  simp [Percent.encode, slash]

/-- The path of an endpoint: without the slash at its end, as dot segments leave it, and the slash. -/
theorem own_path {behind tail : List Char} (rooted : behind = [] ∨ behind.head? = some '/')
    (short : tail = [] ∨ tail = ['/']) : Percent.encode safeInPath (Url.removeDots (behind ++ tail)) =
      Percent.encode safeInPath (Url.removeDots behind) ++ tail := by
  rcases short with rfl | rfl
  · rw [List.append_nil, List.append_nil]
  · have kept : Url.removeDots (behind ++ ['/']) = Url.removeDots behind ++ ['/'] :=
      Url.removeDots_append_segment rooted (by simp) (by simp) (by simp)
    rw [kept, encode_slash_cons]
    rfl

theorem sent_path {behind : List Char} (rooted : behind = [] ∨ behind.head? = some '/')
    (oneDot : token ≠ ['.']) (twoDots : token ≠ ['.', '.']) :
    Percent.encode safeInPath (Url.removeDots (behind ++ '/' :: quoted token)) =
      Percent.encode safeInPath (Url.removeDots behind) ++ '/' :: quoted token := by
  have kept := Url.removeDots_append_segment rooted (not_mem_slash_quoted token)
    (mt (quoted_eq_iff quoted_dot).1 oneDot) (mt (quoted_eq_iff quoted_dots).1 twoDots)
  rw [kept, encode_slash_cons, encode_quoted]

theorem length_sent_path_of_dots (behind : List Char) (dots : token = ['.'] ∨ token = ['.', '.']) :
    (Percent.encode safeInPath (Url.removeDots (behind ++ '/' :: quoted token))).length ≤
      (Percent.encode safeInPath (Url.removeDots behind)).length := by
  have segment : quoted token = ['.'] ∨ quoted token = ['.', '.'] :=
    dots.imp (quoted_eq_iff quoted_dot).2 (quoted_eq_iff quoted_dots).2
  obtain ⟨more, whole⟩ := Url.removeDots_append_dots behind segment
  rw [whole, Percent.encode, Percent.encode, List.flatMap_append, List.length_append]
  omega

/-! ### Requests -/

variable {url front : String} {scheme rest : List Char}

theorem toList_sent_in_path (absolute : Absolute url scheme rest) {parameter : Option String}
    (unnamed : parameter.filter (!·.isEmpty) = none) (token : List Char) :
    (joinUrl url parameter).toList ++ quoted token =
      scheme ++ [':', '/', '/'] ++ (rest ++ '/' :: quoted token) := by
  rw [absolute.toList_joinUrl, unnamed, joint]
  simp

section

variable (absolute : Absolute url scheme rest) (readBase : Url.read url.toList = .ok base)
  (readSent : Url.read (scheme ++ [':', '/', '/'] ++ (rest ++ '/' :: quoted token)) = .ok u)

include absolute readBase readSent

/-- A token that lands in the query or the fragment of the endpoint leaves the path as it is. -/
theorem path_of_marked (marked : '#' ∈ url.toList ∨ '?' ∈ url.toList) : u.path = base.path := by
  obtain ⟨tail, ending, whole⟩ := absolute.toList_eq
  have behind := marked.imp (mem_behind_iff absolute (.inl rfl)).1 (mem_behind_iff absolute (.inr rfl)).1
  have same : (rest ++ '/' :: quoted token).takeWhile (!endsAuthority ·) =
      rest.takeWhile (!endsAuthority ·) := Text.takeWhile_append_stop _ rfl
  rw [whole] at readBase
  have path := (Url.of_read_absolute absolute.valid readSent).1
  have path' := (Url.of_read_absolute absolute.valid readBase).1
  rw [Text.dropWhile_append_of_takeWhile same, Url.pathOf_append behind] at path
  rw [Text.dropWhile_append_of_takeWhile (takeWhile_slash rest (ending.imp And.left And.left)),
    Url.pathOf_append behind] at path'
  exact path.trans path'.symm

theorem parts_of_unmarked (noHash : '#' ∉ url.toList) (noMark : '?' ∉ url.toList) : ∃ behind tail,
    (behind = [] ∨ behind.head? = some '/') ∧ (tail = [] ∨ tail = ['/']) ∧
    (tail = ['/'] ↔ url.toList.getLast? = some '/') ∧
    base.path = Percent.encode safeInPath (Url.removeDots behind) ++ tail ∧
    u.path = Percent.encode safeInPath (Url.removeDots (behind ++ '/' :: quoted token)) ∧
    u.query = base.query ∧ u.fragment = base.fragment := by
  obtain ⟨tail, ending, whole⟩ := absolute.toList_eq
  have short : tail = [] ∨ tail = ['/'] := ending.imp And.left And.left
  have noHash := mt (mem_behind_iff absolute (.inl rfl)).2 noHash
  have noMark := mt (mem_behind_iff absolute (.inr rfl)).2 noMark
  have same : (rest ++ '/' :: quoted token).takeWhile (!endsAuthority ·) =
      rest.takeWhile (!endsAuthority ·) := Text.takeWhile_append_stop _ rfl
  rw [whole] at readBase
  obtain ⟨path, query, fragment⟩ := Url.of_read_absolute absolute.valid readSent
  obtain ⟨path', query', fragment'⟩ := Url.of_read_absolute absolute.valid readBase
  rw [Text.dropWhile_append_of_takeWhile same] at path query fragment
  rw [Text.dropWhile_append_of_takeWhile (takeWhile_slash rest short)] at path' query' fragment'
  have rooted := rooted_behind noHash noMark
  generalize rest.dropWhile (!endsAuthority ·) = behind at *
  have noHash' : '#' ∉ behind ++ tail := by rcases short with rfl | rfl <;> simp [noHash]
  have noMark' : '?' ∉ behind ++ tail := by rcases short with rfl | rfl <;> simp [noMark]
  have noHashSent : '#' ∉ behind ++ '/' :: quoted token := by
    simp [noHash, not_mem_quoted (c := '#') (by decide) (by decide) token]
  have noMarkSent : '?' ∉ behind ++ '/' :: quoted token := by
    simp [noMark, not_mem_quoted (c := '?') (by decide) (by decide) token]
  rw [Url.pathOf_of_not_mem noHashSent noMarkSent] at path
  rw [Url.pathOf_of_not_mem noHash' noMark', own_path rooted short] at path'
  rw [Url.queryOf_of_not_mem noHashSent noMarkSent] at query
  rw [Url.queryOf_of_not_mem noHash' noMark'] at query'
  rw [Url.fragmentOf_of_not_mem noHashSent] at fragment
  rw [Url.fragmentOf_of_not_mem noHash'] at fragment'
  refine ⟨behind, tail, rooted, short, ?_, path', path, query.trans query'.symm,
    fragment.trans fragment'.symm⟩
  rcases ending with ⟨rfl, other⟩ | ⟨rfl, slash⟩
  · exact iff_of_false (by simp) other
  · exact iff_of_true rfl slash

/-- A URL that is sent appends the token exactly if the endpoint ends in its path and the token is no
dot segment. -/
theorem appends_iff_of_absolute (given : token ≠ []) (origin : u.origin = base.origin) :
    Appends base u token ↔ Extensible url base ∧ token ≠ ['.'] ∧ token ≠ ['.', '.'] := by
  by_cases marked : '#' ∈ url.toList ∨ '?' ∈ url.toList
  · have same := path_of_marked absolute readBase readSent marked
    refine iff_of_false (fun appends => ?_) ?_
    · have longer := appends.longer given
      rw [same] at longer
      exact Nat.lt_irrefl _ longer
    · rintro ⟨extensible, -⟩
      exact marked.elim extensible.noFragment extensible.noQuery
  obtain ⟨noHash, noMark⟩ := not_or.1 marked
  obtain ⟨behind, tail, rooted, short, written, own, sent, query, fragment⟩ :=
    parts_of_unmarked absolute readBase readSent noHash noMark
  by_cases dots : token = ['.'] ∨ token = ['.', '.']
  · refine iff_of_false (fun appends => ?_) ?_
    · have longer := appends.longer given
      have shorter := length_sent_path_of_dots behind dots
      rw [sent, own, List.length_append] at longer
      omega
    · rintro ⟨-, oneDot, twoDots⟩
      exact dots.elim oneDot twoDots
  obtain ⟨oneDot, twoDots⟩ := not_or.1 dots
  rw [sent_path rooted oneDot twoDots] at sent
  have segment := segment_iff (Percent.encode safeInPath (Url.removeDots behind)) short
    (not_mem_slash_quoted token) (Percent.decode_encode_all token)
  rw [← sent, ← own, written] at segment
  constructor
  · intro appends
    have slash := segment.1 appends.segment
    exact ⟨⟨absolute.not_bareScheme, noMark, noHash, slash⟩, oneDot, twoDots⟩
  · rintro ⟨extensible, -, -⟩
    exact ⟨segment.2 extensible.slash, query, fragment, origin⟩

end

/-- Behind a bare scheme the token is the host, and no part of the path. -/
theorem not_appends_of_bareScheme (bare : BareScheme url) (readBase : Url.read url.toList = .ok base)
    (scheme : base.scheme ≠ []) : ¬ Appends base u.rooted token := by
  intro appends
  have none := host_of_bareScheme bare readBase
  have same := of_origin appends.origin
  rw [Url.rooted] at same
  split at same
  next absolute =>
    rw [Url.isAbsolute, same.2.1, none] at absolute
    simp at absolute
  next => exact scheme same.1.symm

/-! ### Endpoints -/

variable {fields : Json.Members} {e : Endpoint} {fallback : Bool} {trimmed : String}

section

variable (accepted : ofFields fields = .ok e) (get : e.method = .get)
  (unnamed : e.queryParameter.filter (!·.isEmpty) = none) (asked : e.asked fallback = some url)
  (nonempty : url ≠ "")

include accepted get unnamed asked nonempty

theorem request_appends_iff (some : trimmed ≠ "") :
    ∃ base request, Url.read url.toList = .ok base ∧ e.request trimmed fallback = .ok request ∧
      ∀ u, Url.read request.url.toList = .ok u →
        (Appends base u.rooted trimmed.toList ↔
          Extensible url base ∧ trimmed ≠ "." ∧ trimmed ≠ "..") := by
  obtain ⟨front, found⟩ := urlPrefix_of_get accepted get asked nonempty
  have made := request_of_get get asked found trimmed
  obtain ⟨scheme, rest, absolute⟩ | ⟨-, bare⟩ := of_urlPrefix found
  · obtain ⟨base, readBase, isAbsolute, same⟩ := absolute.read_endpoint found
    refine ⟨base, _, readBase, made, fun u readSent => ?_⟩
    rw [String.toList_append, quoteToken, String.toList_ofList] at readSent
    have origin := same _ u readSent
    have parts := of_origin origin
    have rooted : u.rooted = u :=
      if_pos (by rw [← isAbsolute, Url.isAbsolute, Url.isAbsolute, parts.1, parts.2.1])
    obtain ⟨rfl, -⟩ := checkUrl_of_urlPrefix found
    have sent := toList_sent_in_path absolute unnamed trimmed.toList
    rw [quoted] at sent
    rw [sent] at readSent
    have some : trimmed.toList ≠ [] := mt String.toList_eq_nil_iff.1 some
    rw [rooted, appends_iff_of_absolute absolute readBase readSent some origin]
    simp [String.ext_iff]
  · obtain ⟨scheme, valid, whole⟩ := bare
    obtain ⟨rfl, checked⟩ := checkUrl_of_urlPrefix found
    obtain ⟨v, readSample, -⟩ := of_checkUrl checked
    rw [String.toList_append, toList_joinUrl_of_bare whole unnamed] at readSample
    have readBase := Url.read_bare valid readSample
    rw [← whole] at readBase
    have bare : BareScheme url := ⟨scheme, valid, whole⟩
    refine ⟨_, _, readBase, made, fun u _ => iff_of_false ?_ fun h => h.1.hosted bare⟩
    exact not_appends_of_bareScheme bare readBase (by simpa using valid.nonempty)

end

/-- Whatever request can be sent appends its token to the path exactly if the endpoint ends in its path
and the token is no dot segment. -/
theorem token_in_path_iff (accepted : ofFields fields = .ok e) (get : e.method = .get)
    (unnamed : e.queryParameter.filter (!·.isEmpty) = none) (asked : e.asked fallback = some url)
    (nonempty : url ≠ "") {given : GivenToken} (normalized : given.accept = .ok trimmed) :
    ∃ base request, Url.read url.toList = .ok base ∧ e.request trimmed fallback = .ok request ∧
      ∀ u, Url.read request.url.toList = .ok u →
        (Appends base u.rooted trimmed.toList ↔
          Extensible url base ∧ trimmed ≠ "." ∧ trimmed ≠ "..") :=
  request_appends_iff accepted get unnamed asked nonempty (GivenToken.accept_ne_empty normalized)

/-- Slashes and dots of a token stay within its segment. -/
theorem token_in_path_escaped :
    let url := "https://example.com/tokeninfo"
    let base : Url := { scheme := "https".toList, host := "example.com".toList, path := "/tokeninfo".toList }
    let u : Url := { base with path := "/tokeninfo/..%2Fadmin".toList }
    ofFields [("endpoint", .str url)] = .ok { endpoint := url } ∧ Url.read url.toList = .ok base ∧
      Url.read "https://example.com/tokeninfo/..%2Fadmin".toList = .ok u ∧
      Appends base u.rooted "../admin".toList := by
  intro url base u
  have accepted : ofFields [("endpoint", .str url)] = .ok { endpoint := url } := by decide +kernel
  have readBase : Url.read url.toList = .ok base := by decide +kernel
  have readSent : Url.read "https://example.com/tokeninfo/..%2Fadmin".toList = .ok u := by
    decide +kernel
  refine ⟨accepted, readBase, readSent, ?_⟩
  have asked : ({ endpoint := url } : Endpoint).asked false = some url := rfl
  have normalized : GivenToken.accept " ../admin " = .ok "../admin" := by decide +kernel
  obtain ⟨base', request, readBase', made, iff⟩ :=
    token_in_path_iff accepted rfl rfl asked (by decide) normalized
  obtain rfl := Except.ok.inj (readBase'.symm.trans readBase)
  have sent : request.url = "https://example.com/tokeninfo/..%2Fadmin" := by
    have text : ({ endpoint := url } : Endpoint).request "../admin" false = .ok {
        method := .get, url := "https://example.com/tokeninfo/..%2Fadmin", endpoint := url } := by
      decide +kernel
    obtain rfl := Except.ok.inj (made.symm.trans text)
    rfl
  refine (iff u (sent ▸ readSent)).2 ⟨⟨?_, by decide, by decide, by decide⟩, by decide, by decide⟩
  have absolute : Absolute url "https".toList "example.com/tokeninfo".toList :=
    ⟨isScheme_https, by decide⟩
  exact absolute.not_bareScheme

/-- Two dots climb out of the path of the endpoint. -/
theorem not_every_token_in_path :
    ¬ ∀ (fields : Json.Members) (e : Endpoint) (fallback : Bool) (given : GivenToken) (url token : String),
      ofFields fields = .ok e → e.method = .get → e.queryParameter.filter (!·.isEmpty) = none →
        e.asked fallback = some url → url ≠ "" → given.accept = .ok token →
          ∃ base request, Url.read url.toList = .ok base ∧ e.request token fallback = .ok request ∧
            ∀ u, Url.read request.url.toList = .ok u → Appends base u.rooted token.toList := by
  intro always
  let url := "https://example.com/oauth2/tokeninfo"
  have accepted : ofFields [("endpoint", .str url)] = .ok { endpoint := url } := by decide +kernel
  have asked : ({ endpoint := url } : Endpoint).asked false = some url := rfl
  have normalized : GivenToken.accept ".." = .ok ".." := by decide +kernel
  obtain ⟨base, request, readBase, made, appends⟩ :=
    always _ _ false _ url _ accepted rfl rfl asked (by decide) normalized
  obtain ⟨base', request', readBase', made', iff⟩ :=
    request_appends_iff accepted rfl rfl asked (by decide) (GivenToken.accept_ne_empty normalized)
  obtain rfl := Except.ok.inj (readBase'.symm.trans readBase)
  obtain rfl := Except.ok.inj (made'.symm.trans made)
  have text : ({ endpoint := url } : Endpoint).request ".." false = .ok {
      method := .get, url := "https://example.com/oauth2/tokeninfo/..", endpoint := url } := by
    decide +kernel
  obtain rfl := Except.ok.inj (made.symm.trans text)
  have readSent : Url.read "https://example.com/oauth2/tokeninfo/..".toList = .ok {
      scheme := "https".toList, host := "example.com".toList, path := "/oauth2".toList } := by
    decide +kernel
  exact ((iff _ readSent).1 (appends _ readSent)).2.2 rfl

end Bearer.Endpoint
