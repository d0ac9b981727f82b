import Bearer.Proofs.Endpoint.Destination
import Bearer.Proofs.Url.Form

/-!
Tokens in a query. `Carries` says what a URL must be like to bring the token to the receiver: the pairs
of the endpoint, then the parameter with the token, and the rest as in the endpoint. The prefix is
joined as text, so this holds exactly for what `Transparent` describes (`faithful_iff`): no fragment
that swallows the token, no query that loses a slash at its end, no parameter that is read as something
else.
-/

namespace Bearer.Endpoint

open Url (endsAuthority safeInPath safeInQuery)
open Percent (HasEscape)

/-- Does a URL bring a token to its receiver as the value of a parameter, and all else as the URL of the
endpoint does? One slash behind the path does not count. -/
structure Carries (base u : Url) (parameter token : List Char) : Prop where
  pairs : Form.read (u.query.getD []) = Form.read (base.query.getD []) ++ [(parameter, token)]
  path : base.path = u.path ∨ base.path = u.path ++ ['/']
  fragment : u.fragment = base.fragment

structure Plain (parameter : List Char) : Prop where
  noHash : '#' ∉ parameter
  noAmpersand : '&' ∉ parameter
  noEquals : '=' ∉ parameter
  noPlus : '+' ∉ parameter
  noEscape : ¬ HasEscape parameter

/-- An endpoint and a parameter that the joined text can be cut into again. -/
structure Transparent (url parameter : List Char) : Prop where
  noFragment : '#' ∉ url
  noSlash : '?' ∈ url → url.getLast? ≠ some '/'
  plain : Plain parameter

/-! ### The pair of the token -/

def quoted (token : List Char) : List Char := Percent.encode (fun _ => false) token

theorem not_mem_quoted {c : Char} (marked : Percent.isUnreserved c = false) (notPercent : c ≠ '%')
    (token : List Char) : c ∉ quoted token := Percent.not_mem_encode_all marked notPercent token

/-- The part of a query that the parameter and the token write, up to a fragment. -/
def written (parameter token : List Char) : List Char :=
  (parameter ++ '=' :: quoted token).takeWhile (· != '#')

theorem written_of_not_mem {parameter : List Char} (noHash : '#' ∉ parameter) (token : List Char) :
    written parameter token = parameter ++ '=' :: quoted token := by
  have noHash' := not_mem_quoted (c := '#') (by decide) (by decide) token
  exact Text.takeWhile_ne_of_not_mem (by simp [noHash, noHash'])

variable {parameter token : List Char}

theorem not_mem_of_read_written {pairs : List (List Char × List Char)}
    (h : Form.read (written parameter token) = pairs ++ [(parameter, token)]) : '#' ∉ parameter := by
  intro marked
  obtain ⟨front, back, cut, whole⟩ := List.eq_append_cons_of_mem marked
  have short : written parameter token = front := by
    rw [written, cut, List.append_assoc, List.cons_append, Text.takeWhile_append_stop _ (by rfl),
      Text.takeWhile_ne_of_not_mem whole]
  have member : (parameter, token) ∈ Form.read front := by
    rw [← short, h]
    simp
  exact Form.name_ne_of_cut rfl (.inl (Form.countAscii_le_of_mem_read member)) cut

/-- The parameter and the token are read back together exactly if nothing in the parameter is read as
something else. -/
theorem read_written_iff {pairs : List (List Char × List Char)} :
    Form.read (written parameter token) = pairs ++ [(parameter, token)] ↔
      pairs = [] ∧ Plain parameter := by
  have unmarked := not_mem_quoted (c := '&') (by decide) (by decide) token
  constructor
  · intro h
    have noHash := not_mem_of_read_written h
    rw [written_of_not_mem noHash] at h
    obtain ⟨noAmpersand, noEquals, same⟩ := Form.of_last_pair unmarked h
    obtain ⟨noPlus, noEscape⟩ := Form.readText_eq_self_iff.1 same
    refine ⟨?_, noHash, noAmpersand, noEquals, noPlus, noEscape⟩
    rw [Form.read_piece (by simp [unmarked, noAmpersand]) (by simp)] at h
    exact (List.append_inj_left' (show [] ++ _ = _ from h) rfl).symm
  · rintro ⟨rfl, plain⟩
    have name := Form.readText_eq_self_iff.2 ⟨plain.noPlus, plain.noEscape⟩
    rw [written_of_not_mem plain.noHash,
      Form.read_piece (by simp [unmarked, plain.noAmpersand]) (by simp),
      Form.readPair_append plain.noEquals, name, quoted, Form.readText_encode_all]
    rfl

theorem read_written_alone_iff :
    Form.read (written parameter token) = [(parameter, token)] ↔ Plain parameter := by
  rw [← List.nil_append [(parameter, token)], read_written_iff]
  exact and_iff_right rfl

/-! ### Queries -/

/-- What is joined behind the pairs of an endpoint adds the token to them exactly if no slash was taken
from the last of them. -/
theorem read_behind_iff {pairs tail : List Char} (short : tail = [] ∨ tail = ['/']) :
    Form.read (pairs ++ '&' :: written parameter token) =
        Form.read (pairs ++ tail) ++ [(parameter, token)] ↔ tail = [] ∧ Plain parameter := by
  rw [Form.read_append]
  rcases short with rfl | rfl
  · rw [List.append_nil, List.append_cancel_left_eq, read_written_alone_iff]
    exact (and_iff_right rfl).symm
  · refine iff_of_false (fun h => ?_) (by simp)
    obtain none | ⟨front, last, some⟩ := List.eq_nil_or_concat (Form.read (written parameter token))
    · have le := Form.length_read_le_concat_slash pairs
      have length := congrArg List.length h
      rw [none, List.append_nil, List.length_append, List.length_singleton] at length
      omega
    · rw [some, List.concat_eq_append, ← List.append_assoc] at h
      obtain ⟨front_eq, last_eq⟩ := List.append_inj' h rfl
      obtain rfl := (List.cons.inj last_eq).1
      obtain ⟨rfl, -⟩ := read_written_iff.1 (some.trans List.concat_eq_append)
      rw [List.append_nil] at front_eq
      exact Form.read_concat_slash_ne pairs front_eq.symm

def separator (rest : List Char) : Char := if '?' ∈ rest then '&' else '?'

/-- With `rest` behind the authority of an endpoint, `tail` being the slash that was taken from its
end, the query that is sent holds the pairs of the endpoint and the token exactly if nothing cuts it
short or changes it. -/
theorem read_queryOf_iff {rest tail : List Char} (short : tail = [] ∨ tail = ['/']) :
    Form.read ((Url.queryOf (rest ++ separator rest :: (parameter ++ '=' :: quoted token))).getD []) =
        Form.read ((Url.queryOf (rest ++ tail)).getD []) ++ [(parameter, token)] ↔
      '#' ∉ rest ∧ ('?' ∈ rest → tail = []) ∧ Plain parameter := by
  by_cases hash : '#' ∈ rest
  · -- the fragment of the endpoint takes the token, and the query does not change
    rw [Url.queryOf_append_of_hash hash, Url.queryOf_append_of_hash hash]
    simp [hash]
  have noHashTail : '#' ∉ tail := by rcases short with rfl | rfl <;> simp
  by_cases query : '?' ∈ rest
  · obtain ⟨path, pairs, rfl, noMark⟩ := List.eq_append_cons_of_mem query
    have noHash := hash
    simp only [List.mem_append, List.mem_cons, not_or] at noHash
    rw [separator, if_pos query, List.append_assoc, List.cons_append, List.append_assoc,
      List.cons_append, Url.queryOf_of_mark noHash.1 noMark, Url.queryOf_of_mark noHash.1 noMark,
      Text.takeWhile_ne_append noHash.2.2, Text.takeWhile_ne_append noHash.2.2,
      Text.takeWhile_ne_of_not_mem noHashTail]
    simp only [hash, query, not_false_iff, true_and, forall_const]
    exact read_behind_iff short
  · have none : Url.queryOf (rest ++ tail) = .none := by
      refine Url.queryOf_of_not_mem (by simp [hash, noHashTail]) ?_
      rcases short with rfl | rfl <;> simp [query]
    rw [separator, if_neg query, Url.queryOf_of_mark hash query, none]
    simp only [hash, query, not_false_iff, true_and, false_implies]
    exact read_written_alone_iff

theorem read_sent (query : Option (List Char)) :
    Form.read ((query.map (Percent.encode safeInQuery)).getD []) = Form.read (query.getD []) := by
  cases query with
  | none => rfl
  | some cs => exact Form.read_encode rfl rfl rfl rfl cs

/-! ### Paths and fragments -/

theorem encode_concat_slash (path : List Char) :
    Percent.encode safeInPath (path ++ ['/']) = Percent.encode safeInPath path ++ ['/'] := by
  have slash : Percent.encodeChar safeInPath '/' = ['/'] := Percent.encodeChar_of_kept (by decide)
  simp [Percent.encode, slash]

/-- The path that is sent is the one of the endpoint, but for a slash at its end. -/
theorem pathOf_joined {rest tail : List Char} (short : tail = [] ∨ tail = ['/']) (noHash : '#' ∉ rest)
    (more : List Char) :
    Url.pathOf (rest ++ tail) = Url.pathOf (rest ++ separator rest :: more) ∨
      Url.pathOf (rest ++ tail) = Url.pathOf (rest ++ separator rest :: more) ++ ['/'] := by
  by_cases query : '?' ∈ rest
  · rw [Url.pathOf_append (.inr query), Url.pathOf_append (.inr query)]
    exact .inl rfl
  · have sent : Url.pathOf (rest ++ separator rest :: more) = rest := by
      rw [separator, if_neg query, Url.pathOf, Text.takeWhile_ne_append noHash,
        Text.takeWhile_ne_append query]
      simp
    have own : Url.pathOf (rest ++ tail) = rest ++ tail := by
      have noHash' : '#' ∉ rest ++ tail := by rcases short with rfl | rfl <;> simp [noHash]
      have query' : '?' ∉ rest ++ tail := by rcases short with rfl | rfl <;> simp [query]
      rw [Url.pathOf, Text.takeWhile_ne_of_not_mem noHash', Text.takeWhile_ne_of_not_mem query']
    rw [sent, own]
    exact short.imp (by rintro rfl; simp) (by rintro rfl; rfl)

theorem path_sent {own sent : List Char} (h : own = sent ∨ own = sent ++ ['/']) :
    Percent.encode safeInPath (Url.removeDots own) = Percent.encode safeInPath (Url.removeDots sent) ∨
      Percent.encode safeInPath (Url.removeDots own) =
        Percent.encode safeInPath (Url.removeDots sent) ++ ['/'] := by
  rcases h with rfl | rfl
  · exact .inl rfl
  · rw [← encode_concat_slash]
    exact (Url.removeDots_concat_slash sent).imp (congrArg _) (congrArg _)

/-! ### Requests -/

variable {url front : String} {scheme rest : List Char}

/-- A fragment or a query starts behind the authority of an endpoint. -/
theorem mem_behind_iff (absolute : Absolute url scheme rest) {c : Char} (mark : c = '#' ∨ c = '?') :
    c ∈ url.toList ↔ c ∈ rest.dropWhile (!endsAuthority ·) := by
  obtain ⟨tail, ending, whole⟩ := absolute.toList_eq
  have inFront : c ∉ scheme ++ [':', '/', '/'] := by
    intro member
    rcases List.mem_append.1 member with inScheme | inMark
    · have valid := absolute.valid.chars c inScheme
      rcases mark with rfl | rfl <;> exact absurd valid (by decide)
    · rcases mark with rfl | rfl <;> exact absurd inMark (by decide)
  have inAuthority : c ∉ rest.takeWhile (!endsAuthority ·) := by
    intro member
    have ends := List.mem_takeWhile_imp member
    rcases mark with rfl | rfl <;> cases ends
  have inTail : c ∉ tail := by
    rcases ending with ⟨rfl, -⟩ | ⟨rfl, -⟩
    · simp
    · rcases mark with rfl | rfl <;> decide
  rw [whole, List.mem_append, or_iff_right inFront, List.mem_append, or_iff_left inTail,
    ← List.takeWhile_append_dropWhile (p := (!endsAuthority ·)) (l := rest), List.mem_append,
    or_iff_right inAuthority, List.takeWhile_append_dropWhile]

theorem mem_stripSlash_iff {c : Char} (other : c ≠ '/') (cs : List Char) :
    c ∈ stripSlash cs ↔ c ∈ cs := by
  have member : c ∈ stripSlash cs ++ ['/'] ↔ c ∈ stripSlash cs := by simp [other]
  obtain slash | ⟨same, -⟩ := stripSlash_cases cs
  · rw [← slash] at member
    exact member.symm
  · rw [← same]

theorem joint_eq (absolute : Absolute url scheme rest) {parameter : String} (given : parameter ≠ "") :
    joint (scheme ++ [':', '/', '/'] ++ rest) ((some parameter).filter (!·.isEmpty)) =
      separator (rest.dropWhile (!endsAuthority ·)) :: (parameter.toList ++ ['=']) := by
  have marked : '?' ∈ scheme ++ [':', '/', '/'] ++ rest ↔
      '?' ∈ rest.dropWhile (!endsAuthority ·) := by
    rw [← mem_behind_iff absolute (.inr rfl), ← absolute.bare, mem_stripSlash_iff (by decide)]
  have kept : (some parameter).filter (!·.isEmpty) = some parameter := by simp [given]
  rw [kept, joint, separator]
  simp only [List.contains_iff_mem, marked]
  rfl

theorem toList_sent (absolute : Absolute url scheme rest) {parameter : String} (given : parameter ≠ "")
    (token : List Char) : ∃ more,
      more.dropWhile (!endsAuthority ·) = rest.dropWhile (!endsAuthority ·) ++
        separator (rest.dropWhile (!endsAuthority ·)) :: (parameter.toList ++ '=' :: quoted token) ∧
      (joinUrl url (some parameter)).toList ++ quoted token = scheme ++ [':', '/', '/'] ++ more := by
  have same := takeWhile_joined absolute.valid rest ((some parameter).filter (!·.isEmpty)) (quoted token)
  rw [joint_eq absolute given, List.append_assoc] at same
  refine ⟨_, (Text.dropWhile_append_of_takeWhile same).trans (by simp), ?_⟩
  rw [absolute.toList_joinUrl, joint_eq absolute given]
  simp

/-- A URL that is sent carries the token exactly if endpoint and parameter are transparent. -/
theorem carries_iff {parameter token : String} (absolute : Absolute url scheme rest)
    (given : parameter ≠ "") {base u : Url} (readBase : Url.read url.toList = .ok base)
    (readSent : Url.read ((joinUrl url (some parameter)).toList ++ quoted token.toList) = .ok u) :
    Carries base u parameter.toList token.toList ↔ Transparent url.toList parameter.toList := by
  obtain ⟨tail, ending, whole⟩ := absolute.toList_eq
  have short : tail = [] ∨ tail = ['/'] := ending.imp And.left And.left
  obtain ⟨more, behind, sent⟩ := toList_sent absolute given token.toList
  rw [sent] at readSent
  rw [whole] at readBase
  obtain ⟨path, query, fragment⟩ := Url.of_read_absolute absolute.valid readSent
  obtain ⟨path', query', fragment'⟩ := Url.of_read_absolute absolute.valid readBase
  rw [behind] at path query fragment
  rw [Text.dropWhile_append_of_takeWhile (takeWhile_slash rest short)] at path' query' fragment'
  have inFragment := mem_behind_iff absolute (.inl rfl)
  have inQuery := mem_behind_iff absolute (.inr rfl)
  generalize rest.dropWhile (!endsAuthority ·) = rest at *
  have pairs : Form.read (u.query.getD []) =
      Form.read (base.query.getD []) ++ [(parameter.toList, token.toList)] ↔
        '#' ∉ rest ∧ ('?' ∈ rest → tail = []) ∧ Plain parameter.toList := by
    rw [query, query', read_sent, read_sent]
    exact read_queryOf_iff short
  constructor
  · intro carries
    obtain ⟨noFragment, noSlash, plain⟩ := pairs.1 carries.pairs
    refine ⟨fun hash => noFragment (inFragment.1 hash), fun mark => ?_, plain⟩
    have whole := noSlash (inQuery.1 mark)
    exact ending.elim And.right fun slash => absurd (slash.1.symm.trans whole) (by simp)
  · rintro ⟨noFragment, noSlash, plain⟩
    have noHash : '#' ∉ rest := fun hash => noFragment (inFragment.2 hash)
    refine ⟨pairs.2 ⟨noHash, fun mark => ?_, plain⟩, ?_, ?_⟩
    · exact ending.elim And.left fun slash => absurd slash.2 (noSlash (inQuery.2 mark))
    · rw [path, path']
      exact path_sent (pathOf_joined short noHash _)
    · have noHashToken := not_mem_quoted (c := '#') (by decide) (by decide) token.toList
      rw [fragment, fragment', Url.fragmentOf_of_not_mem, Url.fragmentOf_of_not_mem]
      · rcases short with rfl | rfl <;> simp [noHash]
      · rw [separator]
        split <;> simp [noHash, plain.noHash, noHashToken]

/-! ### Endpoints -/

variable {fields : Json.Members} {e : Endpoint} {fallback : Bool} {parameter : String}

def Faithful (e : Endpoint) (fallback : Bool) (url parameter : String) : Prop :=
  ∃ base, Url.read url.toList = .ok base ∧
    ∀ (given : GivenToken) token, given.accept = .ok token →
      ∃ request, e.request token fallback = .ok request ∧
        ∀ u, Url.read request.url.toList = .ok u →
          Carries base u.rooted parameter.toList token.toList

theorem toList_request (token : String) : (joinUrl url (some parameter) ++ quoteToken token).toList =
    (joinUrl url (some parameter)).toList ++ quoted token.toList := by
  rw [String.toList_append, quoteToken, String.toList_ofList]
  rfl

theorem absolute_of_urlPrefix (given : parameter ≠ "") (h : urlPrefix url (some parameter) = .ok front) :
    ∃ scheme rest, Absolute url scheme rest := by
  obtain absolute | ⟨unnamed, -⟩ := of_urlPrefix h
  · exact absolute
  · simp [given] at unnamed

section

variable (accepted : ofFields fields = .ok e) (get : e.method = .get)
  (named : e.queryParameter = some parameter) (given : parameter ≠ "")
  (asked : e.asked fallback = some url) (nonempty : url ≠ "")

include accepted get named given asked nonempty

/-- The request for the sample token can be sent, and whatever can be sent carries its token exactly if
endpoint and parameter are transparent. -/
theorem requests_carry_iff : ∃ base, Url.read url.toList = .ok base ∧
    (∃ request u, e.request sampleToken fallback = .ok request ∧
      Url.read request.url.toList = .ok u) ∧
    ∀ token, ∃ request, e.request token fallback = .ok request ∧
      ∀ u, Url.read request.url.toList = .ok u →
        (Carries base u.rooted parameter.toList token.toList ↔
          Transparent url.toList parameter.toList) := by
  obtain ⟨front, found⟩ := urlPrefix_of_get accepted get asked nonempty
  have requests := request_of_get get asked found
  rw [named] at found
  obtain ⟨scheme, rest, absolute⟩ := absolute_of_urlPrefix given found
  obtain ⟨base, readBase, isAbsolute, same⟩ := absolute.read_endpoint found
  obtain ⟨rfl, checked⟩ := checkUrl_of_urlPrefix found
  refine ⟨base, readBase, ?_, fun token => ⟨_, requests token, fun u readSent => ?_⟩⟩
  · obtain ⟨u, readSent, -, -⟩ := of_checkUrl checked
    refine ⟨_, u, requests sampleToken, ?_⟩
    rw [quoteToken_sampleToken]
    exact readSent
  · rw [toList_request] at readSent
    have origin := of_origin (same _ u readSent)
    have rooted : u.rooted = u :=
      if_pos (by rw [← isAbsolute, Url.isAbsolute, Url.isAbsolute, origin.1, origin.2.1])
    rw [rooted]
    exact carries_iff absolute given readBase readSent

theorem transparent_of_faithful (faithful : e.Faithful fallback url parameter) :
    Transparent url.toList parameter.toList := by
  obtain ⟨base, readBase, ⟨request, u, made, readSent⟩, carry⟩ :=
    requests_carry_iff accepted get named given asked nonempty
  obtain ⟨base', readBase', faithful⟩ := faithful
  obtain rfl := Except.ok.inj (readBase'.symm.trans readBase)
  obtain ⟨request', made', carries⟩ := faithful _ _ accept_sampleToken
  obtain rfl := Except.ok.inj (made'.symm.trans made)
  obtain ⟨request', made', carry⟩ := carry sampleToken
  obtain rfl := Except.ok.inj (made'.symm.trans made)
  exact (carry u readSent).1 (carries u readSent)

theorem faithful_of_transparent (transparent : Transparent url.toList parameter.toList) :
    e.Faithful fallback url parameter := by
  obtain ⟨base, readBase, -, carry⟩ := requests_carry_iff accepted get named given asked nonempty
  refine ⟨base, readBase, fun _ token _ => ?_⟩
  obtain ⟨request, made, carry⟩ := carry token
  exact ⟨request, made, fun u readSent => (carry u readSent).2 transparent⟩

end

/-- Tokens are carried as the value of their parameter exactly if endpoint and parameter are
transparent. -/
theorem faithful_iff (accepted : ofFields fields = .ok e) (get : e.method = .get)
    (named : e.queryParameter = some parameter) (given : parameter ≠ "")
    (asked : e.asked fallback = some url) (nonempty : url ≠ "") :
    e.Faithful fallback url parameter ↔ Transparent url.toList parameter.toList :=
  ⟨transparent_of_faithful accepted get named given asked nonempty,
    faithful_of_transparent accepted get named given asked nonempty⟩

theorem googleV3_faithful :
    ∃ e, googleV3 = .ok e ∧ e.Faithful false googleUrl accessTokenParameter := by
  refine ⟨_, googleV3_accepted, (faithful_iff googleV3_accepted rfl rfl (by decide) rfl (by decide)).2 ?_⟩
  refine ⟨by decide, by decide, by decide, by decide, by decide, by decide, fun escape => ?_⟩
  exact absurd escape.mem (by decide)

/-- A fragment of the endpoint takes the token, and it is never sent. -/
theorem not_every_faithful :
    ¬ ∀ (fields : Json.Members) (e : Endpoint) (fallback : Bool) (url parameter : String),
      ofFields fields = .ok e → e.method = .get → e.queryParameter = some parameter →
        parameter ≠ "" → e.asked fallback = some url → url ≠ "" →
          e.Faithful fallback url parameter := by
  intro always
  have accepted : ofFields [
      ("endpoint", .str "https://example.com/tokeninfo#section"),
      ("query_parameter", .str accessTokenParameter)] = .ok {
        endpoint := "https://example.com/tokeninfo#section"
        queryParameter := some accessTokenParameter } := by
    decide +kernel
  have faithful := always _ _ false _ _ accepted rfl rfl (by decide) rfl (by decide)
  have transparent := transparent_of_faithful accepted rfl rfl (by decide) rfl (by decide) faithful
  exact transparent.noFragment (by decide)

end Bearer.Endpoint
