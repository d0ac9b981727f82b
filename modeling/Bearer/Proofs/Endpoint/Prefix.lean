import Bearer.Endpoint
import Bearer.Proofs.Text.Pieces
import Bearer.Proofs.Url.Reader

/-!
What a checked endpoint looks like. The text in front of a token is the endpoint without a slash at its
end and a joint; if it was accepted, the endpoint starts with a scheme and two slashes
(`of_urlPrefix`), and unless nothing else stands there, what follows the joint never reaches the
authority (`takeWhile_joined`).
-/

namespace Bearer

open Url (IsScheme isSchemeChar endsAuthority isControl)

/-! ### Joining -/

theorem stripSlash_cases (cs : List Char) :
    cs = stripSlash cs ++ ['/'] ∨ (cs = stripSlash cs ∧ cs.getLast? ≠ some '/') := by
  unfold stripSlash
  split
  next slash =>
    obtain ⟨front, rfl⟩ := List.getLast?_eq_some_iff.1 slash
    exact .inl (by simp)
  next other => exact .inr ⟨rfl, other⟩

theorem toList_joinUrl (endpoint : String) (parameter : Option String) :
    (joinUrl endpoint parameter).toList = stripSlash endpoint.toList ++
      joint (stripSlash endpoint.toList) (parameter.filter (!·.isEmpty)) := by
  simp [joinUrl]

theorem isScheme_https : IsScheme "https".toList :=
  ⟨by simp, List.all_eq_true.1 (by decide), by decide⟩

def BareScheme (endpoint : String) : Prop :=
  ∃ scheme, IsScheme scheme ∧ endpoint.toList = scheme ++ [':', '/', '/']

theorem bareScheme_of_stripSlash {endpoint : String} {scheme : List Char} (valid : IsScheme scheme)
    (h : stripSlash endpoint.toList = scheme ++ [':', '/']) : BareScheme endpoint := by
  refine ⟨scheme, valid, ?_⟩
  obtain slash | ⟨whole, other⟩ := stripSlash_cases endpoint.toList
  · rw [slash, h, List.append_assoc]
    rfl
  · rw [whole, h] at other
    simp at other

/-- Behind a bare scheme nothing is joined. -/
theorem toList_joinUrl_of_bare {endpoint : String} {scheme : List Char}
    (whole : endpoint.toList = scheme ++ [':', '/', '/']) {parameter : Option String}
    (unnamed : parameter.filter (!·.isEmpty) = none) :
    (joinUrl endpoint parameter).toList = scheme ++ [':', '/', '/'] := by
  have stripped : stripSlash endpoint.toList = scheme ++ [':', '/'] := by simp [whole, stripSlash]
  rw [toList_joinUrl, stripped, unnamed, joint, List.append_assoc]
  rfl

theorem joint_some (bare : List Char) (p : String) :
    ∃ c, (c = '?' ∨ c = '&') ∧ joint bare (some p) = c :: (p.toList ++ ['=']) := by
  rw [joint]
  split
  · exact ⟨'&', .inr rfl, rfl⟩
  · exact ⟨'?', .inl rfl, rfl⟩

theorem joint_head (bare : List Char) (parameter : Option String) :
    ∃ c tail, joint bare parameter = c :: tail ∧ c ≠ ':' ∧ isSchemeChar c = false := by
  cases parameter with
  | none => exact ⟨'/', [], rfl, by decide, by decide⟩
  | some p =>
    obtain ⟨c, rfl | rfl, h⟩ := joint_some bare p
    · exact ⟨_, _, h, by decide, by decide⟩
    · exact ⟨_, _, h, by decide, by decide⟩

/-- A scheme and two slashes in front of a joined text are in front of the endpoint, or they are all of
it and the joint is their second slash. -/
theorem split_joined {scheme bare more : List Char} (valid : IsScheme scheme)
    {parameter : Option String} {token : List Char} (letter : token.head? ≠ some '/')
    (h : bare ++ joint bare parameter ++ token = scheme ++ [':', '/', '/'] ++ more) :
    (∃ rest, bare = scheme ++ [':', '/', '/'] ++ rest) ∨
      (parameter = none ∧ bare = scheme ++ [':', '/']) := by
  rw [List.append_assoc, List.append_assoc] at h
  obtain ⟨c, tail, start, notColon, notScheme⟩ := joint_head bare parameter
  obtain ⟨surplus, hscheme, hjoint⟩ | ⟨surplus, hbare, hjoint⟩ := List.append_eq_append_iff.1 h
  · -- the endpoint would end within the scheme, or where the scheme does
    rw [start] at hjoint
    cases surplus with
    | nil => exact absurd (List.cons.inj hjoint).1 notColon
    | cons d surplus =>
      obtain ⟨rfl, -⟩ := List.cons.inj hjoint
      have inScheme := valid.chars c (by rw [hscheme]; simp)
      rw [notScheme] at inScheme
      cases inScheme
  · rw [start] at hjoint
    have second (slash : c = '/') : parameter = none := by
      cases parameter with
      | none => rfl
      | some p =>
        obtain ⟨_, rfl | rfl, same⟩ := joint_some bare p
        all_goals exact absurd ((List.cons.inj (start.symm.trans same)).1.symm.trans slash) (by decide)
    rcases surplus with _ | ⟨a, _ | ⟨b, _ | ⟨d, rest⟩⟩⟩ <;>
      simp only [List.cons_append, List.nil_append, List.cons.injEq] at hjoint
    · exact absurd hjoint.1.symm notColon
    · obtain ⟨-, rfl, hjoint⟩ := hjoint
      obtain rfl := second rfl
      obtain ⟨-, rfl⟩ := List.cons.inj start
      rw [List.nil_append] at hjoint
      rw [← hjoint] at letter
      exact absurd rfl letter
    · obtain ⟨rfl, rfl, rfl, -⟩ := hjoint
      exact .inr ⟨second rfl, hbare⟩
    · obtain ⟨rfl, rfl, rfl, -⟩ := hjoint
      exact .inl ⟨rest, by rw [hbare, List.append_assoc]; rfl⟩

/-! ### Where the authority ends -/

/-- The joint ends the authority, unless the endpoint has ended it before. -/
theorem takeWhile_joined {scheme : List Char} (valid : IsScheme scheme) (rest : List Char)
    (parameter : Option String) (token : List Char) :
    (rest ++ joint (scheme ++ [':', '/', '/'] ++ rest) parameter ++ token).takeWhile
      (!endsAuthority ·) = rest.takeWhile (!endsAuthority ·) := by
  rw [List.append_assoc]
  cases parameter with
  | none => exact Text.takeWhile_append_stop _ rfl
  | some p =>
    rw [joint]
    split
    next query =>
      have member : '?' ∈ rest := by
        have member : '?' ∈ scheme ++ [':', '/', '/'] ++ rest := by simpa using query
        rcases List.mem_append.1 member with front | member
        · rcases List.mem_append.1 front with inScheme | inMark
          · exact absurd (valid.chars _ inScheme) (by decide)
          · exact absurd inMark (by decide)
        · exact member
      exact Text.takeWhile_append_of_mem member rfl _
    next => exact Text.takeWhile_append_stop _ rfl

/-! ### Accepted endpoints -/

theorem of_checkUrl {url : String} (h : checkUrl url = .ok ()) :
    ∃ u, Url.read url.toList = .ok u ∧ u.scheme ≠ [] ∧ u.host ≠ [] := by
  unfold checkUrl at h
  split at h
  next => cases h
  next u read =>
    split at h
    next => cases h
    next http =>
      refine ⟨u, read, ?_, ?_⟩
      · intro none
        simp [none] at http
      · intro none
        have empty : u.readableHost = .ok [] := by
          rw [Url.readableHost, none]
          rfl
        simp [empty] at h

theorem checkUrl_of_urlPrefix {endpoint front : String} {parameter : Option String}
    (h : urlPrefix endpoint parameter = .ok front) :
    front = joinUrl endpoint parameter ∧ checkUrl (front ++ sampleToken) = .ok () := by
  unfold urlPrefix at h
  dsimp only at h
  cases checked : checkUrl (joinUrl endpoint parameter ++ sampleToken) with
  | error e => rw [checked] at h; cases h
  | ok _ =>
    rw [checked] at h
    obtain rfl := Except.ok.inj h
    exact ⟨rfl, checked⟩

theorem toList_sampleToken :
    sampleToken.toList = ['t', 'e', 's', 't', '_', 't', 'o', 'k', 'e', 'n'] := by
  simp [sampleToken]

/-- An endpoint, without a slash at its end, as a scheme, two slashes and a rest. -/
structure Absolute (endpoint : String) (scheme rest : List Char) : Prop where
  valid : IsScheme scheme
  bare : stripSlash endpoint.toList = scheme ++ [':', '/', '/'] ++ rest

/-- If what is made of an endpoint leads to some host then the endpoint does, or else it is a bare scheme and
the token is the host. -/
theorem of_read_joined {endpoint : String} {parameter : Option String} {u : Url}
    (read : Url.read (joinUrl endpoint parameter ++ sampleToken).toList = .ok u) (hscheme : u.scheme ≠ [])
    (host : u.host ≠ []) : (∃ scheme rest, Absolute endpoint scheme rest) ∨
      (parameter.filter (!·.isEmpty) = none ∧ BareScheme endpoint) := by
  rw [String.toList_append, toList_joinUrl] at read
  have scheme := Url.scheme_of_read read hscheme
  have authority := Url.authority_of_host read host
  have letter : sampleToken.toList.head? ≠ some '/' := by
    rw [toList_sampleToken]
    decide
  obtain ⟨more, valid, whole⟩ := Url.of_ofChars scheme authority
  generalize (Url.Parts.ofChars _).scheme = scheme at valid whole
  obtain ⟨rest, bare⟩ | ⟨none, bare⟩ := split_joined valid letter whole
  · exact .inl ⟨_, rest, valid, bare⟩
  · exact .inr ⟨none, bareScheme_of_stripSlash valid bare⟩

/-- What the check of an endpoint tells about it: it can be read, whatever follows its joint leads to
the same place as the endpoint alone, and that is some host. -/
theorem of_urlPrefix {endpoint front : String} {parameter : Option String}
    (h : urlPrefix endpoint parameter = .ok front) :
    (∃ scheme rest, Absolute endpoint scheme rest) ∨
      (parameter.filter (!·.isEmpty) = none ∧ BareScheme endpoint) := by
  obtain ⟨rfl, checked⟩ := checkUrl_of_urlPrefix h
  obtain ⟨u, read, scheme, host⟩ := of_checkUrl checked
  exact of_read_joined read scheme host

/-- An endpoint that leads to some host has a scheme and two slashes in front. -/
theorem absolute_of_read {endpoint : String} {u : Url} (read : Url.read endpoint.toList = .ok u)
    (hscheme : u.scheme ≠ []) (host : u.host ≠ []) : ∃ scheme rest, Absolute endpoint scheme rest := by
  have authority := Url.authority_of_host read host
  obtain ⟨more, valid, whole⟩ := Url.of_ofChars (Url.scheme_of_read read hscheme) authority
  generalize (Url.Parts.ofChars _).scheme = scheme at valid whole
  rw [whole, Url.ofChars_absolute valid] at authority
  obtain slash | ⟨kept, -⟩ := stripSlash_cases endpoint.toList
  · -- the slash that is stripped stands behind the authority, which is not empty
    obtain rfl | ⟨rest, last, rfl⟩ := List.eq_nil_or_concat more
    · exact absurd rfl authority
    · rw [List.concat_eq_append, ← List.append_assoc] at whole
      exact ⟨scheme, rest, valid, List.append_inj_left' (slash.symm.trans whole) rfl⟩
  · exact ⟨scheme, more, valid, kept.symm.trans whole⟩

theorem Absolute.toList_joinUrl {endpoint : String} {scheme rest : List Char}
    (h : Absolute endpoint scheme rest) (parameter : Option String) :
    (joinUrl endpoint parameter).toList = scheme ++ [':', '/', '/'] ++ (rest ++
      joint (scheme ++ [':', '/', '/'] ++ rest) (parameter.filter (!·.isEmpty))) := by
  rw [Bearer.toList_joinUrl, h.bare, List.append_assoc]

/-- The endpoint itself is what was joined, without the joint, and perhaps with a slash. -/
theorem Absolute.toList_eq {endpoint : String} {scheme rest : List Char}
    (h : Absolute endpoint scheme rest) : ∃ tail,
      (tail = [] ∧ endpoint.toList.getLast? ≠ some '/' ∨
        tail = ['/'] ∧ endpoint.toList.getLast? = some '/') ∧
      endpoint.toList = scheme ++ [':', '/', '/'] ++ (rest ++ tail) := by
  obtain slash | ⟨whole, other⟩ := stripSlash_cases endpoint.toList
  · refine ⟨['/'], .inr ⟨rfl, by rw [slash]; simp⟩, ?_⟩
    rw [slash, h.bare, List.append_assoc]
  · refine ⟨[], .inl ⟨rfl, other⟩, ?_⟩
    rw [whole, h.bare, List.append_nil]

theorem Absolute.not_bareScheme {endpoint : String} {scheme rest : List Char}
    (h : Absolute endpoint scheme rest) : ¬ BareScheme endpoint := by
  rintro ⟨other, valid, whole⟩
  have stripped : stripSlash endpoint.toList = other ++ ':' :: ['/'] := by simp [whole, stripSlash]
  have same := congrArg Url.takeScheme (stripped.symm.trans h.bare)
  rw [List.append_assoc, Url.takeScheme_append valid] at same
  have front := Url.takeScheme_append h.valid ('/' :: '/' :: rest)
  have inner := (Prod.mk.inj (same.trans front)).2
  cases inner

theorem takeWhile_slash (rest : List Char) {tail : List Char} (h : tail = [] ∨ tail = ['/']) :
    (rest ++ tail).takeWhile (!endsAuthority ·) = rest.takeWhile (!endsAuthority ·) := by
  rcases h with rfl | rfl
  · rw [List.append_nil]
  · exact Text.takeWhile_append_stop [] rfl

/-- Whatever follows its joint, an endpoint leads where it leads alone. -/
theorem Absolute.origin_eq {endpoint : String} {scheme rest : List Char} (h : Absolute endpoint scheme rest)
    {parameter : Option String} {token : List Char} {u base : Url}
    (read : Url.read ((joinUrl endpoint parameter).toList ++ token) = .ok u)
    (readBase : Url.read endpoint.toList = .ok base) : u.origin = base.origin := by
  obtain ⟨tail, ending, whole⟩ := h.toList_eq
  have short : tail = [] ∨ tail = ['/'] := ending.imp And.left And.left
  rw [h.toList_joinUrl, List.append_assoc] at read
  rw [whole] at readBase
  refine Url.read_origin read readBase ?_ ?_
  · rw [Url.ofChars_absolute h.valid, Url.ofChars_absolute h.valid]
  · rw [Url.ofChars_absolute h.valid, Url.ofChars_absolute h.valid]
    exact (takeWhile_joined h.valid rest _ token).trans (takeWhile_slash rest short).symm

/-- An endpoint can be read if what is made of it can be. -/
theorem Absolute.exists_base {endpoint : String} {scheme rest : List Char} (h : Absolute endpoint scheme rest)
    {parameter : Option String} {u : Url}
    (read : Url.read (joinUrl endpoint parameter ++ sampleToken).toList = .ok u) :
    ∃ base, Url.read endpoint.toList = .ok base ∧ base.origin = u.origin := by
  obtain ⟨tail, ending, whole⟩ := h.toList_eq
  have short : tail = [] ∨ tail = ['/'] := ending.imp And.left And.left
  rw [String.toList_append, h.toList_joinUrl, List.append_assoc] at read
  have same := (takeWhile_joined h.valid rest (parameter.filter (!·.isEmpty)) sampleToken.toList).trans
    (takeWhile_slash rest short).symm
  have fits := (Url.read_eq_ok_iff.1 read).1
  have clean := (Url.read_eq_ok_iff.1 read).2.1
  rw [whole]
  refine Url.read_exchanged h.valid read same ?_ fun c member => ?_
  · rcases short with rfl | rfl
    · simp at fits ⊢
      omega
    · simp [sampleToken] at fits ⊢
      omega
  · rcases List.mem_append.1 member with inRest | inTail
    · exact clean c (by simp [inRest])
    · rcases short with rfl | rfl
      · cases inTail
      · obtain rfl := List.mem_singleton.1 inTail
        rfl

theorem Absolute.read_endpoint {endpoint front : String} {parameter : Option String}
    {scheme rest : List Char} (h : Absolute endpoint scheme rest)
    (accepted : urlPrefix endpoint parameter = .ok front) :
    ∃ base, Url.read endpoint.toList = .ok base ∧ base.isAbsolute = true ∧
      ∀ token u, Url.read (front.toList ++ token) = .ok u → u.origin = base.origin := by
  obtain ⟨rfl, checked⟩ := checkUrl_of_urlPrefix accepted
  obtain ⟨u, read, hscheme, hhost⟩ := of_checkUrl checked
  obtain ⟨base, readBase, origin⟩ := h.exists_base read
  refine ⟨base, readBase, ?_, fun token v readToken => h.origin_eq readToken readBase⟩
  simp only [Url.origin, Prod.mk.injEq] at origin
  simp [Url.isAbsolute, origin.1, origin.2.2.1, hscheme, hhost]

end Bearer
