import Bearer.Proofs.Except
import Bearer.Proofs.Text.Pieces
import Bearer.Url.Reader
import Mathlib.Data.List.TakeWhile

/-!
Where the parts of a URL come from. Scheme and authority are read off the text in front of the path
and alone decide where the URL leads (`read_origin`), so whatever is written behind them may change
without a change of scheme, host or port.
-/

namespace Bearer.Url

/-! ### Cutting -/

structure IsScheme (scheme : List Char) : Prop where
  nonempty : scheme ≠ []
  chars : ∀ c ∈ scheme, isSchemeChar c
  letter : scheme.head?.any Char.isAlpha

theorem takeScheme_append {scheme : List Char} (h : IsScheme scheme) (rest : List Char) :
    takeScheme (scheme ++ ':' :: rest) = (scheme, rest) := by
  have front : (scheme ++ ':' :: rest).takeWhile isSchemeChar = scheme := by
    rw [List.takeWhile_append_of_pos h.chars]
    simp [isSchemeChar]
  have back : (scheme ++ ':' :: rest).dropWhile isSchemeChar = ':' :: rest := by
    rw [List.dropWhile_append_of_pos h.chars]
    simp [isSchemeChar]
  simp [takeScheme, front, back, h.letter]

theorem of_takeScheme {cs scheme rest : List Char} (h : takeScheme cs = (scheme, rest))
    (given : scheme ≠ []) : IsScheme scheme ∧ cs = scheme ++ ':' :: rest := by
  unfold takeScheme at h
  dsimp only at h
  split at h
  next after hafter =>
    split at h
    next letter =>
      obtain ⟨rfl, rfl⟩ := Prod.mk.inj h
      have whole := List.takeWhile_append_dropWhile (p := isSchemeChar) (l := cs)
      rw [hafter] at whole
      refine ⟨⟨given, fun c hc => List.mem_takeWhile_imp hc, ?_⟩, whole.symm⟩
      simpa [given] using letter
    next => exact absurd (Prod.mk.inj h).1.symm given
  next => exact absurd (Prod.mk.inj h).1.symm given

theorem takeAuthority_slashes (cs : List Char) : takeAuthority ('/' :: '/' :: cs) =
    (cs.takeWhile (!endsAuthority ·), cs.dropWhile (!endsAuthority ·)) := rfl

theorem of_takeAuthority {cs authority rest : List Char} (h : takeAuthority cs = (authority, rest))
    (given : authority ≠ []) : ∃ more, cs = '/' :: '/' :: more := by
  unfold takeAuthority at h
  split at h
  next more => exact ⟨more, rfl⟩
  next => exact absurd (Prod.mk.inj h).1.symm given

/-- The parts of a text with a scheme and two slashes behind it. -/
theorem ofChars_absolute {scheme : List Char} (h : IsScheme scheme) (cs : List Char) :
    Parts.ofChars (scheme ++ [':', '/', '/'] ++ cs) =
      let rest := cs.dropWhile (!endsAuthority ·)
      let front := rest.takeWhile (· != '#')
      { scheme, authority := cs.takeWhile (!endsAuthority ·)
        path := front.takeWhile (· != '?')
        query := after? '?' (front.dropWhile (· != '?'))
        fragment := after? '#' (rest.dropWhile (· != '#')) } := by
  rw [List.append_assoc]
  simp [Parts.ofChars, takeScheme_append h, takeAuthority_slashes]

theorem of_ofChars {cs : List Char} (hscheme : (Parts.ofChars cs).scheme ≠ [])
    (hauthority : (Parts.ofChars cs).authority ≠ []) :
    ∃ more, IsScheme (Parts.ofChars cs).scheme ∧
      cs = (Parts.ofChars cs).scheme ++ [':', '/', '/'] ++ more := by
  have front : takeScheme cs = ((Parts.ofChars cs).scheme, (takeScheme cs).2) := rfl
  have back : takeAuthority (takeScheme cs).2 =
      ((Parts.ofChars cs).authority, (takeAuthority (takeScheme cs).2).2) := rfl
  obtain ⟨valid, whole⟩ := of_takeScheme front hscheme
  obtain ⟨more, slashes⟩ := of_takeAuthority back hauthority
  rw [slashes] at whole
  refine ⟨more, valid, ?_⟩
  rw [List.append_assoc]
  exact whole

/-! ### Checking -/

theorem read_eq_ok_iff {cs : List Char} {u : Url} : read cs = .ok u ↔
    cs.length ≤ maxLength ∧ (∀ c ∈ cs, isControl c = false) ∧ ofParts (Parts.ofChars cs) = .ok u := by
  unfold read
  split
  next long => simp [Nat.not_le.2 long]
  next short =>
    split
    next c found =>
      have control := List.find?_some found
      simp only [reduceCtorEq, false_iff, not_and]
      intro _ clean
      rw [clean c (List.mem_of_find?_eq_some found)] at control
      cases control
    next clean => simpa [Nat.not_lt.1 short] using fun _ => List.find?_eq_none.1 clean

theorem ofParts_eq_ok_iff {p : Parts} {u : Url} : ofParts p = .ok u ↔
    ∃ a, readAuthority p.scheme p.authority = .ok a ∧
      checkPath (!p.scheme.isEmpty) a.isGiven p.path = .ok () ∧
      u = {
        scheme := p.scheme.map Char.toLower
        userinfo := a.userinfo
        host := a.host
        port := a.port
        path := Percent.encode safeInPath
          (if !p.scheme.isEmpty || a.isGiven then removeDots p.path else p.path)
        query := p.query.map (Percent.encode safeInQuery)
        fragment := p.fragment.map (Percent.encode safeInFragment) } := by
  rw [ofParts, bind_eq_ok_iff]
  refine exists_congr fun a => and_congr_right fun _ => ?_
  rw [bind_eq_ok_iff]
  constructor
  · rintro ⟨_, checked, h⟩
    exact ⟨checked, (Except.ok.inj h).symm⟩
  · rintro ⟨checked, rfl⟩
    exact ⟨(), checked, rfl⟩

/-- Where a URL leads: the scheme, the user, the host and the port. -/
def origin (u : Url) : List Char × List Char × List Char × Option Int :=
  (u.scheme, u.userinfo, u.host, u.port)

/-- Texts with the same scheme and the same authority lead to the same place. -/
theorem read_origin {cs ds : List Char} {u v : Url} (hu : read cs = .ok u) (hv : read ds = .ok v)
    (scheme : (Parts.ofChars cs).scheme = (Parts.ofChars ds).scheme)
    (authority : (Parts.ofChars cs).authority = (Parts.ofChars ds).authority) :
    u.origin = v.origin := by
  obtain ⟨a, ha, -, rfl⟩ := ofParts_eq_ok_iff.1 (read_eq_ok_iff.1 hu).2.2
  obtain ⟨b, hb, -, rfl⟩ := ofParts_eq_ok_iff.1 (read_eq_ok_iff.1 hv).2.2
  rw [scheme, authority] at ha
  obtain rfl := Except.ok.inj (ha.symm.trans hb)
  simp [origin, scheme]

theorem authority_of_host {cs : List Char} {u : Url} (h : read cs = .ok u) (host : u.host ≠ []) :
    (Parts.ofChars cs).authority ≠ [] := by
  intro none
  obtain ⟨a, ha, -, rfl⟩ := ofParts_eq_ok_iff.1 (read_eq_ok_iff.1 h).2.2
  rw [none] at ha
  have empty (scheme : List Char) : readAuthority scheme [] = .ok ⟨[], [], .none⟩ := rfl
  obtain rfl := Except.ok.inj (ha.symm.trans (empty _))
  exact host rfl

theorem scheme_of_read {cs : List Char} {u : Url} (h : read cs = .ok u) (scheme : u.scheme ≠ []) :
    (Parts.ofChars cs).scheme ≠ [] := by
  intro none
  obtain ⟨a, -, -, rfl⟩ := ofParts_eq_ok_iff.1 (read_eq_ok_iff.1 h).2.2
  exact scheme (by simp [none])

theorem endsAuthority_iff {c : Char} : endsAuthority c = true ↔ c = '/' ∨ c = '?' ∨ c = '#' := by
  simp [endsAuthority, or_assoc]

/-- A path behind an authority is empty or starts with a slash, as the authority takes all else. -/
theorem checkPath_absolute (hasScheme hasAuthority : Bool) (given : hasScheme || hasAuthority)
    (cs : List Char) : checkPath hasScheme hasAuthority
      (((cs.dropWhile (!endsAuthority ·)).takeWhile (· != '#')).takeWhile (· != '?')) = .ok () := by
  have start := List.head?_dropWhile_not (!endsAuthority ·) cs
  cases rest : cs.dropWhile (!endsAuthority ·) with
  | nil => cases hasScheme <;> cases hasAuthority <;> simp_all [checkPath]
  | cons c rest' =>
    rw [rest] at start
    have ends : endsAuthority c = true := by simpa using start
    rcases endsAuthority_iff.1 ends with rfl | rfl | rfl
    all_goals cases hasScheme <;> cases hasAuthority <;> simp_all [checkPath]

/-- What can be read can still be read when only what follows the authority is exchanged. -/
theorem read_exchanged {scheme cs ds : List Char} (valid : IsScheme scheme) {u : Url}
    (hu : read (scheme ++ [':', '/', '/'] ++ cs) = .ok u)
    (same : cs.takeWhile (!endsAuthority ·) = ds.takeWhile (!endsAuthority ·))
    (short : (scheme ++ [':', '/', '/'] ++ ds).length ≤ maxLength)
    (clean : ∀ c ∈ ds, isControl c = false) :
    ∃ v, read (scheme ++ [':', '/', '/'] ++ ds) = .ok v ∧ v.origin = u.origin := by
  obtain ⟨-, cleanFront, parts⟩ := read_eq_ok_iff.1 hu
  obtain ⟨a, ha, -, -⟩ := ofParts_eq_ok_iff.1 parts
  rw [ofChars_absolute valid] at ha
  have given : (!scheme.isEmpty) = true := by simpa using valid.nonempty
  have hv : ∃ v, read (scheme ++ [':', '/', '/'] ++ ds) = .ok v := by
    refine ⟨_, read_eq_ok_iff.2 ⟨short, ?_, ofParts_eq_ok_iff.2 ⟨a, ?_, ?_, rfl⟩⟩⟩
    · intro c hc
      rcases List.mem_append.1 hc with hc | hc
      · exact cleanFront c (List.mem_append_left _ hc)
      · exact clean c hc
    · rw [ofChars_absolute valid, ← same]
      exact ha
    · rw [ofChars_absolute valid]
      exact checkPath_absolute _ _ (by simp [given]) ds
  obtain ⟨v, hv⟩ := hv
  refine ⟨v, hv, read_origin hv hu ?_ ?_⟩
  · rw [ofChars_absolute valid, ofChars_absolute valid]
  · rw [ofChars_absolute valid, ofChars_absolute valid]
    exact same.symm

/-- A scheme and two slashes alone can be read if they are the front of what can be read. -/
theorem read_bare {scheme more : List Char} (valid : IsScheme scheme) {u : Url}
    (h : read (scheme ++ [':', '/', '/'] ++ more) = .ok u) :
    read (scheme ++ [':', '/', '/']) = .ok { scheme := scheme.map Char.toLower } := by
  obtain ⟨short, clean, -⟩ := read_eq_ok_iff.1 h
  have parts := ofChars_absolute valid []
  rw [List.append_nil] at parts
  have authority : readAuthority scheme [] = .ok ⟨[], [], none⟩ := rfl
  refine read_eq_ok_iff.2 ⟨?_, fun c member => clean c (List.mem_append_left _ member), ?_⟩
  · rw [List.length_append] at short
    omega
  · rw [parts]
    refine ofParts_eq_ok_iff.2 ⟨_, authority, ?_, ?_⟩
    · simp [checkPath, Authority.isGiven, valid.nonempty]
    · have dots : removeDots [] = [] := rfl
      simp [valid.nonempty, dots, Percent.encode, after?]

/-! ### Paths -/

/-- A slash behind a path stays behind it when its dot segments are removed. -/
theorem removeDots_concat_slash (path : List Char) :
    removeDots (path ++ ['/']) = removeDots path ∨
      removeDots (path ++ ['/']) = removeDots path ++ ['/'] := by
  have cut : Text.pieces (· == '/') (path ++ ['/']) = Text.pieces (· == '/') path ++ [[]] :=
    Text.pieces_append (by rfl) path []
  rw [removeDots, cut, List.foldl_append, removeDots]
  generalize (Text.pieces (· == '/') path).foldl pushSegment [] = done
  have pushed : [[]].foldl pushSegment done = [] :: done := by simp [pushSegment]
  rw [pushed, List.reverse_cons]
  cases done with
  | nil => exact .inl rfl
  | cons segment done => exact .inr (Text.join_concat '/' (by simp) [])

/-- The segments that are left of a path without its dot segments, nearest first. -/
def segments (path : List Char) : List (List Char) :=
  (Text.pieces (· == '/') path).foldl pushSegment []

theorem removeDots_eq (path : List Char) : removeDots path = Text.join '/' (segments path).reverse := rfl

theorem pushSegment_rooted {done : List (List Char)} (rooted : done.getLast? = some [])
    (segment : List Char) : (pushSegment done segment).getLast? = some [] := by
  unfold pushSegment
  split
  · exact rooted
  · cases done with
    | nil => cases rooted
    | cons first more =>
      split
      · split
        · exact rooted
        next deep =>
          cases more with
          | nil =>
            have whole : first = [] := by simpa using rooted
            exact absurd (by simp [whole]) deep
          | cons second more => simpa using rooted
      · simpa using rooted

theorem foldl_pushSegment_rooted {done : List (List Char)} (rooted : done.getLast? = some [])
    (pieces : List (List Char)) : (pieces.foldl pushSegment done).getLast? = some [] := by
  induction pieces generalizing done with
  | nil => exact rooted
  | cons piece pieces ih => exact ih (pushSegment_rooted rooted piece)

/-- No double dot takes the root away. -/
theorem segments_rooted {path : List Char} (rooted : path = [] ∨ path.head? = some '/') :
    (segments path).getLast? = some [] := by
  rcases rooted with rfl | slash
  · rfl
  · obtain ⟨rest, rfl⟩ := List.head?_eq_some_iff.1 slash
    have cut : Text.pieces (· == '/') ('/' :: rest) = [] :: Text.pieces (· == '/') rest :=
      Text.pieces_cons_cut (by rfl) rest
    have root : pushSegment [] [] = [[]] := rfl
    rw [segments, cut, List.foldl_cons, root]
    exact foldl_pushSegment_rooted rfl _

theorem segments_append_slash {segment : List Char} (whole : '/' ∉ segment) (path : List Char) :
    segments (path ++ '/' :: segment) = pushSegment (segments path) segment := by
  have one : Text.pieces (· == '/') segment = [segment] := by
    apply Text.pieces_eq_singleton
    intro c member
    apply beq_eq_false_iff_ne.2
    rintro rfl
    exact whole member
  rw [segments, Text.pieces_append (by rfl), one, List.foldl_append]
  rfl

/-- A segment that is no dot segment stays as it is behind a path from the root. -/
theorem removeDots_append_segment {path segment : List Char}
    (rooted : path = [] ∨ path.head? = some '/') (whole : '/' ∉ segment) (oneDot : segment ≠ ['.'])
    (twoDots : segment ≠ ['.', '.']) :
    removeDots (path ++ '/' :: segment) = removeDots path ++ '/' :: segment := by
  have pushed : pushSegment (segments path) segment = segment :: segments path := by
    rw [pushSegment, if_neg oneDot, if_neg twoDots]
  have some : (segments path).reverse ≠ [] := by
    intro none
    have last := segments_rooted rooted
    rw [List.reverse_eq_nil_iff.1 none] at last
    cases last
  rw [removeDots_eq, segments_append_slash whole, pushed, List.reverse_cons,
    Text.join_concat '/' some, ← removeDots_eq]

theorem exists_removeDots_append {path : List Char} {kept : List (List Char)}
    (less : kept = segments path ∨ kept = (segments path).drop 1) :
    ∃ more, removeDots path = Text.join '/' kept.reverse ++ more := by
  rcases less with rfl | rfl
  · exact ⟨[], (List.append_nil _).symm⟩
  · rw [removeDots_eq]
    cases segments path with
    | nil => exact ⟨[], rfl⟩
    | cons last kept =>
      cases kept with
      | nil => exact ⟨_, rfl⟩
      | cons before kept =>
        refine ⟨'/' :: last, ?_⟩
        rw [List.reverse_cons, Text.join_concat '/' (by simp)]
        rfl

/-- A dot segment leaves nothing behind, and two dots may take from what is there. -/
theorem removeDots_append_dots (path : List Char) {segment : List Char}
    (dots : segment = ['.'] ∨ segment = ['.', '.']) :
    ∃ more, removeDots path = removeDots (path ++ '/' :: segment) ++ more := by
  have whole : '/' ∉ segment := by rcases dots with rfl | rfl <;> decide
  rw [removeDots_eq (path ++ '/' :: segment), segments_append_slash whole]
  apply exists_removeDots_append
  rcases dots with rfl | rfl
  · exact .inl rfl
  · rw [pushSegment, if_neg (by decide), if_pos rfl]
    split
    · exact .inl rfl
    · exact .inr rfl

/-! ### Behind the authority -/

def pathOf (rest : List Char) : List Char := (rest.takeWhile (· != '#')).takeWhile (· != '?')

def queryOf (rest : List Char) : Option (List Char) :=
  after? '?' ((rest.takeWhile (· != '#')).dropWhile (· != '?'))

def fragmentOf (rest : List Char) : Option (List Char) := after? '#' (rest.dropWhile (· != '#'))

theorem of_read_absolute {scheme cs : List Char} (valid : IsScheme scheme) {u : Url}
    (h : read (scheme ++ [':', '/', '/'] ++ cs) = .ok u) :
    u.path = Percent.encode safeInPath (removeDots (pathOf (cs.dropWhile (!endsAuthority ·)))) ∧
      u.query = (queryOf (cs.dropWhile (!endsAuthority ·))).map (Percent.encode safeInQuery) ∧
      u.fragment =
        (fragmentOf (cs.dropWhile (!endsAuthority ·))).map (Percent.encode safeInFragment) := by
  obtain ⟨a, -, -, rfl⟩ := ofParts_eq_ok_iff.1 (read_eq_ok_iff.1 h).2.2
  have given : (!scheme.isEmpty) = true := by simpa using valid.nonempty
  rw [ofChars_absolute valid]
  simp [given, pathOf, queryOf, fragmentOf]

theorem scheme_of_read_absolute {scheme cs : List Char} (valid : IsScheme scheme) {u : Url}
    (h : read (scheme ++ [':', '/', '/'] ++ cs) = .ok u) : u.scheme = scheme.map Char.toLower := by
  obtain ⟨a, -, -, rfl⟩ := ofParts_eq_ok_iff.1 (read_eq_ok_iff.1 h).2.2
  rw [ofChars_absolute valid]

theorem fragmentOf_of_not_mem {rest : List Char} (absent : '#' ∉ rest) : fragmentOf rest = none := by
  rw [fragmentOf, Text.dropWhile_ne_of_not_mem absent]
  rfl

/-- A path ends at a query or a fragment, whatever follows. -/
theorem pathOf_append {rest : List Char} (ended : '#' ∈ rest ∨ '?' ∈ rest) (tail : List Char) :
    pathOf (rest ++ tail) = pathOf rest := by
  rw [pathOf, pathOf]
  by_cases hash : '#' ∈ rest
  · rw [Text.takeWhile_append_of_mem hash (by rfl)]
  · rw [Text.takeWhile_ne_append hash, Text.takeWhile_ne_of_not_mem hash,
      Text.takeWhile_append_of_mem (ended.resolve_left hash) (by rfl)]

theorem pathOf_of_not_mem {path : List Char} (noHash : '#' ∉ path) (noMark : '?' ∉ path) :
    pathOf path = path := by
  rw [pathOf, Text.takeWhile_ne_of_not_mem noHash, Text.takeWhile_ne_of_not_mem noMark]

theorem queryOf_append_of_hash {rest : List Char} (hash : '#' ∈ rest) (tail : List Char) :
    queryOf (rest ++ tail) = queryOf rest := by
  rw [queryOf, Text.takeWhile_append_of_mem hash (by rfl), queryOf]

theorem queryOf_of_mark {path : List Char} (noHash : '#' ∉ path) (noMark : '?' ∉ path)
    (tail : List Char) : queryOf (path ++ '?' :: tail) = some (tail.takeWhile (· != '#')) := by
  rw [queryOf, Text.takeWhile_ne_append noHash, Text.dropWhile_ne_append noMark]
  rfl

theorem queryOf_of_not_mem {path : List Char} (noHash : '#' ∉ path) (noMark : '?' ∉ path) :
    queryOf path = none := by
  rw [queryOf, Text.takeWhile_ne_of_not_mem noHash, Text.dropWhile_ne_of_not_mem noMark]
  rfl

end Bearer.Url
