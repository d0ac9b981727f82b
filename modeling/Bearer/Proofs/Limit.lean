import Bearer.Coding
import Bearer.Proofs.Fault
import Bearer.Proofs.Number.Integer

/-!
Bodies within a limit. An answer gets through exactly if the length that its headers declare, if they do so
legibly, and the sum of its chunks, with the coding undone, stay within the limit and the body does not break off;
where the chunks are cut does not matter (`exchange_capped`). An answer that sends the client to a place which it
refuses is never read.
-/

namespace Bearer

namespace Answer

inductive LengthPasses (limit : Int) : Option String → Prop
  | absent : LengthPasses limit none
  | empty : LengthPasses limit (some "")
  | illegible {value : String} (noInteger : ∀ size, ¬ WritesInteger value.toList size) :
    LengthPasses limit (some value)
  | within {value : String} {size : Int} (writes : WritesInteger value.toList size) (small : size ≤ limit) :
    LengthPasses limit (some value)

/-- The declared length is beyond the limit, or so are the chunks that come before the body ends or breaks
off, up to one of them. -/
def TooLong (limit : Int) (a : Answer) : Prop :=
  (∃ value size, a.header? "content-length" = some value ∧ WritesInteger value.toList size ∧ limit < size) ∨
    ∃ front, front <+: a.delivered ∧ limit < front.flatten.length

variable {a : Answer} {limit : Int}

/-! ### Declared lengths -/

theorem not_writesInteger_empty (size : Int) : ¬ WritesInteger "".toList size := by
  have none : readInteger? "".toList = none := by decide +kernel
  rw [← readInteger?_eq_some_iff, none]
  exact Option.some_ne_none size ∘ Eq.symm

theorem declaredLength?_eq_some_iff {size : Int} : a.declaredLength? = some size ↔
    ∃ value, a.header? "content-length" = some value ∧ WritesInteger value.toList size := by
  unfold declaredLength?
  rw [Option.bind_eq_some_iff]
  refine exists_congr fun value => and_congr_right fun _ => ?_
  by_cases empty : value = ""
  · subst empty
    exact iff_of_false (by simp) (not_writesInteger_empty size)
  · rw [if_neg (by simpa using empty), readInteger?_eq_some_iff]

theorem lengthPasses_iff : LengthPasses limit (a.header? "content-length") ↔
    ∀ size, a.declaredLength? = some size → size ≤ limit := by
  simp only [declaredLength?_eq_some_iff]
  constructor
  · rintro passes size ⟨value, found, writes⟩
    rw [found] at passes
    cases passes with
    | empty => exact absurd writes (not_writesInteger_empty size)
    | illegible noInteger => exact absurd writes (noInteger size)
    | within other small =>
      rw [← readInteger?_eq_some_iff] at other writes
      obtain rfl := Option.some.inj (other.symm.trans writes)
      exact small
  · intro small
    cases found : a.header? "content-length" with
    | none => exact .absent
    | some value =>
      by_cases legible : ∃ size, WritesInteger value.toList size
      · obtain ⟨size, writes⟩ := legible
        exact .within writes (small size ⟨value, found, writes⟩)
      · exact .illegible fun size writes => legible ⟨size, writes⟩

/-! ### Chunks -/

variable (nonnegative : 0 ≤ limit)
include nonnegative

/-- The chunks exceed a limit as soon as some of the first ones do. -/
theorem exceeds_iff {chunks : List (List UInt8)} : exceeds limit 0 chunks = true ↔
    ∃ front, front <+: chunks ∧ limit < front.flatten.length := by
  rw [← Bool.not_eq_false, exceeds_eq_false_iff, Nat.zero_add, not_or, Int.not_le]
  constructor
  · exact fun beyond => ⟨chunks, List.prefix_rfl, beyond.2⟩
  · rintro ⟨front, first, beyond⟩
    have longer := first.flatten.length_le
    have beyond : limit < chunks.flatten.length := by omega
    refine ⟨?_, beyond⟩
    rintro empty
    rw [empty, List.length_nil] at beyond
    omega

theorem isOversized_iff : a.IsOversized limit ↔ a.TooLong limit := by
  unfold IsOversized TooLong
  rw [exceeds_iff nonnegative]
  refine or_congr_left ⟨?_, ?_⟩
  · rintro ⟨size, declared, beyond⟩
    obtain ⟨value, found, writes⟩ := declaredLength?_eq_some_iff.1 declared
    exact ⟨value, size, found, writes, beyond⟩
  · rintro ⟨value, size, found, writes, beyond⟩
    exact ⟨size, declaredLength?_eq_some_iff.2 ⟨value, found, writes⟩, beyond⟩

theorem fits_iff : a.Fits limit ↔
    LengthPasses limit (a.header? "content-length") ∧ ↑a.chunks.flatten.length ≤ limit := by
  unfold Fits
  rw [lengthPasses_iff]
  refine and_congr_right fun _ => or_iff_right_of_imp fun empty => ?_
  rw [empty]
  exact nonnegative

end Answer

/-! ### Exchanges -/

variable {limit : Int} {r : Request} {asked : Url} {n : Network} {a : Answer}

theorem exchange_of_gets {reply : Except Failure Answer} (got : r.Gets asked n reply) (limit : Int) : ∃ host,
    (exchange limit r n).result = (received limit r asked host (some reply)).mapError ExchangeError.toFailure := by
  obtain ⟨leads, replied⟩ := got
  obtain ⟨url, read, rfl⟩ := map_eq_ok_iff.1 leads
  have exchanged := exchanged_exchange limit r n
  rw [(exchange_of_read limit read n).2, replies_exchangeWith, replied] at exchanged
  generalize (exchange limit r n).result = result at exchanged
  cases exchanged with
  | received read' _ =>
    obtain rfl := Except.ok.inj (read.symm.trans read')
    exact ⟨_, rfl⟩

theorem exchange_of_stays (got : r.Gets asked n (.ok a)) (stays : a.redirectError? r.endpoint asked = none)
    (limit : Int) : (exchange limit r n).result =
      (a.read r.endpoint limit).mapError ExchangeError.toFailure := by
  obtain ⟨host, same⟩ := exchange_of_gets got limit
  rw [same, received_of_stays stays]

/-- The failure of a body that breaks off. -/
theorem toFailure_brokenOff {f : Failure} (http : f.kind.isTransport = true) (endpoint : String) :
    (ExchangeError.ofFailure endpoint .brokenOff f).toFailure = {
      kind := .bodyRead
      message := "Could not read response body: " ++ f.message
      cause := some f.kind } := by
  have other : f.kind ≠ .foreign "InvalidURL" := by
    intro same
    rw [same] at http
    exact absurd http (by decide)
  rw [ExchangeError.ofFailure, if_neg other, if_pos http]
  rfl

section

variable (nonnegative : 0 ≤ limit) (got : r.Gets asked n (.ok a))
  (stays : a.redirectError? r.endpoint asked = none)
include nonnegative got stays

theorem exchange_of_tooLong (long : a.TooLong limit) :
    ∃ f, (exchange limit r n).result = .error f ∧ f.kind = .oversized := by
  obtain ⟨e, refused, kind⟩ := read_of_isOversized ((Answer.isOversized_iff nonnegative).2 long) r.endpoint
  refine ⟨e.toFailure, ?_, kind⟩
  rw [exchange_of_stays got stays, refused, mapError_error]

theorem exchange_of_broken (short : ¬ a.TooLong limit) {k : Nat} {f : Failure}
    (broken : a.breakAfter = some (k, f)) (http : f.kind.isTransport = true) :
    (exchange limit r n).result = .error {
      kind := .bodyRead
      message := "Could not read response body: " ++ f.message
      cause := some f.kind } := by
  rw [← Answer.isOversized_iff nonnegative] at short
  rw [exchange_of_stays got stays, read_of_broken short broken, mapError_error, toFailure_brokenOff http]

theorem exchange_of_complete (short : ¬ a.TooLong limit) (complete : a.breakAfter = none) :
    (exchange limit r n).result = .ok ⟨a.status, a.chunks.flatten⟩ := by
  rw [← Answer.isOversized_iff nonnegative, not_isOversized_iff complete] at short
  rw [exchange_of_stays got stays, read_of_fits complete short, mapError_ok]

variable (breaks : ∀ k f, a.breakAfter = some (k, f) → f.kind.isTransport = true)
include breaks

theorem exchange_eq_ok_iff (response : Response) : (exchange limit r n).result = .ok response ↔
    Answer.LengthPasses limit (a.header? "content-length") ∧ ↑a.chunks.flatten.length ≤ limit ∧
      a.breakAfter = none ∧ response = ⟨a.status, a.chunks.flatten⟩ := by
  constructor
  · intro came
    have short : ¬ a.TooLong limit := by
      intro long
      obtain ⟨f, refused, -⟩ := exchange_of_tooLong nonnegative got stays long
      cases came.symm.trans refused
    cases complete : a.breakAfter with
    | some broken =>
      have http := breaks broken.1 broken.2 complete
      cases came.symm.trans (exchange_of_broken nonnegative got stays short complete http)
    | none =>
      have whole := exchange_of_complete nonnegative got stays short complete
      rw [← Answer.isOversized_iff nonnegative, not_isOversized_iff complete,
        Answer.fits_iff nonnegative] at short
      exact ⟨short.1, short.2, rfl, Except.ok.inj (came.symm.trans whole)⟩
  · rintro ⟨passes, small, complete, rfl⟩
    refine exchange_of_complete nonnegative got stays (fun long => ?_) complete
    have fits := (Answer.fits_iff nonnegative).2 ⟨passes, small⟩
    exact fits.not_isOversized ((Answer.isOversized_iff nonnegative).2 long)

theorem exchange_oversized_iff :
    (∃ f, (exchange limit r n).result = .error f ∧ f.kind = .oversized) ↔ a.TooLong limit := by
  refine ⟨?_, exchange_of_tooLong nonnegative got stays⟩
  rintro ⟨f, failed, oversized⟩
  by_contra short
  cases complete : a.breakAfter with
  | some broken =>
    have http := breaks broken.1 broken.2 complete
    obtain rfl := Except.error.inj
      (failed.symm.trans (exchange_of_broken nonnegative got stays short complete http))
    cases oversized
  | none => cases failed.symm.trans (exchange_of_complete nonnegative got stays short complete)

end

theorem exchange_of_lost (got : r.Gets asked n (.ok a)) {place : String} {e : Redirect.Error}
    (redirected : a.redirect? = some place) (lost : Redirect.target asked place.toList = .error e) :
    (exchange limit r n).result = .error (ExchangeError.ofRedirect r.endpoint e).toFailure := by
  obtain ⟨host, same⟩ := exchange_of_gets got limit
  rw [same, received_of_refused (redirectError?_of_target redirected lost r.endpoint), mapError_error]

theorem length_exchange_le (nonnegative : 0 ≤ limit) (got : r.Gets asked n (.ok a)) {response : Response}
    (came : (exchange limit r n).result = .ok response) : response.body.length ≤ limit := by
  obtain ⟨host, same⟩ := exchange_of_gets got limit
  obtain ⟨b, answered, read⟩ := received_ok (mapError_eq_ok_iff.1 (same.symm.trans came))
  obtain ⟨rfl, -, small⟩ := read_ok nonnegative read
  exact small

/-! ### Codings -/

theorem decodeAll_identity (chunks : List (List UInt8)) :
    Decoder.identity.decodeAll Decoder.identity.start chunks =
      (chunks.filter (!·.isEmpty), .ok Decoder.identity.start) := by
  induction chunks with
  | nil => rfl
  | cons chunk chunks ih =>
    have decoded : Decoder.identity.decode Decoder.identity.start chunk = .ok (chunk, Decoder.identity.start) := rfl
    rw [Decoder.decodeAll, decoded]
    dsimp only
    rw [ih]
    cases chunk <;> rfl

namespace Answer

variable {known : Codings} {sent : Answer}

theorem uncoded_frame (known : Codings) (sent : Answer) :
    (sent.uncoded known).status = sent.status ∧ (sent.uncoded known).headers = sent.headers := by
  unfold uncoded deliver
  dsimp only
  split
  · exact ⟨rfl, rfl⟩
  · split
    · exact ⟨rfl, rfl⟩
    · split <;> exact ⟨rfl, rfl⟩

theorem header?_uncoded (known : Codings) (sent : Answer) (name : String) :
    (sent.uncoded known).header? name = sent.header? name := by
  unfold header?
  rw [(uncoded_frame known sent).2]

theorem redirect?_uncoded (known : Codings) (sent : Answer) : (sent.uncoded known).redirect? = sent.redirect? := by
  unfold redirect?
  rw [(uncoded_frame known sent).1, header?_uncoded]

/-- A delivered answer breaks off where the server's does, or where a chunk cannot be decoded. -/
theorem breaks_uncoded (breaks : ∀ k f, sent.breakAfter = some (k, f) → f.kind.isTransport = true) {k : Nat}
    {f : Failure} (broken : (sent.uncoded known).breakAfter = some (k, f)) : f.kind.isTransport = true := by
  have undecodable (e : String) : (Failure.raised (.foreign "DecodingError") e).kind.isTransport = true :=
    (by decide : (Kind.foreign "DecodingError").isTransport = true)
  unfold uncoded deliver breakingOff at broken
  dsimp only at broken
  split at broken
  · obtain ⟨-, rfl⟩ := Prod.mk.inj (Option.some.inj broken)
    exact undecodable _
  · split at broken
    next k' f' breaking =>
      obtain ⟨-, rfl⟩ := Prod.mk.inj (Option.some.inj broken)
      exact breaks _ _ breaking
    next complete =>
      split at broken
      · obtain ⟨-, rfl⟩ := Prod.mk.inj (Option.some.inj broken)
        exact undecodable _
      · cases complete.symm.trans broken

/-- The body of an answer without a coding that is known is delivered as it is sent. -/
theorem delivered_uncoded (plain : sent.codings.filterMap known = []) :
    (sent.uncoded known).delivered.flatten = sent.delivered.flatten ∧
      (sent.uncoded known).breakAfter.map (·.2) = sent.breakAfter.map (·.2) ∧
      (sent.breakAfter = none → (sent.uncoded known).chunks.flatten = sent.chunks.flatten) := by
  have decoder : known.decoder sent.codings = .identity := by
    unfold Codings.decoder
    rw [plain]
  have filtered (chunks : List (List UInt8)) : (chunks.filter fun chunk => !chunk.isEmpty).flatten = chunks.flatten :=
    List.flatten_filter_not_isEmpty
  have ended (chunks : List (List UInt8)) : (chunks ++ [[]]).flatten = chunks.flatten := by
    rw [List.flatten_append]
    exact List.append_nil _
  have uncoded : sent.uncoded known = sent.deliver .identity := by rw [Answer.uncoded, decoder]
  rw [uncoded, deliver, decodeAll_identity]
  obtain ⟨status, headers, chunks, broken⟩ := sent
  cases broken with
  | none => exact ⟨(ended _).trans (filtered chunks), rfl, fun _ => (ended _).trans (filtered chunks)⟩
  | some broken =>
    have all (chunks : List (List UInt8)) : (chunks.take chunks.length).flatten = chunks.flatten := by
      rw [List.take_length]
    exact ⟨(all _).trans (filtered (chunks.take broken.1)), rfl, nofun⟩

theorem tooLong_congr {a b : Answer} (nonnegative : 0 ≤ limit)
    (header : a.header? "content-length" = b.header? "content-length")
    (body : a.delivered.flatten = b.delivered.flatten) : a.TooLong limit ↔ b.TooLong limit := by
  have declared : a.declaredLength? = b.declaredLength? := by unfold declaredLength?; rw [header]
  rw [← isOversized_iff nonnegative, ← isOversized_iff nonnegative, IsOversized, IsOversized, declared,
    ← Bool.not_eq_false, ← Bool.not_eq_false (exceeds limit 0 b.delivered), exceeds_eq_false_iff,
    exceeds_eq_false_iff, body]

end Answer

/-- A response is brought exactly by an answer that passes: it is within the limit as declared and as it
comes, and it does not break off. An answer beyond the limit is refused as such, also if it would break
off later, and one that breaks off within the limit, or cannot be decoded, fails by that. Only an answer that
sends the client to a place which it refuses is not read; a place that is no URL counts as a broken connection. What
comes is what is sent, if the server names no coding that the client knows. All this holds of an awaited exchange
too. -/
theorem exchange_capped {sent : Answer} {known : Codings} (nonnegative : 0 ≤ limit)
    (got : r.Gets asked n (.ok (sent.uncoded known)))
    (breaks : ∀ k f, sent.breakAfter = some (k, f) → f.kind.isTransport = true) :
    let a := sent.uncoded known
    let result := (exchange limit r n).result
    (Async.exchange limit r n).result = result ∧
    (sent.redirectError? r.endpoint asked = none →
      (∀ response, result = .ok response ↔ Answer.LengthPasses limit (sent.header? "content-length") ∧
        ↑a.chunks.flatten.length ≤ limit ∧ a.breakAfter = none ∧ response = ⟨sent.status, a.chunks.flatten⟩) ∧
      ((∃ f, result = .error f ∧ f.kind = .oversized) ↔ a.TooLong limit) ∧
      ∀ k f, a.breakAfter = some (k, f) → ¬ a.TooLong limit → result = .error {
        kind := .bodyRead
        message := "Could not read response body: " ++ f.message
        cause := some f.kind }) ∧
    (∀ place e, sent.redirect? = some place → Redirect.target asked place.toList = .error (.unread e) →
      ∃ f, result = .error f ∧ f.kind = .connection) ∧
    (∀ place e, sent.redirect? = some place → Redirect.target asked place.toList = .error (.unjoined e) →
      ∃ f, result = .error f ∧ f.kind = .url) ∧
    (∀ response, result = .ok response → response.body.length ≤ limit) ∧
    (sent.codings.filterMap known = [] →
      (sent.breakAfter = none → a.breakAfter = none ∧ a.chunks.flatten = sent.chunks.flatten) ∧
      (∀ k f, sent.breakAfter = some (k, f) → ∃ k', a.breakAfter = some (k', f)) ∧
      (a.TooLong limit ↔ sent.TooLong limit)) := by
  intro a result
  have redirect : a.redirect? = sent.redirect? := Answer.redirect?_uncoded known sent
  have refusal : a.redirectError? r.endpoint asked = sent.redirectError? r.endpoint asked := by
    unfold Answer.redirectError?
    rw [redirect]
  have breaks' (k : Nat) (f : Failure) (broken : a.breakAfter = some (k, f)) : f.kind.isTransport = true :=
    Answer.breaks_uncoded breaks broken
  refine ⟨by rw [Async.exchange_eq], fun stays => ⟨fun response => ?_, ?_, ?_⟩, fun place e redirected lost => ?_,
    fun place e redirected lost => ?_, ?_, fun plain => ?_⟩
  · rw [exchange_eq_ok_iff nonnegative got (refusal.trans stays) breaks', Answer.header?_uncoded,
      (Answer.uncoded_frame known sent).1]
  · exact exchange_oversized_iff nonnegative got (refusal.trans stays) breaks'
  · exact fun k f broken short =>
      exchange_of_broken nonnegative got (refusal.trans stays) short broken (breaks' k f broken)
  · exact ⟨_, exchange_of_lost got (redirect.trans redirected) lost, rfl⟩
  · exact ⟨_, exchange_of_lost got (redirect.trans redirected) lost, rfl⟩
  · exact fun response came => length_exchange_le nonnegative got came
  · obtain ⟨body, broken, whole⟩ := Answer.delivered_uncoded plain
    refine ⟨fun complete => ⟨?_, whole complete⟩, fun k f breaking => ?_,
      Answer.tooLong_congr nonnegative (Answer.header?_uncoded known sent _) body⟩
    · rw [complete] at broken
      exact Option.map_eq_none_iff.1 broken
    · rw [breaking] at broken
      obtain ⟨⟨k', f'⟩, found, rfl⟩ := Option.map_eq_some_iff.1 broken
      exact ⟨k', found⟩

/-! ### An answer to one request -/

def asking : Request where
  method := .post
  url := "https://a.example/i"
  endpoint := "https://a.example/i"

def answering (a : Answer) : Network where
  servers := [("a.example", ⟨⟨.zero, .ok a⟩, []⟩)]

def askedUrl : Url where
  scheme := "https".toList
  host := "a.example".toList
  path := "/i".toList

theorem gets_answering (a : Answer) : asking.Gets askedUrl (answering a) (.ok a) := by
  have leads : (Url.read asking.url.toList).map Url.rooted = .ok askedUrl := by decide +kernel
  have readable : (asking.send askedUrl).url.readableHost = .ok "a.example".toList := by decide +kernel
  have alone : (answering a).servers.lookup (String.ofList "a.example".toList) =
      some ⟨⟨.zero, .ok a⟩, []⟩ := rfl
  exact ⟨leads, replyTo_alone readable alone []⟩

def refusing : Decoder where
  State := Unit
  start := ()
  decode _ _ := .error "Error -3 while decompressing data: incorrect header check"
  flush _ := .ok []

def gzipOnly : Codings := fun name => if name = "gzip" then some refusing else none

/-- A body that fills the limit to the byte, one of its chunks being empty, and one that is not coded as its headers
say. -/
theorem exchange_capped_full :
    let a : Answer := { status := 401, headers := [("Content-Length", " +0_3")], chunks := [[1, 2], [], [3]] }
    let b : Answer := { status := 200, headers := [("Content-Encoding", "GZip")], chunks := [[0x7b, 0x7d]] }
    let n (a : Answer) := answering (a.uncoded gzipOnly)
    (0 : Int) ≤ 3 ∧ asking.Gets askedUrl (n a) (.ok (a.uncoded gzipOnly)) ∧
      (∀ k f, a.breakAfter = some (k, f) → f.kind.isTransport = true) ∧
      (exchange 3 asking (n a)).result = .ok ⟨401, [1, 2, 3]⟩ ∧
      (exchange 3 asking (n b)).result = .error {
        kind := .bodyRead
        message := "Could not read response body: Error -3 while decompressing data: incorrect header check"
        cause := some (.foreign "DecodingError") } := by
  intro a b n
  have breaks : ∀ k f, a.breakAfter = some (k, f) → f.kind.isTransport = true := by simp [a]
  have nonnegative : (0 : Int) ≤ 3 := by decide
  obtain ⟨-, within, -⟩ := exchange_capped nonnegative (gets_answering (a.uncoded gzipOnly)) breaks
  have stays : a.redirectError? asking.endpoint askedUrl = none := by decide +kernel
  obtain ⟨brought, -⟩ := within stays
  have writes : WritesInteger " +0_3".toList 3 := readInteger?_eq_some_iff.1 (by decide +kernel)
  have declared : a.header? "content-length" = some " +0_3" := by decide +kernel
  have body : (a.uncoded gzipOnly).chunks.flatten = [1, 2, 3] := by decide +kernel
  have complete : (a.uncoded gzipOnly).breakAfter = none := by decide +kernel
  refine ⟨nonnegative, gets_answering _, breaks, (brought _).2 ⟨?_, ?_, complete, by rw [body]⟩, by decide +kernel⟩
  · rw [declared]
    exact .within writes (by decide)
  · rw [body]
    decide

/-- A redirection to what is no URL fails, although its body is short and complete. -/
theorem not_every_exchange_capped :
    ¬ ∀ (limit : Int) (r : Request) (asked : Url) (n : Network) (a : Answer), 0 ≤ limit → r.Gets asked n (.ok a) →
      (∀ k f, a.breakAfter = some (k, f) → f.kind.isTransport = true) →
      ∀ response, (exchange limit r n).result = .ok response ↔
        Answer.LengthPasses limit (a.header? "content-length") ∧ ↑a.chunks.flatten.length ≤ limit ∧
          a.breakAfter = none ∧ response = ⟨a.status, a.chunks.flatten⟩ := by
  intro always
  let a : Answer := { status := 302, headers := [("Location", "https://a.example:port/")], chunks := [[0x7b, 0x7d]] }
  have breaks : ∀ k f, a.breakAfter = some (k, f) → f.kind.isTransport = true := by simp [a]
  have undeclared : a.header? "content-length" = none := by decide +kernel
  have brought := (always 2 asking askedUrl (answering a) a (by decide) (gets_answering a) breaks _).2
    ⟨undeclared ▸ .absent, by decide, rfl, rfl⟩
  have failed : (exchange 2 asking (answering a)).result.isOk = false := by decide +kernel
  rw [brought] at failed
  cases failed

end Bearer
