import Bearer.Proofs.Endpoint.Validity
import Bearer.Proofs.GivenToken
import Bearer.Proofs.Network
import Bearer.Proofs.Settings

/-!
HTTPS only. Settings are refused if an endpoint starts with "http://" in any letter case. That test reads
the text as it was given, whereas a request leads where the URL leads that is made of it; but the scheme
and the slashes in front of both are the same, and so every request of every client that is built from
accepted settings is made over HTTPS (`https_only`).
-/

namespace Bearer

open Url (IsScheme)

/-! ### Schemes -/

structure Starts (scheme cs : List Char) : Prop where
  valid : IsScheme scheme
  whole : ∃ more, cs = scheme ++ [':', '/', '/'] ++ more

theorem Starts.append {scheme cs : List Char} (h : Starts scheme cs) (tail : List Char) :
    Starts scheme (cs ++ tail) := by
  obtain ⟨more, rfl⟩ := h.whole
  exact ⟨h.valid, more ++ tail, by rw [List.append_assoc]⟩

theorem Starts.scheme_of_read {scheme cs : List Char} (h : Starts scheme cs) {u : Url}
    (read : Url.read cs = .ok u) : u.scheme = scheme.map Char.toLower := by
  obtain ⟨more, rfl⟩ := h.whole
  exact Url.scheme_of_read_absolute h.valid read

/-- The test for plain HTTP sees through the letter case of the scheme. -/
theorem isPlainHttp_of_starts {url : String} {scheme : List Char} (starts : Starts scheme url.toList)
    (http : String.ofList (scheme.map Char.toLower) = "http") : Settings.isPlainHttp url = true := by
  obtain ⟨more, whole⟩ := starts.whole
  refine Settings.isPlainHttp_of_names ⟨scheme ++ [':', '/', '/'], more, whole, ?_⟩
  rw [List.map_append, ← String.toList_ofList (l := scheme.map Char.toLower), http]
  decide

theorem starts_of_checkUrl {url : String} (h : checkUrl url = .ok ()) :
    ∃ scheme, Starts scheme url.toList := by
  obtain ⟨u, read, scheme, host⟩ := of_checkUrl h
  obtain ⟨more, valid, whole⟩ :=
    Url.of_ofChars (Url.scheme_of_read read scheme) (Url.authority_of_host read host)
  exact ⟨_, valid, more, whole⟩

/-- What is joined to an endpoint leaves the scheme as it is. -/
theorem starts_of_urlPrefix {url front : String} {parameter : Option String}
    (h : urlPrefix url parameter = .ok front) :
    ∃ scheme, Starts scheme url.toList ∧ Starts scheme front.toList := by
  obtain ⟨rfl, -⟩ := checkUrl_of_urlPrefix h
  obtain ⟨scheme, rest, absolute⟩ | ⟨unnamed, scheme, valid, whole⟩ := of_urlPrefix h
  · obtain ⟨tail, -, whole⟩ := absolute.toList_eq
    exact ⟨scheme, ⟨absolute.valid, _, whole⟩, absolute.valid, _, absolute.toList_joinUrl parameter⟩
  · refine ⟨scheme, ⟨valid, [], by rw [whole, List.append_nil]⟩, valid, [], ?_⟩
    rw [toList_joinUrl_of_bare whole unnamed, List.append_nil]

theorem http_of_starts {text : String} {scheme : List Char} (starts : Starts scheme text.toList)
    (checked : checkUrl text = .ok ()) : String.ofList (scheme.map Char.toLower) = "http" ∨
      String.ofList (scheme.map Char.toLower) = "https" := by
  obtain ⟨u, -, read, http, -⟩ := Endpoint.checkUrl_eq_ok_iff.1 checked
  rw [starts.scheme_of_read read] at http
  exact http

/-! ### Requests -/

namespace Endpoint

variable {fields : Json.Members} {e : Endpoint} {fallback : Bool} {url token : String} {u : Url}
  {r : Request}

theorem quoteToken_ne_nil (given : token ≠ "") : (quoteToken token).toList ≠ [] := by
  rw [quoteToken, String.toList_ofList]
  exact Percent.encode_ne_nil (mt String.toList_eq_nil_iff.1 given)

/-- With GET a request leads to some host, which behind a bare scheme is the token. -/
theorem isAbsolute_of_get {front : String} {parameter : Option String}
    (found : urlPrefix url parameter = .ok front) (given : token ≠ "")
    (read : Url.read (front.toList ++ (quoteToken token).toList) = .ok u) : u.isAbsolute = true := by
  obtain ⟨scheme, rest, absolute⟩ | ⟨unnamed, scheme, valid, whole⟩ := of_urlPrefix found
  · -- whatever follows the joint, scheme and host are those of the endpoint
    obtain ⟨base, -, isAbsolute, same⟩ := absolute.read_endpoint found
    have parts := of_origin (same _ u read)
    rw [Url.isAbsolute, parts.1, parts.2.1]
    exact isAbsolute
  · obtain ⟨rfl, -⟩ := checkUrl_of_urlPrefix found
    rw [toList_joinUrl_of_bare whole unnamed] at read
    have host := Url.host_of_plain (fun c => mem_quoteToken) valid (quoteToken_ne_nil given) read
    have named := Url.scheme_of_read_absolute valid read
    simp [Url.isAbsolute, named, host, valid.nonempty]

/-- Every request of an endpoint leads to some host, over the scheme that the endpoint names. -/
theorem scheme_of_request (accepted : ofFields fields = .ok e) (asked : e.asked fallback = some url)
    (nonempty : url ≠ "") (given : token ≠ "") (made : e.request token fallback = .ok r)
    (read : Url.read r.url.toList = .ok u) : u.isAbsolute = true ∧
      ∃ scheme, Starts scheme url.toList ∧ u.scheme = scheme.map Char.toLower ∧
        (String.ofList u.scheme = "http" ∨ String.ofList u.scheme = "https") := by
  cases method : e.method with
  | post =>
    obtain ⟨request, made', rfl⟩ := request_of_post method asked token
    obtain rfl := Except.ok.inj (made.symm.trans made')
    have checked := checkUrl_of_post accepted method asked nonempty
    obtain ⟨v, readUrl, named, host⟩ := of_checkUrl checked
    obtain rfl := Except.ok.inj (read.symm.trans readUrl)
    obtain ⟨scheme, starts⟩ := starts_of_checkUrl checked
    have written := starts.scheme_of_read read
    refine ⟨by simp [Url.isAbsolute, named, host], scheme, starts, written, ?_⟩
    rw [written]
    exact http_of_starts starts checked
  | get =>
    obtain ⟨front, found⟩ := urlPrefix_of_get accepted method asked nonempty
    obtain rfl := Except.ok.inj (made.symm.trans (request_of_get method asked found token))
    dsimp only at read
    rw [String.toList_append] at read
    obtain ⟨scheme, starts, startsFront⟩ := starts_of_urlPrefix found
    have written := (startsFront.append (quoteToken token).toList).scheme_of_read read
    -- the check saw the sample token in the place of this one, but behind the same scheme
    obtain ⟨-, checked⟩ := checkUrl_of_urlPrefix found
    refine ⟨isAbsolute_of_get found given read, scheme, starts, written, ?_⟩
    rw [written]
    refine http_of_starts ?_ checked
    rw [String.toList_append]
    exact startsFront.append _

theorem https_of_request (accepted : ofFields fields = .ok e) (asked : e.asked fallback = some url)
    (nonempty : url ≠ "") (secure : Settings.isPlainHttp url = false) (given : token ≠ "")
    (made : e.request token fallback = .ok r) (read : Url.read r.url.toList = .ok u) :
    u.rooted.scheme = "https".toList := by
  obtain ⟨absolute, scheme, starts, written, http | https⟩ :=
    scheme_of_request accepted asked nonempty given made read
  · rw [written] at http
    rw [isPlainHttp_of_starts starts http] at secure
    cases secure
  · rw [Url.rooted, if_pos absolute, ← https, String.toList_ofList]

end Endpoint

/-! ### Clients -/

def Built.sessionWith (built : Built) (parser : Parser) (listening : Bool) : Session :=
  { built.session with client := { built.session.client with parser, listening } }

/-- What settings name can be asked and is no plain HTTP, unless that was allowed. -/
theorem Settings.secure_of_read {env : Environment} {keywords : Json.Members} {settings : Settings}
    (accepted : read env keywords = .ok settings) (strict : settings.unsafeLocalDev = false) {url : String}
    (named : url = settings.endpoint ∨ settings.fallback = some url) :
    url ≠ "" ∧ isPlainHttp url = false := by
  obtain ⟨fields, sound⟩ := read_eq_ok_iff.1 accepted
  rcases named with rfl | fallback
  · exact ⟨fields.isEndpoint.nonempty, sound.secure strict⟩
  · exact ⟨(fields.isEndpoint_fallback url fallback).nonempty, sound.secureFallback strict url fallback⟩

/-- Unless plain HTTP was allowed for local testing, every request of a client that was built from
settings is made over HTTPS: in whatever mode, with any parser, whatever it is asked and however the
servers answer. -/
theorem https_only {env : Environment} {keywords : Json.Members} {settings : Settings}
    (accepted : Settings.read env keywords = .ok settings) (strict : settings.unsafeLocalDev = false)
    (provider : Option Provider) (mode : Mode) (buildEnv : Environment) (machine : Machine) (lent : Bool)
    {built : Built} (made : (Builder.ofSettings settings provider).build mode buildEnv machine lent = .ok built)
    (parser : Parser) (listening : Bool) (calls : List Call) (n : Network) :
    ∀ sent ∈ requests ((built.sessionWith parser listening).runAll calls n).events,
      sent.url.scheme = "https".toList := by
  obtain ⟨⟨fields, checked⟩, names⟩ := Builder.endpoint_of_build made
  apply Session.sends_runAll
  intro token text fallback r url normalized requested read
  obtain ⟨asked, found⟩ := Endpoint.exists_asked requested
  obtain ⟨nonempty, secure⟩ := Settings.secure_of_read accepted strict (names fallback asked found)
  have given := GivenToken.accept_ne_empty normalized
  exact Endpoint.https_of_request checked found nonempty secure given requested read

/-- Settings with a scheme in capital letters, out of the environment, and a fallback. -/
theorem https_only_of_environment :
    let env : Environment := [("COREASON_INTROSPECTION_ENDPOINT", " HTTPS://id.example/introspect ")]
    let keywords : Json.Members := [("fallback_endpoint", .str "https://backup.example/introspect")]
    let settings : Settings := {
      endpoint := "HTTPS://id.example/introspect"
      fallback := some "https://backup.example/introspect" }
    ∃ built, Settings.read env keywords = .ok settings ∧
      (Builder.ofSettings settings (some .planB)).build .background env = .ok built ∧
      ∀ calls n, ∀ sent ∈ requests
          ((built.sessionWith (Provider.planB.fields.toParser 1000) true).runAll calls n).events,
        sent.url.scheme = "https".toList := by
  intro env keywords settings
  have accepted : Settings.read env keywords = .ok settings := by decide +kernel
  have made : ∃ built, (Builder.ofSettings settings (some .planB)).build .background env = .ok built := by
    have resolved : (Builder.ofSettings settings (some .planB)).resolve =
        .ok ({ endpoint := settings.endpoint, fallback := settings.fallback }, .planB) := by
      decide +kernel
    have connected : Builder.connect true {} env = .ok () := by decide +kernel
    have owned : Builder.ownsConnection .background false = true := rfl
    exact ⟨_, by rw [Builder.build_of_resolve resolved, owned, connected]; rfl⟩
  obtain ⟨built, made⟩ := made
  exact ⟨built, accepted, made, fun calls n =>
    https_only accepted rfl (some .planB) .background env {} false made _ true calls n⟩

end Bearer
