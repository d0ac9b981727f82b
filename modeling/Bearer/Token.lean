import Bearer.Digest.Sha256
import Bearer.Failure
import Bearer.Text.Blank
import Bearer.Text.Utf8

/-!
# Access tokens

A token is used without the white space around it. Logs and spans name it by a fingerprint, keyed
with a salt, from which it cannot be told.
-/

namespace Bearer.Token

/-- The salt of a client that is given none. -/
def defaultSalt : String := "coreason-unsafe-default-salt"

def refusal : Failure := .raised .tokenInput "Access token must be a non-empty string."

def fingerprintLength : Nat := 16

/-- The name of a token in logs and spans. -/
def fingerprint (salt token : String) : String :=
  let digest := Sha256.hexText (Sha256.keyed (Utf8.encode salt.toList) (Utf8.encode token.toList))
  String.ofList (digest.toList.take fingerprintLength)

end Bearer.Token
