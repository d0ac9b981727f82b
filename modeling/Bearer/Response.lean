import Bearer.TokenInfo.Parser

/-!
# Answers of an introspection service

Status 200 alone brings token information. Any other status is a failure, sorted by its class; its
report shows the front of the body, since services explain themselves there.
-/

namespace Bearer

/-- Status and body of an HTTP answer, the body being complete. -/
structure Response where
  status : Int
  body : List UInt8
  deriving DecidableEq, Repr, Inhabited

namespace Response

def shownLength : Nat := 500

def cut (text : List Char) : String :=
  if shownLength < text.length then String.ofList (text.take shownLength) ++ "..."
  else String.ofList text

def bodyText (r : Response) : String := cut (Utf8.decodeLossy r.body)

/-- What a status other than 200 stands for. -/
def refusal (r : Response) : Failure :=
  if r.status = 401 then .raised .notAuthenticated ("The server refused the token: " ++ r.bodyText)
  else if 400 ≤ r.status ∧ r.status < 500 then .ofStatus .client r.status r.bodyText
  else if 500 ≤ r.status ∧ r.status < 600 then .ofStatus .server r.status r.bodyText
  else .ofStatus .unexpected r.status r.bodyText

/-- A body that is no token information makes the whole answer invalid; any other failure of a
parser is its own. -/
def ofParser (f : Failure) : Failure :=
  if f.kind = .tokenInfoParse then
    { kind := .responseContent, message := f.message, cause := some f.kind }
  else f

/-- The token information in an answer, `now` being the time of day. -/
def tokenInfo (parser : Parser) (now : Double) (r : Response) : Except Failure TokenInfo :=
  if r.status = 200 then (parser now r.body).mapError ofParser else .error r.refusal

end Response

end Bearer
