import Bearer.Failure
import Bearer.Field

/-!
# Token information

What an introspection service says about an access token, and the user that an active token was
issued for. The user id identifies a person, so no text of these values shows it.
-/

namespace Bearer

structure TokenInfo where
  active : Bool := true
  userId : Option RawText := none
  scope : List RawText := []
  expiresIn : Option Nat := none
  clientId : Option RawText := none
  deriving DecidableEq, Repr, Inhabited

structure User where
  userId : RawText
  scope : List RawText := []
  deriving DecidableEq, Repr, Inhabited

/-- Texts between brackets; a single one is followed by a comma. -/
def tupleText : List String → String
  | [] => "()"
  | [s] => "(" ++ s ++ ",)"
  | ss => "(" ++ ", ".intercalate ss ++ ")"

def scopeText (scope : List RawText) : String := tupleText (scope.map RawText.quoted)

def boolText (b : Bool) : String := if b then "True" else "False"

namespace TokenInfo

def fieldNames : List String := ["active", "user_id", "scope", "expires_in_seconds", "client_id"]

def ofFields (fields : Json.Members) : Checked TokenInfo :=
  let active := Field.withDefault fields "active" true Field.bool
  let userId := Field.withDefault fields "user_id" none (Field.optional Field.rawText)
  let scope := Field.texts fields "scope"
  let expiresIn := Field.withDefault fields "expires_in_seconds" none
    (Field.optional (Field.integerAtLeast 0))
  let clientId := Field.withDefault fields "client_id" none (Field.optional Field.rawText)
  (active.both (userId.both (scope.both (expiresIn.both clientId)))).map
    (fun (active, userId, scope, expiresIn, clientId) =>
      { active, userId, scope, expiresIn := expiresIn.map Int.toNat, clientId })
    |> Checked.withIssues (Field.extras fieldNames fields)

def toUser (t : TokenInfo) : Except Failure User :=
  if !t.active then .error (.raised .notAUser "Token is not active")
  else match t.userId with
    | none => .error (.raised .notAUser "User id is missing in token info")
    | some userId => .ok { userId, scope := t.scope }

/-- All fields but the user id, of which only its presence shows. -/
def text (t : TokenInfo) : String :=
  "TokenInfo(active=" ++ boolText t.active
    ++ ", user_id=" ++ (if t.userId.isSome then "'<REDACTED>'" else "None")
    ++ ", scope=" ++ scopeText t.scope
    ++ ", expires_in_seconds=" ++ (t.expiresIn.map toString).getD "None"
    ++ ", client_id=" ++ (t.clientId.map RawText.quoted).getD "None" ++ ")"

def toJson (t : TokenInfo) : Json.Value := .obj [
  ("active", .bool t.active),
  ("user_id", (t.userId.map Json.Value.str).getD .null),
  ("scope", .arr (t.scope.map Json.Value.str)),
  ("expires_in_seconds", (t.expiresIn.map fun n => Json.Value.int n).getD .null),
  ("client_id", (t.clientId.map Json.Value.str).getD .null)]

end TokenInfo

namespace User

def ofFields (fields : Json.Members) : Checked User :=
  ((Field.required fields "user_id" Field.rawText).both (Field.texts fields "scope")).map
    (fun (userId, scope) => { userId, scope })
    |> Checked.withIssues (Field.extras ["user_id", "scope"] fields)

/-- The scopes only. -/
def text (u : User) : String :=
  "User(user_id='<REDACTED>', scope=" ++ scopeText u.scope ++ ")"

def toJson (u : User) : Json.Value := .obj [
  ("user_id", .str u.userId), ("scope", .arr (u.scope.map Json.Value.str))]

end User

end Bearer
