import Bearer.Json.Reader
import Bearer.Text.Utf8
import Bearer.TokenInfo

/-!
# Reading token information

Providers of token information disagree on the names of the members, so a `FieldParser` holds the
names of one provider. A field without a name is not looked up; without one for the active flag
every answer is active, as such providers answer with an error status for a token that is not.
-/

namespace Bearer

/-- The member names of one provider and how strictly they are taken. -/
structure FieldParser where
  activeField : Option RawText := none
  userIdField : Option RawText := none
  scopeField : Option RawText := none
  expiresInField : Option RawText := none
  clientIdField : Option RawText := none
  /-- The user id and the expiry, if they have a name, must be there. -/
  strict : Bool := true
  /-- The expiry is a point in time and not the number of seconds left. -/
  expiresIsTimestamp : Bool := false
  deriving DecidableEq, Repr, Inhabited

inductive ParseError where
  | notUtf8 (error : Utf8.Error)
  | notJson (error : Json.Error)
  | notAnObject
  | active (field : RawText) (found : String)
  | userId (field : RawText) (found : String)
  | scopeItem (field : RawText) (found : String)
  | scope (field : RawText) (found : String)
  | noExpiry (field : RawText)
  | expiry (field : RawText) (found : String)
  | expiryOutOfRange (field : RawText) (tooLong : Bool)
  | expiryNegative (field : RawText) (seconds : Int)
  | clientId (field : RawText) (found : String)
  deriving DecidableEq, Repr

/-- The kind of a member, as messages name it; a missing one and `null` look alike. -/
def found : Option Json.Value → String
  | none | some .null => "nothing"
  | some v => "a " ++ v.kind

namespace ParseError

def message : ParseError → String
  | notUtf8 e => "String was not UTF-8: " ++ e.text
  | notJson (.tooDeep c) => (Json.Error.tooDeep c).text
  | notJson e => "Invalid JSON: " ++ e.text
  | notAnObject =>
    "Expected an object but found something else which won't be shown since it might contain a token."
  | active field found =>
    "Expected a boolean as the 'active' field in '" ++ field.repaired ++ "' but found " ++ found
  | userId field found =>
    "Expected a string as the user id in field '" ++ field.repaired ++ "' but found " ++ found
  | scopeItem field found =>
    "Expected a string as a scope in ['" ++ field.repaired ++ "'] but found " ++ found
  | scope field found =>
    "Expected an array or string for the scope(s) in field '" ++ field.repaired ++ "' but found " ++ found
  | noExpiry field => "Field '" ++ field.repaired ++ "' for expires_in_seconds not found."
  | expiry field found => "Expected a number for field '" ++ field.repaired ++ "' but found " ++ found
  | expiryOutOfRange field _ => "Field '" ++ field.repaired ++ "' for expires_in_seconds is out of range."
  | expiryNegative field seconds =>
    "Field '" ++ field.repaired ++ "' for expires_in_seconds must be greater than 0 (is "
      ++ toString seconds ++ ")."
  | clientId field found =>
    "Expected a string as the client id in field '" ++ field.repaired ++ "' but found " ++ found

/-- A text nested too deeply exhausts the reader and is no verdict on the text. -/
def kind : ParseError → Kind
  | notJson (.tooDeep _) => .foreign "RecursionError"
  | _ => .tokenInfoParse

def cause : ParseError → Option Kind
  | notUtf8 _ => some (.foreign "UnicodeDecodeError")
  | notJson (.malformed ..) => some (.foreign "JSONDecodeError")
  | notJson (.tooManyDigits _) => some (.foreign "ValueError")
  | expiryOutOfRange _ true => some (.foreign "OverflowError")
  | _ => none

def toFailure (e : ParseError) : Failure where
  kind := e.kind
  message := e.message
  cause := e.cause

end ParseError

/-- The floor of a magnitude with the sign of a finite double. -/
def floorWithSign : (magnitude signed : Double) → Int
  | .finite _ u, .finite negative _ => signedInt negative (Double.floorUnits u)
  | _, _ => 0

/-- The whole number nearest to a finite double, halves away from zero, computed as the floor of
the double that is nearest to the magnitude plus one half. -/
def roundHalfAway (x : Double) : Int := floorWithSign (x.abs + Double.half) x

namespace FieldParser

open Json (Members lookup?)

def active (p : FieldParser) (data : Members) : Except ParseError Bool :=
  match p.activeField with
  | none => .ok true
  | some field => match lookup? data field with
    | some (.bool b) => .ok b
    | some (.str (.whole "true")) => .ok true
    | some (.str (.whole "false")) => .ok false
    | v => .error (.active field (found v))

def userId (p : FieldParser) (data : Members) : Except ParseError (Option RawText) :=
  match p.userIdField with
  | none => .ok none
  | some field => match lookup? data field with
    | some (.str t) => .ok (some t)
    | none | some .null =>
      if p.strict then .error (.userId field (found none)) else .ok none
    | v => .error (.userId field (found v))

def text? : Json.Value → Option RawText
  | .str t => some t
  | _ => none

/-- The items of an array of strings; the first that is none is reported. -/
def scopeItems (field : RawText) (vs : List Json.Value) : Except ParseError (List RawText) :=
  match vs.find? fun v => (text? v).isNone with
  | some v => .error (.scopeItem field (found (some v)))
  | none => .ok (vs.filterMap text?)

/-- The scopes: an array of strings, or one string split at white space. -/
def scope (p : FieldParser) (data : Members) : Except ParseError (List RawText) :=
  match p.scopeField with
  | none => .ok []
  | some field => match lookup? data field with
    | none => .ok []
    | some (.str t) => .ok t.words
    | some (.arr vs) => scopeItems field vs
    | v => .error (.scope field (found v))

/-- The value of an expiry as a finite double. -/
def expirySeconds (field : RawText) (v : Json.Value) : Except ParseError Double :=
  let inRange (tooLong : Bool) (x : Double) : Except ParseError Double :=
    if x.isFinite then .ok x else .error (.expiryOutOfRange field tooLong)
  match v with
  | .int n => inRange true (Double.ofInt n)
  | .double x => inRange false x
  | v => .error (.expiry field (found (some v)))

/-- Whole seconds until `now` reaches a point in time, none if it has. -/
def secondsLeft (now seconds : Double) : Nat :=
  (roundHalfAway (Double.max .zero (seconds - now))).toNat

def expiresIn (p : FieldParser) (now : Double) (data : Members) :
    Except ParseError (Option Nat) :=
  match p.expiresInField with
  | none => .ok none
  | some field => match lookup? data field with
    | none => if p.strict then .error (.noExpiry field) else .ok none
    | some v => match expirySeconds field v with
      | .error e => .error e
      | .ok seconds =>
        if p.expiresIsTimestamp then .ok (some (secondsLeft now seconds))
        else
          let n := roundHalfAway seconds
          if n < 0 then .error (.expiryNegative field n) else .ok (some n.toNat)

def clientId (p : FieldParser) (data : Members) : Except ParseError (Option RawText) :=
  match p.clientIdField with
  | none => .ok none
  | some field => match lookup? data field with
    | some (.str t) => .ok (some t)
    | none | some .null => .ok none
    | v => .error (.clientId field (found v))

/-- The token information in the members of an object. An inactive token has no further
information, whatever else the object holds. -/
def ofMembers (p : FieldParser) (now : Double) (data : Members) : Except ParseError TokenInfo := do
  if ← p.active data then
    let userId ← p.userId data
    let scope ← p.scope data
    let expiresIn ← p.expiresIn now data
    let clientId ← p.clientId data
    return { active := true, userId, scope, expiresIn, clientId }
  else return { active := false }

/-- The members of the object that a body writes, no container in it nested more than `depth` deep. -/
def members (depth : Nat) (body : List UInt8) : Except ParseError Members :=
  match Utf8.decode body with
  | .error e => .error (.notUtf8 e)
  | .ok text => match Json.read depth text with
    | .error e => .error (.notJson e)
    | .ok (.obj data) => .ok data
    | .ok _ => .error .notAnObject

/-- The token information that a body writes, `now` being the time of day. -/
def parse (p : FieldParser) (depth : Nat) (now : Double) (body : List UInt8) :
    Except ParseError TokenInfo := do
  p.ofMembers now (← members depth body)

def planB : FieldParser where
  userIdField := some "uid"
  scopeField := some "scope"
  expiresInField := some "expires_in"

def googleV3 : FieldParser where
  userIdField := some "user_id"
  scopeField := some "scope"
  expiresInField := some "expires_in"
  clientIdField := some "aud"

/-- The remaining lifetime is called `exp`. -/
def amazon : FieldParser where
  userIdField := some "user_id"
  scopeField := some "scope"
  expiresInField := some "exp"
  clientIdField := some "aud"

/-- Only the active flag is mandatory, and `exp` is a point in time. -/
def rfc7662 : FieldParser where
  activeField := some "active"
  userIdField := some "sub"
  scopeField := some "scope"
  expiresInField := some "exp"
  clientIdField := some "client_id"
  strict := false
  expiresIsTimestamp := true

end FieldParser

/-- Whose answers a parser is made for. -/
inductive Provider where
  | planB
  | googleV3
  | amazon
  | rfc7662
  | custom (fields : FieldParser)
  deriving DecidableEq, Repr

def Provider.fields : Provider → FieldParser
  | planB => .planB
  | googleV3 => .googleV3
  | amazon => .amazon
  | rfc7662 => .rfc7662
  | custom p => p

/-- Anything that turns a body into token information, given the time of day. -/
abbrev Parser := Double → List UInt8 → Except Failure TokenInfo

def FieldParser.toParser (p : FieldParser) (depth : Nat) : Parser := fun now body =>
  (p.parse depth now body).mapError ParseError.toFailure

def Parser.failing (f : Failure) : Parser := fun _ _ => .error f

end Bearer
