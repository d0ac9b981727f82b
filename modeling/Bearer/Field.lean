import Bearer.Issue
import Bearer.Json.Basic
import Bearer.Number.Integer

/-!
# Fields read leniently

Settings come from an environment, where everything is a text, or from values of the right kind.
So a text that writes a number or a truth value is taken for it, and so is a number that stands
for another kind without loss; a text field takes nothing but a text.
-/

namespace Bearer.Field

open Json (Value Members)

/-! ### Single values -/

abbrev Read (α : Type) := Value → Except Refusal α

/-- Any text, also a broken one. -/
def rawText : Read RawText
  | .str t => .ok t
  | _ => .error .notText

def text : Read String
  | .str (.whole s) => .ok s
  | .str (.broken _) => .error .notUnicode
  | _ => .error .notText

def optional (read : Read α) : Read (Option α)
  | .null => .ok none
  | v => (read v).map some

def trueWords : List String := ["1", "t", "true", "y", "yes", "on"]

def falseWords : List String := ["0", "f", "false", "n", "no", "off"]

def boolOfInt (n : Int) : Except Refusal Bool :=
  if n = 0 then .ok false else if n = 1 then .ok true else .error .unclearBool

def bool : Read Bool
  | .bool b => .ok b
  | .str (.broken _) => .error .notUnicode
  | .str (.whole s) =>
    let w := String.ofList (s.toList.map Char.toLower)
    if trueWords.contains w then .ok true
    else if falseWords.contains w then .ok false
    else .error .unclearBool
  | .int n => boolOfInt n
  | .double x => match x.toInt? with
    | some n => boolOfInt n
    | none => .error .notBool
  | _ => .error .notBool

/-- A text without its underscores, which stand one at a time and not at an end. -/
def dropUnderscores? (cs : List Char) : Option (List Char) :=
  if cs.head? == some '_' || cs.getLast? == some '_' || !cs.contains '_' ||
      (cs.zip (cs.drop 1)).contains ('_', '_') then none
  else some (cs.filter (· != '_'))

/-- The text from the first digit on that counts: zeros in front are dropped, but for the last one,
and so are underscores between them. -/
def dropZeros? (cs : List Char) : Option (List Char) :=
  match cs with
  | '0' :: rest =>
    let zeros := rest.takeWhile fun c => c == '0' || c == '_'
    match rest.dropWhile fun c => c == '0' || c == '_' with
    | [] => some [zeros.getLastD '0']
    | '.' :: after => some (zeros.getLastD '0' :: '.' :: after)
    | c :: after => if c.isDigit then some (c :: after) else none
  | c :: _ => if c.isDigit || c == '-' then some cs else none
  | [] => none

/-- A text without a point that only zeros follow. -/
def dropZeroFraction (cs : List Char) : List Char :=
  match cs.dropWhile (· != '.') with
  | _ :: part => if part.all (· == '0') then cs.takeWhile (· != '.') else cs
  | [] => cs

/-- An integer in its plain form: a minus sign, if any, and digits that do not start with a zero,
unless there is only one. -/
def plainInteger (cs : List Char) : Except Refusal Int :=
  let (negative, body) := match cs with
    | '-' :: rest => (true, rest)
    | _ => (false, cs)
  let plain := match body with
    | ['0'] => true
    | '0' :: _ | [] => false
    | _ => body.all Char.isDigit
  if !plain then .error .unclearInteger
  else if maxDigits < body.length then .error .longInteger
  else .ok (signedInt negative (ofDigits body))

/-- An integer with what people write around it. -/
def writtenInteger (cs : List Char) : Except Refusal Int :=
  let cs := Text.trimBy Text.isWhiteSpace cs
  let cs := match cs with
    | '+' :: '-' :: _ => []
    | '+' :: rest => rest
    | _ => cs
  match dropZeros? cs with
  | none => .error .unclearInteger
  | some cs =>
    let cs := dropZeroFraction cs
    plainInteger ((dropUnderscores? cs).getD cs)

def integer : Read Int
  | .int n => .ok n
  | .bool b => .ok (if b then 1 else 0)
  | .double x =>
    if !x.isFinite then .error .notFinite
    else match x.toInt? with
      | some n => .ok n
      | none => .error .fractionalInteger
  | .str (.broken _) => .error .notUnicode
  | .str (.whole s) => writtenInteger s.toList
  | _ => .error .notInteger

/-- Digits with at most one point among them, at least one digit: the digits and how many of them
stand behind the point. -/
def mantissa? (cs : List Char) : Option (List Char × Nat) :=
  let whole := cs.takeWhile Char.isDigit
  let part := match cs.dropWhile Char.isDigit with
    | [] => some []
    | '.' :: rest => if rest.all Char.isDigit then some rest else none
    | _ => none
  match part with
  | some part => if whole.isEmpty && part.isEmpty then none else some (whole ++ part, part.length)
  | none => none

/-- An exponent behind its mark. -/
def power? (cs : List Char) : Option Int :=
  let (negative, body) := takeSign cs
  if !body.isEmpty && body.all Char.isDigit then some (signedInt negative (ofDigits body)) else none

/-- A number in decimal or scientific notation, or a word for infinity or NaN. -/
def plainNumber? (cs : List Char) : Option Double :=
  let (negative, body) := takeSign cs
  let word := String.ofList (body.map Char.toLower)
  if word = "inf" ∨ word = "infinity" then some (.infinite negative)
  else if word = "nan" then some .nan
  else
    let isMark (c : Char) : Bool := c == 'e' || c == 'E'
    let power := match body.dropWhile (!isMark ·) with
      | [] => some 0
      | _ :: rest => power? rest
    match mantissa? (body.takeWhile (!isMark ·)), power with
    | some (ds, places), some e => some (Double.ofDecimal negative (ofDigits ds) (e - places))
    | _, _ => none

/-- A number with white space around it, or with underscores in it. -/
def writtenNumber (cs : List Char) : Except Refusal Double :=
  match plainNumber? (Text.trimBy Text.isWhiteSpace cs) with
  | some x => .ok x
  | none => match (dropUnderscores? cs).bind plainNumber? with
    | some x => .ok x
    | none => .error .unclearNumber

/-- A number; an integer beyond the range of doubles is none. -/
def number : Read Double
  | .int n => if (Double.ofInt n).isFinite then .ok (Double.ofInt n) else .error .notNumber
  | .bool b => .ok (Double.ofInt (if b then 1 else 0))
  | .double x => .ok x
  | .str (.broken _) => .error .notUnicode
  | .str (.whole s) => writtenNumber s.toList
  | _ => .error .notNumber

/-! ### Bounds -/

def integerAtLeast (least : Nat) : Read Int := fun v =>
  match integer v with
  | .ok n => if (least : Int) ≤ n then .ok n else .error (.belowMinimum least)
  | .error e => .error e

def integerAbove (bound : Nat) : Read Int := fun v =>
  match integer v with
  | .ok n => if (bound : Int) < n then .ok n else .error (.notAbove bound)
  | .error e => .error e

def numberAtLeast (least : Nat) : Read Double := fun v =>
  match number v with
  | .ok x => if (Double.ofInt least).le x then .ok x else .error (.belowMinimum least)
  | .error e => .error e

def numberAbove (bound : Nat) : Read Double := fun v =>
  match number v with
  | .ok x => if (Double.ofInt bound).lt x then .ok x else .error (.notAbove bound)
  | .error e => .error e

/-! ### Fields of a record -/

def atField (name : String) (r : Except Refusal α) : Checked α :=
  r.mapError fun why => [⟨[.field name], why⟩]

def withDefault (fields : Members) (name : String) (default : α) (read : Read α) : Checked α :=
  match Json.lookup? fields name with
  | none => .ok default
  | some v => atField name (read v)

def required (fields : Members) (name : String) (read : Read α) : Checked α :=
  match Json.lookup? fields name with
  | none => .error [⟨[.field name], .missing⟩]
  | some v => atField name (read v)

def texts (fields : Members) (name : String) : Checked (List RawText) :=
  match Json.lookup? fields name with
  | none => .ok []
  | some (.arr vs) => Checked.all <| vs.zipIdx.map fun (v, i) =>
      (rawText v).mapError fun why => [⟨[.field name, .index i], why⟩]
  | some _ => .error [⟨[.field name], .notTuple⟩]

def extras (names : List String) (fields : Members) : List Issue :=
  (fields.filter fun (name, _) => !name.string?.any names.contains).map fun (name, _) =>
    ⟨[.field name.repaired], .extra⟩

end Bearer.Field
