import Bearer.Number.Decimal
import Bearer.Text.CodePoint

/-!
# JSON values

A number without a point and an exponent is an integer of any size, every other one a double. A
string may hold halves of surrogate pairs.
-/

namespace Bearer.Json

inductive Value where
  | null
  | bool (b : Bool)
  | int (n : Int)
  | double (x : Double)
  | str (t : RawText)
  | arr (items : List Value)
  | obj (members : List (RawText × Value))
  deriving Inhabited

/-- The members of an object, in the order of the text. -/
abbrev Members := List (RawText × Value)

/-- The value of a member; the last one counts if the name occurs twice. -/
def lookup? (members : Members) (name : RawText) : Option Value :=
  (members.reverse.find? (·.1 == name)).map (·.2)

namespace Value

def get? (v : Value) (name : RawText) : Option Value :=
  match v with
  | .obj members => lookup? members name
  | _ => none

/-- The kind of a value, as messages name it. -/
def kind : Value → String
  | .null => "NoneType"
  | .bool _ => "bool"
  | .int _ => "int"
  | .double _ => "float"
  | .str _ => "str"
  | .arr _ => "list"
  | .obj _ => "dict"

end Value

end Bearer.Json
