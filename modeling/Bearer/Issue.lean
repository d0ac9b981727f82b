/-!
# Issues

Values that something is built from are all checked before it is refused. An issue says where the
value stands and why it was refused; each reason has a short code and a message.
-/

namespace Bearer

inductive Place where
  | field (name : String)
  | index (n : Nat)
  deriving DecidableEq, Repr, Inhabited

inductive Refusal where
  | missing
  | extra
  | frozen
  | notText
  | notUnicode
  | notTuple
  | notBool
  | unclearBool
  | notInteger
  | unclearInteger
  | fractionalInteger
  | longInteger
  | notFinite
  | notNumber
  | unclearNumber
  | belowMinimum (least : Nat)
  | notAbove (bound : Nat)
  | notAMethod
  | rule (message : String)
  deriving DecidableEq, Repr, Inhabited

namespace Refusal

def code : Refusal → String
  | missing => "missing"
  | extra => "extra_forbidden"
  | frozen => "frozen_instance"
  | notText => "string_type"
  | notUnicode => "string_unicode"
  | notTuple => "tuple_type"
  | notBool => "bool_type"
  | unclearBool => "bool_parsing"
  | notInteger => "int_type"
  | unclearInteger => "int_parsing"
  | fractionalInteger => "int_from_float"
  | longInteger => "int_parsing_size"
  | notFinite => "finite_number"
  | notNumber => "float_type"
  | unclearNumber => "float_parsing"
  | belowMinimum _ => "greater_than_equal"
  | notAbove _ => "greater_than"
  | notAMethod => "literal_error"
  | rule _ => "value_error"

def message : Refusal → String
  | missing => "Field required"
  | extra => "Extra inputs are not permitted"
  | frozen => "Instance is frozen"
  | notText => "Input should be a valid string"
  | notUnicode => "Input should be a valid string, unable to parse raw data as a unicode string"
  | notTuple => "Input should be a valid tuple"
  | notBool => "Input should be a valid boolean"
  | unclearBool => "Input should be a valid boolean, unable to interpret input"
  | notInteger => "Input should be a valid integer"
  | unclearInteger => "Input should be a valid integer, unable to parse string as an integer"
  | fractionalInteger => "Input should be a valid integer, got a number with a fractional part"
  | longInteger => "Unable to parse input string as an integer, exceeded maximum size"
  | notFinite => "Input should be a finite number"
  | notNumber => "Input should be a valid number"
  | unclearNumber => "Input should be a valid number, unable to parse string as a number"
  | belowMinimum least => "Input should be greater than or equal to " ++ toString least
  | notAbove bound => "Input should be greater than " ++ toString bound
  | notAMethod => "Input should be 'GET' or 'POST'"
  | rule message => "Value error, " ++ message

end Refusal

structure Issue where
  place : List Place
  why : Refusal
  deriving DecidableEq, Repr, Inhabited

/-- A value, or everything that is wrong with what it was to be built from. -/
abbrev Checked (α : Type) := Except (List Issue) α

namespace Checked

/-- Both values, or the issues of both. -/
def both (a : Checked α) (b : Checked β) : Checked (α × β) :=
  match a, b with
  | .ok x, .ok y => .ok (x, y)
  | .ok _, .error es => .error es
  | .error es, .ok _ => .error es
  | .error es, .error fs => .error (es ++ fs)

/-- The value, unless there are further issues. -/
def withIssues (issues : List Issue) (a : Checked α) : Checked α :=
  match a, issues with
  | .ok x, [] => .ok x
  | .ok _, es => .error es
  | .error es, fs => .error (es ++ fs)

/-- The values of a list, or the issues of all of them. -/
def all : List (Checked α) → Checked (List α)
  | [] => .ok []
  | a :: as => (a.both (all as)).map fun (x, xs) => x :: xs

end Checked

end Bearer
