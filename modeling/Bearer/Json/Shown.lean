import Bearer.Json.Basic
import Bearer.Text.Quoted

/-!
# Showing JSON values

Messages show values to people. A text stands alone as it is and among others between quotes;
whatever else there is looks the same in both places.
-/

namespace Bearer.Json

mutual

/-- A value as it stands among others. -/
def Value.shown : Value → String
  | .null => "None"
  | .bool b => if b then "True" else "False"
  | .int n => toString n
  | .double x => x.text
  | .str t => t.quoted
  | .arr vs => "[" ++ ", ".intercalate (shownItems vs) ++ "]"
  | .obj ms => "\x7b" ++ ", ".intercalate (shownMembers ms) ++ "\x7d"

def shownItems : List Value → List String
  | [] => []
  | v :: vs => v.shown :: shownItems vs

def shownMembers : List (RawText × Value) → List String
  | [] => []
  | (name, v) :: ms => (name.quoted ++ ": " ++ v.shown) :: shownMembers ms

end

/-- A value as it stands alone; half of a surrogate pair cannot be shown there. -/
def Value.alone : Value → String
  | .str t => t.repaired
  | v => v.shown

end Bearer.Json
