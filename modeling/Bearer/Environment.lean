import Bearer.Json.Basic
import Bearer.Text.Case

/-!
# Environment variables

Settings are looked up by name without regard to letter case: first among named values, where a
given one counts even if it is null, and then in the environment under a name with a prefix.
-/

namespace Bearer

/-- Variables with their values, in order; of two with one name the later counts. -/
abbrev Environment := List (String × String)

namespace Environment

/-- The value of a variable whose name is given in lower case. -/
def find? (env : Environment) (name : String) : Option String :=
  (env.reverse.find? fun (n, _) => Text.lower n == name).map (·.2)

/-- The value of a variable whose name is given as it is written. -/
def get? (env : Environment) (name : String) : Option String :=
  (env.reverse.find? fun (n, _) => n == name).map (·.2)

end Environment

namespace Field

open Json (Members)

/-- The name of the field that a keyword names, or the keyword. -/
def ofKeyword (names : List String) : RawText → RawText
  | .whole keyword =>
    if names.contains keyword then keyword
    else (names.find? (· == Text.lower keyword)).getD keyword
  | keyword => keyword

/-- The named values that settings are made of: keywords, and for the fields that none of them names
the variables of an environment. -/
def ofEnvironment (names : List String) (front : String) (env : Environment) (keywords : Members) :
    Members :=
  let given := keywords.map fun (keyword, v) => (ofKeyword names keyword, v)
  let rest := names.filter fun name => !given.any (·.1 == .whole name)
  given ++ rest.filterMap fun name => (env.find? (front ++ name)).map fun s => (.whole name, .str s)

end Field

end Bearer
