import Bearer.Json.Basic
import Bearer.Text.Quoted

/-!
# Writing JSON

The compact form: no white space, members in order, and in strings only what must be escaped.
-/

namespace Bearer.Json

def escapeChar (c : Char) : String :=
  if c = '"' then "\\\""
  else if c = '\\' then "\\\\"
  else if c = '\x08' then "\\b"
  else if c = '\x0c' then "\\f"
  else if c = '\n' then "\\n"
  else if c = '\r' then "\\r"
  else if c = '\t' then "\\t"
  else if c.toNat < 0x20 then "\\u" ++ Text.hex 4 c.toNat
  else c.toString

def escapePoint : CodePoint → String
  | .char c => escapeChar c
  | .half n => "\\u" ++ Text.hex 4 (CodePoint.half n).toNat

def writeString (t : RawText) : String :=
  t.points.foldl (fun out p => out ++ escapePoint p) "\"" ++ "\""

mutual

def Value.write : Value → String
  | .null => "null"
  | .bool b => if b then "true" else "false"
  | .int n => toString n
  | .double x => x.text
  | .str t => writeString t
  | .arr items => "[" ++ writeItems items ++ "]"
  | .obj members => "\x7b" ++ writeMembers members ++ "\x7d"

def writeItems : List Value → String
  | [] => ""
  | [v] => v.write
  | v :: vs => v.write ++ "," ++ writeItems vs

def writeMembers : List (RawText × Value) → String
  | [] => ""
  | [(name, v)] => writeString name ++ ":" ++ v.write
  | (name, v) :: ms => writeString name ++ ":" ++ v.write ++ "," ++ writeMembers ms

end

end Bearer.Json
