import Bearer.Failure

/-!
# Names of log files

A file's name may hold fields in braces, of which the time is the only one that is known. The name of a field
ends at a conversion or a format, which may hold braces itself. Doubled braces stand for one.
-/

namespace Bearer.Logging.FileName

def refusal (message : String) : Failure := .raised (.foreign "ValueError") message

/-- Where a name is being read. A field is kept backwards. -/
inductive Reading where
  | text
  | name (field : List Char)
  /-- Between brackets in the name of a field. -/
  | index (field : List Char)
  | conversion (field : List Char)
  | converted (field : List Char)
  /-- In the format of a field, in which so many braces are open. -/
  | format (field : List Char) (opened : Nat)
  deriving DecidableEq, Repr

/-- What a field stands for, if it is the time with whatever is written behind that name. -/
def fill (time : String → Except Failure String) (field : List Char) : Except Failure String :=
  let (name, rest) := field.span fun c => !(['.', '[', ':', '!'].contains c)
  if name.all Char.isDigit then .error (refusal "Format string contains positional fields")
  else if name = "time".toList then time (String.ofList rest)
  else .error (.raised (.foreign "KeyError") (String.ofList name))

def read (time : String → Except Failure String) : Reading → List Char → Except Failure String
  | .text, [] => .ok ""
  | .text, '\x7b' :: '\x7b' :: cs => (read time .text cs).map ("\x7b" ++ ·)
  | .text, '\x7d' :: '\x7d' :: cs => (read time .text cs).map ("\x7d" ++ ·)
  | .text, ['\x7b'] => .error (refusal "Single '\x7b' encountered in format string")
  | .text, '\x7d' :: _ => .error (refusal "Single '\x7d' encountered in format string")
  | .text, '\x7b' :: cs => read time (.name []) cs
  | .text, c :: cs => (read time .text cs).map (c.toString ++ ·)
  | .name _, [] => .error (refusal "expected '\x7d' before end of string")
  | .name _, '\x7b' :: _ => .error (refusal "unexpected '\x7b' in field name")
  | .name field, '\x7d' :: cs => do return (← fill time field.reverse) ++ (← read time .text cs)
  | .name field, '[' :: cs => read time (.index ('[' :: field)) cs
  | .name field, '!' :: cs => read time (.conversion ('!' :: field)) cs
  | .name field, ':' :: cs => read time (.format (':' :: field) 0) cs
  | .name field, c :: cs => read time (.name (c :: field)) cs
  | .index _, [] => .error (refusal "expected '\x7d' before end of string")
  | .index field, ']' :: cs => read time (.name (']' :: field)) cs
  | .index field, c :: cs => read time (.index (c :: field)) cs
  | .conversion _, [] => .error (refusal "end of string while looking for conversion specifier")
  | .conversion field, c :: cs => read time (.converted (c :: field)) cs
  | .converted _, [] => .error (refusal "unmatched '\x7b' in format spec")
  | .converted field, '\x7d' :: cs => do return (← fill time field.reverse) ++ (← read time .text cs)
  | .converted field, ':' :: cs => read time (.format (':' :: field) 0) cs
  | .converted _, _ :: _ => .error (refusal "expected ':' after conversion specifier")
  | .format _ _, [] => .error (refusal "unmatched '\x7b' in format spec")
  | .format field 0, '\x7d' :: cs => do return (← fill time field.reverse) ++ (← read time .text cs)
  | .format field (opened + 1), '\x7d' :: cs => read time (.format ('\x7d' :: field) opened) cs
  | .format field opened, '\x7b' :: cs => read time (.format ('\x7b' :: field) (opened + 1)) cs
  | .format field opened, c :: cs => read time (.format (c :: field) opened) cs

/-- A name with its fields filled in. `time` says what stands for the time, given what is written behind it. -/
def complete (time : String → Except Failure String) (name : String) : Except Failure String :=
  read time .text name.toList

end Bearer.Logging.FileName
