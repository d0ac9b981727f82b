import Bearer.Url.Percent

/-!
# Forms

A form is a list of named values, joined with ampersands. A space is written as a plus sign and
whatever is not unreserved is escaped.
-/

namespace Bearer.Form

def encodeChar (c : Char) : List Char :=
  if c = ' ' then ['+'] else Percent.encodeChar (fun _ => false) c

def encodeText (cs : List Char) : List Char := cs.flatMap encodeChar

def encodePair (pair : String × String) : List Char :=
  encodeText pair.1.toList ++ '=' :: encodeText pair.2.toList

def encode (pairs : List (String × String)) : String :=
  String.ofList (['&'].intercalate (pairs.map encodePair))

end Bearer.Form
