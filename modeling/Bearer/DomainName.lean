import Bearer.DomainName.Label
import Bearer.Text.Pieces

/-!
# Internationalized domain names

A domain name is sent in ASCII, label by label, and looked up in the form that people read. The
ideographic full stops part labels as the full stop does; one at the end belongs to no label.
-/

namespace Bearer.DomainName

def isDot (c : Char) : Bool := [0x2e, 0x3002, 0xff0e, 0xff61].contains c.toNat

/-- Takes each label to another form and joins them with full stops. -/
def mapLabels (f : List Char → Except Error (List Char)) (name : List Char) :
    Except Error (List Char) :=
  if maxName < name.length then .error .longDomain
  else
    let parts := Text.pieces isDot name
    if parts = [[]] then .error .emptyDomain
    else
      let dotted := parts.getLast? = some []
      let parts := if dotted then parts.dropLast else parts
      let one (label : List Char) : Except Error (List Char) :=
        match f label with
        | .ok [] => .error .missingLabel
        | r => r
      match parts.mapM one with
      | .error e => .error e
      | .ok done => .ok (Text.join '.' (if dotted then done ++ [[]] else done))

def encode (name : List Char) : Except Error (List Char) :=
  match mapLabels toAscii name with
  | .error e => .error e
  | .ok s =>
    let most := if s.getLast? = some '.' then maxName else maxName - 1
    if most < s.length then .error .longDomain else .ok s

def decode (name : List Char) : Except Error (List Char) := mapLabels toUnicode name

/-- The kind of failure that a text which is no domain name is. -/
def Error.kind : Error → String
  | .character .. => "InvalidCodepoint"
  | .neighbours .. => "InvalidCodepointContext"
  | .firstDirection _ | .rightToLeft _ | .leftToRight _ | .mixedNumbers | .lastDirection =>
    "IDNABidiError"
  | _ => "IDNAError"

end Bearer.DomainName
