import Bearer.Text.Hex
import Bearer.Text.Pieces

/-!
# Numeric addresses

A host that looks like four numbers must be an IPv4 address, and one between brackets an IPv6
address.
-/

namespace Bearer.Address

/-! ### Four numbers -/

/-- One step of looking for four runs of digits with any character between them. An odd state `2i +
1` is inside run `i`, an even one before it. -/
def fourRunsStep (states : List Nat) (c : Char) : List Nat :=
  (List.range 8).filter fun q =>
    if q % 2 = 1 then c.isDigit && (states.contains q || states.contains (q - 1))
    else 0 < q && states.contains (q - 1)

/-- Four runs of digits, with one character of any kind between each two. -/
def isFourRuns (cs : List Char) : Bool := (cs.foldl fourRunsStep [0]).contains 7

def decimal (cs : List Char) : Nat := cs.foldl (fun n c => n * 10 + (c.toNat - '0'.toNat)) 0

def isOctet (cs : List Char) : Bool :=
  !cs.isEmpty && cs.all Char.isDigit && cs.length ≤ 3 && (cs == ['0'] || cs.head? != some '0') &&
    decimal cs ≤ 255

def isIPv4 (cs : List Char) : Bool :=
  let octets := Text.pieces (· == '.') cs
  octets.length == 4 && octets.all isOctet

/-! ### Eight groups -/

def isHexDigit (c : Char) : Bool := (Text.hexValue? c).isSome

def isGroup (cs : List Char) : Bool := cs.all isHexDigit && cs.length ≤ 4

/-- Groups between colons, one empty place standing for as many zero groups as are missing. An empty
place at an end belongs to one next to it. -/
def areGroups (groups : List (List Char)) : Bool :=
  let inner := (groups.drop 1).dropLast
  let startsEmpty := groups.head? == some []
  let endsEmpty := groups.getLast? == some []
  if inner.any List.isEmpty then
    (inner.filter List.isEmpty).length == 1
      && (!startsEmpty || inner.head? == some [])
      && (!endsEmpty || inner.getLast? == some [])
      && (groups.filter (!List.isEmpty ·)).length < 8 && groups.all isGroup
  else groups.length == 8 && !startsEmpty && !endsEmpty && groups.all isGroup

/-- The groups, with an IPv4 address at the end taken for two of them. -/
def groups? (cs : List Char) : Option (List (List Char)) :=
  let groups := Text.pieces (· == ':') cs
  if groups.length < 3 then none
  else
    let last := groups.getLastD []
    if last.contains '.' then
      if isIPv4 last then some (groups.dropLast ++ [['0'], ['0']]) else none
    else some groups

/-- An IPv6 address, perhaps with a zone behind a percent sign. -/
def isIPv6 (cs : List Char) : Bool :=
  let address := cs.takeWhile (· != '%')
  let zoned := match cs.dropWhile (· != '%') with
    | [] => true
    | _ :: zone => !zone.isEmpty && !zone.contains '%'
  zoned && match groups? address with
    | none => false
    | some groups => groups.length ≤ 9 && areGroups groups

end Bearer.Address
