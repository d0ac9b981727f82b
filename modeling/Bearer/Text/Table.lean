/-!
# Tables of code points

A table is a list of runs of code points, each with a value, and is written as text: tokens
`first`, `first-last` or `first-last/2` in hexadecimal, the last form for every second code point,
and after a colon the value.
-/

namespace Bearer.Text

/-- The code points `first, first + step, …, last` and the value that they share. -/
structure Run where
  first : Nat
  last : Nat
  step : Nat := 1
  value : Int := 0
  deriving DecidableEq, Repr, Inhabited

namespace Run

def contains (r : Run) (n : Nat) : Bool :=
  r.first ≤ n && n ≤ r.last && (n - r.first) % r.step == 0

def hexDigit (c : Char) : Nat :=
  if c.isDigit then c.toNat - '0'.toNat else c.toNat - 'a'.toNat + 10

def hexNat (cs : List Char) : Nat := cs.foldl (fun n c => n * 16 + hexDigit c) 0

def hexInt : List Char → Int
  | '-' :: cs => -(hexNat cs : Int)
  | cs => hexNat cs

def ofToken (token : List Char) : Run :=
  let points := token.takeWhile (· != ':')
  let value := hexInt (token.dropWhile (· != ':') |>.drop 1)
  let ends := points.takeWhile (· != '/')
  let step := if points.length = ends.length then 1 else 2
  let first := hexNat (ends.takeWhile (· != '-'))
  let last := match ends.dropWhile (· != '-') with
    | [] => first
    | _ :: cs => hexNat cs
  { first, last, step, value }

def read (lines : List String) : List Run :=
  lines.flatMap fun line => (line.splitOn " ").map fun token => ofToken token.toList

end Run

def inRuns (table : List Run) (c : Char) : Bool := table.any (·.contains c.toNat)

/-- The value that a table gives a code point. -/
def runValue? (table : List Run) (n : Nat) : Option Int :=
  (table.find? (·.contains n)).map (·.value)

end Bearer.Text
