import Bearer.Number.Double

/-!
# Decimal text of doubles

`shortest` is the fewest digits that read back as the same double, and of those the nearest.
`Double.text` writes them positionally while the point falls within 16 digits of the front, and
with an exponent otherwise.
-/

namespace Bearer

/-- Decimal digits of a number, without leading zeros. -/
def digitsOf (n : Nat) : List Char := Nat.toDigits 10 n

def ofDigits (ds : List Char) : Nat := ds.foldl (fun n c => n * 10 + (c.toNat - '0'.toNat)) 0

namespace Double

/-- Numerator and denominator of `10 ^ e`. -/
def tenRatio (e : Int) : Nat × Nat :=
  if 0 ≤ e then (tenPow e.toNat, 1) else (1, tenPow (-e).toNat)

/-- The exponent `e` with `10 ^ (e - 1) ≤ units · 2 ^ -1074 < 10 ^ e`, for a positive magnitude. -/
def decimalExponent (units : Nat) : Int :=
  let guess : Int := (((bitLength units : Int) - 1075) * 30103).fdiv 100000
  let above (e : Int) : Bool := let (n, d) := tenRatio e; units * d < n * one
  let rec climb (fuel : Nat) (e : Int) : Int :=
    match fuel with
    | 0 => e
    | fuel + 1 => if above e then e else climb fuel (e + 1)
  climb 4 guess

/-- Does `n · 10 ^ e` round to `units`? Everything is taken in quarters of a unit, as the gap below
a power of two is half the gap above it. -/
def readsBack (units n : Nat) (e : Int) : Bool :=
  let (p, q) := tenRatio e
  let s := spacing units
  let below := if 1 < s ∧ units = twoPow units.log2 then s else 2 * s
  let value := 4 * n * p * one
  let low := (4 * units - below) * q
  let high := (4 * units + 2 * s) * q
  if units / s % 2 = 0 then low ≤ value && value ≤ high else low < value && value < high

/-- Of the decimals with step `10 ^ e` the one that reads back as `units`; of two the nearer. -/
def onGrid? (units : Nat) (e : Int) : Option Nat :=
  let (p, q) := tenRatio e
  let step := p * one
  let lower := units * q / step
  let near := divRoundEven (units * q) step
  let far := if near = lower then lower + 1 else lower
  if readsBack units near e then some near
  else if readsBack units far e then some far
  else none

/-- Digits and exponent of the shortest decimal `0.d₁d₂… · 10 ^ e` that reads back as a positive
magnitude, without trailing zeros. -/
def shortest (units : Nat) : List Char × Int :=
  let e := decimalExponent units
  let rec search (fuel : Nat) (places : Nat) : List Char × Int :=
    let step : Int := e - places
    match fuel, onGrid? units step with
    | 0, found => (digitsOf (found.getD 0), step)
    | _, some n => (digitsOf n, step)
    | fuel + 1, none => search fuel (places + 1)
  let (digits, step) := search 16 1
  let point := step + digits.length
  ((digits.reverse.dropWhile (· == '0')).reverse, point)

/-- The digits with the point after the first `point` of them, or with an exponent if that is not
within four zeros in front or sixteen digits. -/
def placePoint (digits : List Char) (point : Int) : String :=
  if -4 < point ∧ point ≤ 16 then
    if point ≤ 0 then "0." ++ "".pushn '0' (-point).toNat ++ String.ofList digits
    else
      let k := point.toNat
      let whole := digits.take k ++ List.replicate (k - digits.length) '0'
      let part := digits.drop k
      String.ofList whole ++ "." ++ (if part.isEmpty then "0" else String.ofList part)
  else
    let e := point - 1
    let magnitude := toString e.natAbs
    let exponent := (if e < 0 then "-" else "+") ++ "".pushn '0' (2 - magnitude.length) ++ magnitude
    let mantissa := match digits with
      | [] => "0"
      | [d] => d.toString
      | d :: rest => d.toString ++ "." ++ String.ofList rest
    mantissa ++ "e" ++ exponent

/-- The shortest text that reads back. -/
def text : Double → String
  | .nan => "nan"
  | .infinite s => if s then "-inf" else "inf"
  | .finite s u =>
    let sign := if s then "-" else ""
    if u = 0 then sign ++ "0.0"
    else let (digits, point) := shortest u; sign ++ placePoint digits point

end Double

end Bearer
