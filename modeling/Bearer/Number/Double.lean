/-!
# Double-precision numbers, taken exactly

A finite double is a whole number of units of `2 ^ -1074`, so values are compared and rounded as
natural numbers and no step of the arithmetic is approximate except the one rounding at its end.
`roundRatio` is the nearest double of a quotient, ties to the even one; sums, products and powers
are that rounding of the exact result.
-/

namespace Bearer

def twoPow (k : Nat) : Nat := Nat.pow 2 k

def tenPow (k : Nat) : Nat := Nat.pow 10 k

/-- A double-precision number: `finite negative units` is `± units · 2 ^ -1074`. -/
inductive Double where
  | finite (negative : Bool) (units : Nat)
  | infinite (negative : Bool)
  | nan
  deriving DecidableEq, Repr, Inhabited

namespace Double

/-- Units in one: `2 ^ 1074`. -/
def one : Nat := twoPow 1074

/-- The first magnitude, in units, that no finite double has: `2 ^ 1024`. -/
def limit : Nat := twoPow 2098

/-- The quotient as a whole number, a tie going to the even one. -/
def divRoundEven (n d : Nat) : Nat :=
  let q := n / d
  let twice := 2 * (n % d)
  if twice < d then q
  else if d < twice then q + 1
  else if q % 2 = 0 then q else q + 1

def bitLength (n : Nat) : Nat := if n = 0 then 0 else n.log2 + 1

/-- Distance of neighbouring doubles around a magnitude of `units`. -/
def spacing (units : Nat) : Nat := twoPow (bitLength units - 53)

/-- The double of 53 binary digits nearest to `n / d` units. -/
def roundUnits (n d : Nat) : Nat :=
  let s := spacing (n / d)
  divRoundEven n (d * s) * s

/-- The double nearest to `± n / d` units; infinite from `2 ^ 1024` on. -/
def roundRatio (negative : Bool) (n d : Nat) : Double :=
  let u := roundUnits n d
  if u < limit then .finite negative u else .infinite negative

def zero : Double := .finite false 0

def half : Double := .finite false (one / 2)

def isFinite : Double → Bool
  | .finite .. => true
  | _ => false

/-- Signed units of a finite number. -/
def signed (negative : Bool) (units : Nat) : Int := if negative then -(units : Int) else units

/-- The double of a signed number of units, with the given sign if it is zero. -/
def ofSigned (zeroNegative : Bool) (n : Int) : Double :=
  if n = 0 then .finite zeroNegative 0 else roundRatio (n < 0) n.natAbs 1

def ofInt (n : Int) : Double := roundRatio (n < 0) (n.natAbs * one) 1

/-- The double nearest to `± m · 10 ^ e`. The exponent is looked at first, so that a literal with
a huge one costs nothing: `10 ^ 400` is out of range, and as `10 ^ 3 > 2 ^ 9` a number whose binary
length plus three times a negative exponent is below `-1200` rounds to zero. -/
def ofDecimal (negative : Bool) (m : Nat) (e : Int) : Double :=
  if m = 0 then .finite negative 0
  else if 400 < e then .infinite negative
  else if (Nat.log2 m : Int) + 3 * e < -1200 then .finite negative 0
  else if 0 ≤ e then roundRatio negative (m * tenPow e.toNat * one) 1
  else roundRatio negative (m * one) (tenPow (-e).toNat)

def neg : Double → Double
  | .finite s u => .finite (!s) u
  | .infinite s => .infinite (!s)
  | .nan => .nan

def abs : Double → Double
  | .finite _ u => .finite false u
  | .infinite _ => .infinite false
  | .nan => .nan

def add : Double → Double → Double
  | .finite s u, .finite t v => ofSigned (s && t) (signed s u + signed t v)
  | .infinite s, .infinite t => if s = t then .infinite s else .nan
  | .infinite s, .finite .. => .infinite s
  | .finite .., .infinite t => .infinite t
  | _, _ => .nan

def sub (x y : Double) : Double := add x (neg y)

def mul : Double → Double → Double
  | .finite s u, .finite t v => roundRatio (s != t) (u * v) one
  | .infinite s, .finite t v => if v = 0 then .nan else .infinite (s != t)
  | .finite s u, .infinite t => if u = 0 then .nan else .infinite (s != t)
  | .infinite s, .infinite t => .infinite (s != t)
  | _, _ => .nan

instance : Add Double := ⟨add⟩
instance : Sub Double := ⟨sub⟩
instance : Mul Double := ⟨mul⟩
instance : Neg Double := ⟨neg⟩

/-- `x < y`; nothing compares with NaN. -/
def lt : Double → Double → Bool
  | .finite s u, .finite t v => signed s u < signed t v
  | .infinite s, .infinite t => s && !t
  | .infinite s, .finite .. => s
  | .finite .., .infinite t => !t
  | _, _ => false

/-- `x ≤ y`; nothing compares with NaN. -/
def le : Double → Double → Bool
  | .finite s u, .finite t v => signed s u ≤ signed t v
  | .infinite s, .infinite t => s || !t
  | .infinite s, .finite .. => s
  | .finite .., .infinite t => !t
  | _, _ => false

/-- Equal as numbers: zeros of either sign are equal and NaN equals nothing. -/
def eq (x y : Double) : Bool := le x y && le y x

/-- The smaller, the first one if they do not compare. -/
def min (x y : Double) : Double := if lt y x then y else x

/-- The larger, the first one if they do not compare. -/
def max (x y : Double) : Double := if lt x y then y else x

/-- The odd part of a positive number and the power of two it is multiplied by. -/
def oddPart (n : Nat) : Nat × Nat :=
  let rec strip (fuel n twos : Nat) : Nat × Nat :=
    match fuel with
    | 0 => (n, twos)
    | fuel + 1 => if n % 2 = 0 then strip fuel (n / 2) (twos + 1) else (n, twos)
  strip (bitLength n) n 0

/-- The `k`-th power of a finite number of at least one, `none` if it is out of range. -/
def powUnits? (units k : Nat) : Option Nat :=
  let (m, twos) := oddPart units
  let e : Int := (twos : Int) - 1074
  if (1024 : Int) ≤ ((m.log2 : Int) + e) * k then none
  else
    let scale : Int := e * k + 1074
    let p := Nat.pow m k
    let u :=
      if 0 ≤ scale then roundUnits (p * twoPow scale.toNat) 1
      else roundUnits p (twoPow (-scale).toNat)
    if u < limit then some u else none

/-- A base of at least one raised to a natural power; `none` if a finite base leaves the range. -/
def powNat? : Double → Nat → Option Double
  | _, 0 => some (.finite false one)
  | .finite s u, k => (powUnits? u k).map (.finite (s && k % 2 = 1))
  | .infinite s, k => some (.infinite (s && k % 2 = 1))
  | .nan, _ => some .nan

/-- The largest whole number below a finite magnitude. -/
def floorUnits (units : Nat) : Nat := units / one

/-- A whole number of this value, if it has one. -/
def toInt? : Double → Option Int
  | .finite s u => if u % one = 0 then some (signed s (u / one)) else none
  | _ => none

/-- A sign, digits, a point and exactly `places` digits after it; an exact tie goes to the even
digit. -/
def toFixed (places : Nat) : Double → String
  | .nan => "nan"
  | .infinite s => if s then "-inf" else "inf"
  | .finite s u =>
    let n := divRoundEven (u * tenPow places) one
    let whole := toString (n / tenPow places)
    let part := toString (n % tenPow places)
    (if s then "-" else "") ++ whole ++ "." ++ "".pushn '0' (places - part.length) ++ part

end Double

end Bearer
