import Bearer.Failure

/-!
# Formats of log messages

A format is a text with directives. A directive is `%`, an optional name in parentheses, flags, a
width, a precision and a letter that says how the next argument is written. A format without
arguments is written as it is.
-/

namespace Bearer.Logging.Format

open Json (Value Members)

inductive Error where
  | incomplete
  | incompleteName
  | noNames
  | unknownName (name : String)
  | tooFew
  | tooMany
  | notAWidth
  | unknownLetter (c : Char) (index : Nat)
  | notANumber (letter : Char) (found : String)
  | notAnInteger (letter : Char) (found : String)
  | notReal (found : String)
  | notACharacter
  | characterOutOfRange
  | nan
  | infinite
  deriving DecidableEq, Repr

namespace Error

def kind : Error → Kind
  | incomplete | incompleteName | unknownLetter .. | nan => .foreign "ValueError"
  | unknownName _ => .foreign "KeyError"
  | characterOutOfRange | infinite => .foreign "OverflowError"
  | _ => .foreign "TypeError"

def message : Error → String
  | incomplete => "incomplete format"
  | incompleteName => "incomplete format key"
  | noNames => "format requires a mapping"
  | unknownName name => name
  | tooFew => "not enough arguments for format string"
  | tooMany => "not all arguments converted during string formatting"
  | notAWidth => "* wants int"
  | unknownLetter c index =>
    "unsupported format character '" ++ (if 32 ≤ c.toNat && c.toNat < 128 then c.toString else "?")
      ++ "' (0x" ++ Text.hex 1 c.toNat ++ ") at index " ++ toString index
  | notANumber letter found =>
    "%" ++ letter.toString ++ " format: a real number is required, not " ++ found
  | notAnInteger letter found =>
    "%" ++ letter.toString ++ " format: an integer is required, not " ++ found
  | notReal found => "must be real number, not " ++ found
  | notACharacter => "%c requires int or char"
  | characterOutOfRange => "%c arg not in range(0x110000)"
  | nan => "cannot convert float NaN to integer"
  | infinite => "cannot convert float infinity to integer"

def toFailure (e : Error) : Failure := .raised e.kind e.message

end Error

/-! ### Values -/

/-- A shown text in which nothing but ASCII is left. -/
def ascii (s : String) : String :=
  s.foldl (fun out c => out ++ if c.toNat < 0x80 then c.toString else Text.hiddenEscape c.toNat) ""

/-! ### Layout -/

/-- What stands between the `%` and the letter of a directive. -/
structure Directive where
  left : Bool := false
  plus : Bool := false
  blank : Bool := false
  alternate : Bool := false
  zeros : Bool := false
  width : Nat := 0
  precision : Option Nat := none
  deriving DecidableEq, Repr, Inhabited

namespace Directive

/-- A text on the side of its width that the flags say. -/
def pad (d : Directive) (s : String) : String :=
  let space := "".pushn ' ' (d.width - s.length)
  if d.left then s ++ space else space ++ s

/-- A number behind its sign and the mark of its base; zeros stand between those and the digits. -/
def number (d : Directive) (negative : Bool) (mark digits : String) : String :=
  let sign := if negative then "-" else if d.plus then "+" else if d.blank then " " else ""
  let front := sign ++ mark
  let missing := if d.zeros && !d.left then d.width - (front.length + digits.length) else 0
  d.pad (front ++ "".pushn '0' missing ++ digits)

/-- An integer with at least as many digits as the precision asks for. -/
def integer (d : Directive) (base : Nat) (mark : String) (upper : Bool) (n : Int) : String :=
  let ds := String.ofList (Nat.toDigits base n.natAbs)
  let ds := "".pushn '0' (d.precision.getD 0 - ds.length) ++ if upper then ds.toUpper else ds
  d.number (n < 0) (if d.alternate then mark else "") ds

end Directive

/-! ### Doubles -/

/-- The digits of `n` with a point before the last `places` of them. -/
def pointed (point : Bool) (places n : Nat) : String :=
  let part := toString (n % tenPow places)
  toString (n / tenPow places)
    ++ (if places = 0 then (if point then "." else "")
      else "." ++ "".pushn '0' (places - part.length) ++ part)

/-- A magnitude with `places` digits after the point. -/
def fixed (point : Bool) (places units : Nat) : String :=
  pointed point places (Double.divRoundEven (units * tenPow places) Double.one)

/-- Digits, `places` of them after the first, and the exponent of a magnitude. -/
def mantissa (places units : Nat) : Nat × Int :=
  if units = 0 then (0, 0) else
    let e := Double.decimalExponent units - 1
    let (p, q) := Double.tenRatio (places - e)
    let n := Double.divRoundEven (units * p) (Double.one * q)
    if n < tenPow (places + 1) then (n, e) else (n / 10, e + 1)

/-- A magnitude with one digit before the point, `places` after it, and an exponent. -/
def scientific (point : Bool) (places units : Nat) : String :=
  let (n, e) := mantissa places units
  let magnitude := toString e.natAbs
  pointed point places n ++ (if e < 0 then "e-" else "e+")
    ++ "".pushn '0' (2 - magnitude.length) ++ magnitude

/-- Without the zeros at the end of what follows the point, and without a point at the end. -/
def trimmed (s : String) : String :=
  let (front, exponent) := s.toList.span (· != 'e')
  let front := if front.contains '.' then
      ((front.reverse.dropWhile (· == '0')).dropWhile (· == '.')).reverse
    else front
  String.ofList (front ++ exponent)

/-- A magnitude with so many digits in all, written with an exponent if it is far from one. -/
def general (point : Bool) (digits units : Nat) : String :=
  let digits := max 1 digits
  let e := (mantissa (digits - 1) units).2
  let s := if -4 ≤ e ∧ e < digits then fixed point (digits - 1 - e).toNat units
    else scientific point (digits - 1) units
  if point then s else trimmed s

/-- A double as one of the letters `f`, `e` and `g` writes it. -/
def double (d : Directive) (letter : Char) (x : Double) : String :=
  let places := d.precision.getD 6
  let (negative, s) := match x with
    | .nan => (false, "nan")
    | .infinite negative => (negative, "inf")
    | .finite negative units => (negative, match letter.toLower with
      | 'e' => scientific d.alternate places units
      | 'g' => general d.alternate places units
      | _ => fixed d.alternate places units)
  d.number negative "" (if letter.isUpper then s.toUpper else s)

/-! ### Directives -/

/-- An integer; a boolean is zero or one. -/
def integer? : Value → Option Int
  | .int n => some n
  | .bool b => some (if b then 1 else 0)
  | _ => none

/-- The whole number that a decimal letter writes. -/
def wholeNumber (letter : Char) (v : Value) : Except Error Int :=
  match v, integer? v with
  | .double .nan, _ => .error .nan
  | .double (.infinite _), _ => .error .infinite
  | .double (.finite negative units), _ => .ok (Double.signed negative (Double.floorUnits units))
  | _, some n => .ok n
  | _, none => .error (.notANumber letter v.kind)

def exactInteger (letter : Char) (v : Value) : Except Error Int :=
  match integer? v with
  | some n => .ok n
  | none => .error (.notAnInteger letter v.kind)

def realNumber (v : Value) : Except Error Double :=
  match v, integer? v with
  | .double x, _ => .ok x
  | _, some n => .ok (Double.ofInt n)
  | _, none => .error (.notReal v.kind)

/-- One character, or the one with a code point. -/
def character (v : Value) : Except Error String :=
  match v, integer? v with
  | .str t, _ => if t.points.length = 1 then .ok t.repaired else .error .notACharacter
  | _, some n =>
    if 0 ≤ n ∧ n < 0x110000 then .ok (Char.ofNat n.toNat).toString
    else .error .characterOutOfRange
  | _, none => .error .notACharacter

/-- An argument as a directive with a letter writes it, the letter standing at `index`. -/
def Directive.write (d : Directive) (letter : Char) (index : Nat) (v : Value) :
    Except Error String :=
  let text (s : String) : String := d.pad (match d.precision with
    | some n => (s.take n).toString
    | none => s)
  match letter with
  | 's' => .ok (text v.alone)
  | 'r' => .ok (text v.shown)
  | 'a' => .ok (text (ascii v.shown))
  | 'c' => (character v).map d.pad
  | 'd' | 'i' | 'u' => (wholeNumber letter v).map (d.integer 10 "" false)
  | 'o' => (exactInteger letter v).map (d.integer 8 "0o" false)
  | 'x' => (exactInteger letter v).map (d.integer 16 "0x" false)
  | 'X' => (exactInteger letter v).map (d.integer 16 "0X" true)
  | 'e' | 'E' | 'f' | 'F' | 'g' | 'G' => (realNumber v).map (double d letter)
  | _ => .error (.unknownLetter letter index)

/-! ### Reading a format -/

/-- What has been read of a directive last, or what may come next. -/
inductive Stage where
  | start
  | name (depth : Nat) (done : List Char)
  | flags
  | width
  | point
  | precision
  | size
  | letter
  deriving DecidableEq, Repr

structure State where
  done : String := ""
  /-- The directive being read. -/
  directive : Option (Stage × Directive) := none
  arguments : List Value
  /-- Arguments with names, if the argument list has them. -/
  names : Option Members
  index : Nat := 0

namespace State

def stay (s : State) (stage : Stage) (d : Directive) : Except Error State :=
  .ok { s with directive := some (stage, d) }

/-- The next argument and the state without it. -/
def take (s : State) : Except Error (Value × State) :=
  match s.arguments with
  | v :: vs => .ok (v, { s with arguments := vs })
  | [] => .error .tooFew

def choose (s : State) (name : String) : Except Error State :=
  match s.names.bind (Json.lookup? · name) with
  | some v => .ok { s with arguments := [v], directive := some (.flags, {}) }
  | none => .error (.unknownName name)

/-- The next argument as a width or a precision. -/
def takeSize (s : State) : Except Error (Int × State) := do
  let (v, s) ← s.take
  match integer? v with
  | some n => return (n, s)
  | none => throw .notAWidth

/-- A width that is an argument; a negative one goes to the left. -/
def starWidth (s : State) (d : Directive) : Except Error State := do
  let (n, s) ← s.takeSize
  s.stay .point { d with left := d.left || n < 0, width := n.natAbs }

def starPrecision (s : State) (d : Directive) : Except Error State := do
  let (n, s) ← s.takeSize
  s.stay .size { d with precision := some n.toNat }

def finish (s : State) (d : Directive) (c : Char) : Except Error State := do
  let (v, s) ← s.take
  return { s with done := s.done ++ (← d.write c s.index v), directive := none }

def inName (s : State) (depth : Nat) (done : List Char) (d : Directive) (c : Char) :
    Except Error State :=
  match c, depth with
  | ')', 0 => s.choose (String.ofList done.reverse)
  | ')', depth + 1 => s.stay (.name depth (c :: done)) d
  | '(', _ => s.stay (.name (depth + 1) (c :: done)) d
  | _, _ => s.stay (.name depth (c :: done)) d

def inDirective (s : State) (stage : Stage) (d : Directive) (c : Char) : Except Error State :=
  let digit := c.toNat - '0'.toNat
  let inFlags := stage = .start ∨ stage = .flags
  let inWidth := inFlags ∨ stage = .width
  if stage = .start ∧ c = '%' then .ok { s with done := s.done.push '%', directive := none }
  else if stage = .start ∧ c = '(' then
    if s.names.isSome then s.stay (.name 0 []) d else .error .noNames
  else if inFlags ∧ c = '-' then s.stay .flags { d with left := true }
  else if inFlags ∧ c = '+' then s.stay .flags { d with plus := true }
  else if inFlags ∧ c = ' ' then s.stay .flags { d with blank := true }
  else if inFlags ∧ c = '#' then s.stay .flags { d with alternate := true }
  else if inFlags ∧ c = '0' then s.stay .flags { d with zeros := true }
  else if inFlags ∧ c = '*' then s.starWidth d
  else if inWidth ∧ c.isDigit then s.stay .width { d with width := d.width * 10 + digit }
  else if (inWidth ∨ stage = .point) ∧ c = '.' then s.stay .precision { d with precision := some 0 }
  else if stage = .precision ∧ c.isDigit then
    s.stay .precision { d with precision := some (d.precision.getD 0 * 10 + digit) }
  else if stage = .precision ∧ c = '*' ∧ d.precision = some 0 then s.starPrecision d
  else if stage ≠ .letter ∧ (c = 'h' ∨ c = 'l' ∨ c = 'L') then s.stay .letter d
  else s.finish d c

def feed (s : State) (c : Char) : Except Error State := do
  let s ← match s.directive with
    | none => if c = '%' then s.stay .start {} else .ok { s with done := s.done.push c }
    | some (.name depth done, d) => s.inName depth done d c
    | some (stage, d) => s.inDirective stage d c
  return { s with index := s.index + 1 }

/-- The text of a format that was read to its end. -/
def result (s : State) : Except Error String :=
  match s.directive with
  | some (.name .., _) => .error .incompleteName
  | some _ => .error .incomplete
  | none => if s.names.isNone && !s.arguments.isEmpty then .error .tooMany else .ok s.done

end State

/-- A format with its arguments filled in. One argument that is an object with members names the
arguments. -/
def fill (format : String) (arguments : List Value) : Except Error String :=
  let names : Option Members := match arguments with
    | [.obj (m :: ms)] => some (m :: ms)
    | _ => none
  if arguments.isEmpty then .ok format
  else (format.toList.foldlM State.feed { arguments, names }).bind State.result

end Bearer.Logging.Format
