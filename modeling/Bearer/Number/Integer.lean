import Bearer.Number.Decimal
import Bearer.Text.Blank

/-!
# Integers written by people

`readInteger?` reads a port or a declared length: white space around it, a sign, decimal digits of
any script and single underscores between digits. Longer literals than `maxDigits` are refused.
-/

namespace Bearer

def maxDigits : Nat := 4300

/-- The zeros of the decimal digits of every script; the other nine follow each. -/
def decimalZeros : List Nat := [
  0x30, 0x660, 0x6f0, 0x7c0, 0x966, 0x9e6, 0xa66, 0xae6, 0xb66, 0xbe6, 0xc66, 0xce6, 0xd66, 0xde6,
  0xe50, 0xed0, 0xf20, 0x1040, 0x1090, 0x17e0, 0x1810, 0x1946, 0x19d0, 0x1a80, 0x1a90, 0x1b50,
  0x1bb0, 0x1c40, 0x1c50, 0xa620, 0xa8d0, 0xa900, 0xa9d0, 0xa9f0, 0xaa50, 0xabf0, 0xff10, 0x104a0,
  0x10d30, 0x11066, 0x110f0, 0x11136, 0x111d0, 0x112f0, 0x11450, 0x114d0, 0x11650, 0x116c0,
  0x11730, 0x118e0, 0x11950, 0x11c50, 0x11d50, 0x11da0, 0x16a60, 0x16ac0, 0x16b50, 0x1d7ce,
  0x1d7d8, 0x1d7e2, 0x1d7ec, 0x1d7f6, 0x1e140, 0x1e2f0, 0x1e950, 0x1fbf0]

def digitValue? (c : Char) : Option Nat :=
  (decimalZeros.find? fun z => z ≤ c.toNat && c.toNat < z + 10).map (c.toNat - ·)

/-- Digits with single underscores between them; `afterDigit` says whether one stands before. -/
def digitRun? (value : Char → Option Nat) (afterDigit : Bool) (done : List Nat) :
    List Char → Option (List Nat)
  | [] => if afterDigit then some done.reverse else none
  | '_' :: cs => if afterDigit then digitRun? value false done cs else none
  | c :: cs => match value c with
    | some d => digitRun? value true (d :: done) cs
    | none => none

/-- A sign in front, if any, and what follows it. -/
def takeSign : List Char → Bool × List Char
  | '-' :: cs => (true, cs)
  | '+' :: cs => (false, cs)
  | cs => (false, cs)

def ofDigitValues (ds : List Nat) : Nat := ds.foldl (fun n d => n * 10 + d) 0

def signedInt (negative : Bool) (n : Nat) : Int := if negative then -(n : Int) else n

def readInteger? (cs : List Char) : Option Int :=
  let (negative, body) := takeSign (Text.trimBy Text.isWhiteSpace cs)
  match digitRun? digitValue? false [] body with
  | some ds => if ds.length ≤ maxDigits then some (signedInt negative (ofDigitValues ds)) else none
  | none => none

end Bearer
