import Bearer.Text.Hex
import Bearer.Text.Utf8

/-!
# Percent encoding

A character is written as itself if it is unreserved or safe where it stands, and otherwise byte by
byte, each as a percent sign and two digits. Where a percent sign is safe, escapes stay as they are.
-/

namespace Bearer.Percent

/-- Letters, digits and four signs, which stand for themselves everywhere. -/
def isUnreserved (c : Char) : Bool :=
  c.isAlphanum || c == '-' || c == '.' || c == '_' || c == '~'

def hexDigit (n : Nat) : Char := ((Nat.toDigits 16 n).headD '0').toUpper

def escapeByte (b : UInt8) : List Char :=
  ['%', hexDigit (b.toNat / 16), hexDigit (b.toNat % 16)]

def escape (c : Char) : List Char := (Utf8.encodeChar c).flatMap escapeByte

def encodeChar (safe : Char → Bool) (c : Char) : List Char :=
  if isUnreserved c || safe c then [c] else escape c

/-- Escapes whatever is neither unreserved nor safe. -/
def encode (safe : Char → Bool) (cs : List Char) : List Char := cs.flatMap (encodeChar safe)

def byte? (a b : Char) : Option UInt8 :=
  match Text.hexValue? a, Text.hexValue? b with
  | some x, some y => some (x * 16 + y).toUInt8
  | _, _ => none

def decodeFrom (done : List UInt8) : List Char → List UInt8
  | '%' :: a :: b :: cs => match byte? a b with
    | some x => decodeFrom (x :: done) cs
    | none => decodeFrom (0x25 :: done) (a :: b :: cs)
  | c :: cs => decodeFrom ((Utf8.encodeChar c).reverse ++ done) cs
  | [] => done.reverse

def decode (cs : List Char) : List UInt8 := decodeFrom [] cs

def decodeText (cs : List Char) : List Char := Utf8.decodeLossy (decode cs)

end Bearer.Percent
