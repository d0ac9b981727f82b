/-!
# Base 64

Three bytes as four characters of an alphabet of 64; a shorter last group is filled with `=`.
-/

namespace Bearer.Base64

/-- The character of a six-bit number. -/
def symbol (n : Nat) : Char :=
  if n < 26 then Char.ofNat ('A'.toNat + n)
  else if n < 52 then Char.ofNat ('a'.toNat + (n - 26))
  else if n < 62 then Char.ofNat ('0'.toNat + (n - 52))
  else if n = 62 then '+'
  else '/'

/-- The characters of some bytes, `done` being those so far, last one first. -/
def encodeFrom (done : List Char) : List UInt8 → List Char
  | a :: b :: c :: rest =>
    let n := a.toNat * 65536 + b.toNat * 256 + c.toNat
    encodeFrom (symbol (n % 64) :: symbol (n / 64 % 64) :: symbol (n / 4096 % 64)
      :: symbol (n / 262144) :: done) rest
  | [a, b] =>
    let n := a.toNat * 1024 + b.toNat * 4
    ('=' :: symbol (n % 64) :: symbol (n / 64 % 64) :: symbol (n / 4096) :: done).reverse
  | [a] => ('=' :: '=' :: symbol (a.toNat % 4 * 16) :: symbol (a.toNat / 4) :: done).reverse
  | [] => done.reverse

def encode (bytes : List UInt8) : String := String.ofList (encodeFrom [] bytes)

end Bearer.Base64
