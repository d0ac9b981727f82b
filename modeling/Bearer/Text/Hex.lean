/-!
# Hexadecimal digits

`hex` writes a number with at least so many digits, and `hexValue?` reads one digit in either letter
case.
-/

namespace Bearer.Text

/-- Hexadecimal digits of a number, at least `width` of them. -/
def hex (width : Nat) (n : Nat) : String :=
  let ds := Nat.toDigits 16 n
  String.ofList (List.replicate (width - ds.length) '0' ++ ds)

def hexValue? (c : Char) : Option Nat :=
  if '0' ≤ c ∧ c ≤ '9' then some (c.toNat - '0'.toNat)
  else if 'a' ≤ c ∧ c ≤ 'f' then some (c.toNat - 'a'.toNat + 10)
  else if 'A' ≤ c ∧ c ≤ 'F' then some (c.toNat - 'A'.toNat + 10)
  else none

end Bearer.Text
