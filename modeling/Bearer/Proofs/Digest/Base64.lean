import Bearer.Digest.Base64
import Mathlib.Tactic.Common

/-!
Reading base 64, as the receiver of credentials does: four characters are three bytes, and only the last four
may end in fillers, for which no bits may be left over. `decode?_encode` says that every text that is written is
read as the bytes it was written for.
-/

namespace Bearer.Base64

def value? (c : Char) : Option Nat :=
  if 'A' ≤ c ∧ c ≤ 'Z' then some (c.toNat - 'A'.toNat)
  else if 'a' ≤ c ∧ c ≤ 'z' then some (c.toNat - 'a'.toNat + 26)
  else if '0' ≤ c ∧ c ≤ '9' then some (c.toNat - '0'.toNat + 52)
  else if c = '+' then some 62
  else if c = '/' then some 63
  else none

def decode? : List Char → Option (List UInt8)
  | [] => some []
  | [w, x, '=', '='] => do
    let n := (← value? w) * 64 + (← value? x)
    if n % 16 = 0 then some [(n / 16).toUInt8] else none
  | [w, x, y, '='] => do
    let n := (← value? w) * 4096 + (← value? x) * 64 + (← value? y)
    if n % 4 = 0 then some [(n / 1024).toUInt8, (n / 4).toUInt8] else none
  | w :: x :: y :: z :: rest => do
    let n := (← value? w) * 262144 + (← value? x) * 4096 + (← value? y) * 64 + (← value? z)
    return (n / 65536).toUInt8 :: (n / 256).toUInt8 :: n.toUInt8 :: (← decode? rest)
  | _ => none

theorem value?_symbol : ∀ n < 64, value? (symbol n) = some n := by decide +kernel

theorem symbol_ne_filler : ∀ n < 64, symbol n ≠ '=' := by decide +kernel

/-! ### Groups -/

theorem encodeFrom_append (done base : List Char) (bytes : List UInt8) :
    encodeFrom (done ++ base) bytes = base.reverse ++ encodeFrom done bytes := by
  fun_induction encodeFrom done bytes with
  | case1 done a b c rest n ih =>
    rw [encodeFrom, ← ih]
    rfl
  | case2 done a b n => simp [encodeFrom, n]
  | case3 done a => simp [encodeFrom]
  | case4 done => rw [encodeFrom, List.reverse_append]

theorem encodeFrom_group (a b c : UInt8) (rest : List UInt8) :
    let n := a.toNat * 65536 + b.toNat * 256 + c.toNat
    encodeFrom [] (a :: b :: c :: rest) =
      symbol (n / 262144) :: symbol (n / 4096 % 64) :: symbol (n / 64 % 64) :: symbol (n % 64) ::
        encodeFrom [] rest := by
  rw [encodeFrom]
  exact encodeFrom_append [] _ rest

/-- Four characters of the alphabet are three bytes. -/
theorem decode?_symbols {i j k l : Nat} (hi : i < 64) (hj : j < 64) (hk : k < 64) (hl : l < 64)
    (rest : List Char) :
    decode? (symbol i :: symbol j :: symbol k :: symbol l :: rest) =
      (decode? rest).map fun bytes =>
        let n := i * 262144 + j * 4096 + k * 64 + l
        (n / 65536).toUInt8 :: (n / 256).toUInt8 :: n.toUInt8 :: bytes := by
  have last := symbol_ne_filler l hl
  rw [decode?]
  · simp only [value?_symbol i hi, value?_symbol j hj, value?_symbol k hk, value?_symbol l hl]
    cases decode? rest <;> rfl
  · rintro - fillers -
    exact last fillers
  · rintro filler -
    exact last filler

theorem decode?_filler {i j k : Nat} (hi : i < 64) (hj : j < 64) (hk : k < 64) (even : k % 4 = 0) :
    decode? [symbol i, symbol j, symbol k, '='] =
      some [((i * 4096 + j * 64 + k) / 1024).toUInt8, ((i * 4096 + j * 64 + k) / 4).toUInt8] := by
  have last := symbol_ne_filler k hk
  rw [decode?]
  · simp only [value?_symbol i hi, value?_symbol j hj, value?_symbol k hk]
    exact if_pos (by omega)
  · exact last

theorem decode?_fillers {i j : Nat} (hi : i < 64) (hj : j < 64) (even : j % 16 = 0) :
    decode? [symbol i, symbol j, '=', '='] = some [((i * 64 + j) / 16).toUInt8] := by
  rw [decode?]
  simp only [value?_symbol i hi, value?_symbol j hj]
  exact if_pos (by omega)

/-! ### Texts -/

theorem toUInt8_of_mod {n : Nat} {b : UInt8} (h : n % 256 = b.toNat) : n.toUInt8 = b :=
  UInt8.toNat_inj.1 (by rw [← h]; rfl)

theorem threeSixes_eq (n : Nat) : n / 4096 * 4096 + n / 64 % 64 * 64 + n % 64 = n := by omega

theorem fourSixes_eq (n : Nat) :
    n / 262144 * 262144 + n / 4096 % 64 * 4096 + n / 64 % 64 * 64 + n % 64 = n := by omega

theorem decode?_encodeFrom : (bytes : List UInt8) → decode? (encodeFrom [] bytes) = some bytes
  | a :: b :: c :: rest => by
    have ha := a.toNat_lt
    have hb := b.toNat_lt
    have hc := c.toNat_lt
    rw [encodeFrom_group]
    generalize whole : a.toNat * 65536 + b.toNat * 256 + c.toNat = n
    have first : (n / 65536).toUInt8 = a := toUInt8_of_mod (by omega)
    have second : (n / 256).toUInt8 = b := toUInt8_of_mod (by omega)
    have third : n.toUInt8 = c := toUInt8_of_mod (by omega)
    rw [decode?_symbols (by omega) (by omega) (by omega) (by omega), decode?_encodeFrom rest, fourSixes_eq]
    simp only [first, second, third, Option.map_some]
  | [a, b] => by
    have ha := a.toNat_lt
    have hb := b.toNat_lt
    generalize whole : a.toNat * 1024 + b.toNat * 4 = n
    have group : encodeFrom [] [a, b] = [symbol (n / 4096), symbol (n / 64 % 64), symbol (n % 64), '='] := by
      rw [← whole]
      rfl
    have first : (n / 1024).toUInt8 = a := toUInt8_of_mod (by omega)
    have second : (n / 4).toUInt8 = b := toUInt8_of_mod (by omega)
    rw [group, decode?_filler (by omega) (by omega) (by omega) (by omega), threeSixes_eq, first, second]
  | [a] => by
    have ha := a.toNat_lt
    have group : encodeFrom [] [a] = [symbol (a.toNat / 4), symbol (a.toNat % 4 * 16), '=', '='] := rfl
    have first : ((a.toNat / 4 * 64 + a.toNat % 4 * 16) / 16).toUInt8 = a := toUInt8_of_mod (by omega)
    rw [group, decode?_fillers (by omega) (by omega) (by omega), first]
  | [] => rfl

theorem decode?_encode (bytes : List UInt8) : decode? (encode bytes).toList = some bytes := by
  rw [encode, String.toList_ofList, decode?_encodeFrom]

end Bearer.Base64
