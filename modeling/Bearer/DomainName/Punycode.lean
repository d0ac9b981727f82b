/-!
# Punycode

The characters of a label beyond ASCII are written, in ascending order, as differences to the one
before. A difference is a number whose digits go to base 36 and whose last digit stays below a
threshold, so that the end of a number shows.
-/

namespace Bearer.Punycode

def digitChar (d : Nat) : Char := if d < 26 then Char.ofNat (0x61 + d) else Char.ofNat (0x30 + d - 26)

def digitValue? (c : Char) : Option Nat :=
  let n := c.toNat
  if 0x61 ≤ n ∧ n ≤ 0x7a then some (n - 0x61)
  else if 0x41 ≤ n ∧ n ≤ 0x5a then some (n - 0x41)
  else if 0x30 ≤ n ∧ n ≤ 0x39 then some (n - 0x30 + 26)
  else none

/-- The threshold of the digit at `k`, counted in steps of 36. -/
def threshold (k bias : Nat) : Nat :=
  if k ≤ bias then 1 else if bias + 26 ≤ k then 26 else k - bias

theorem threshold_pos (k bias : Nat) : 1 ≤ threshold k bias := by
  unfold threshold
  split
  · omega
  · split <;> omega

def reduceDelta (delta k : Nat) : Nat × Nat :=
  if 455 < delta then reduceDelta (delta / 35) (k + 36) else (delta, k)
termination_by delta
decreasing_by exact Nat.div_lt_self (by omega) (by omega)

/-- The bias after a difference, when `count` characters stand. -/
def adapt (delta count : Nat) (first : Bool) : Nat :=
  let d := if first then delta / 700 else delta / 2
  let (d, k) := reduceDelta (d + d / count) 0
  k + 36 * d / (d + 38)

/-! ### Writing -/

/-- The digits of a difference, the least first. -/
def encodeDigits (bias k q : Nat) : List Char :=
  let t := threshold k bias
  if q < t then [digitChar q]
  else digitChar (t + (q - t) % (36 - t)) :: encodeDigits bias (k + 36) ((q - t) / (36 - t))
termination_by q
decreasing_by
  have := threshold_pos k bias
  exact Nat.lt_of_le_of_lt (Nat.div_le_self _ _) (by omega)

/-- A label that is being written: the digits so far, the difference that is due, the bias and the
number of characters that stand. -/
structure Writing where
  done : List Char := []
  delta : Nat := 0
  bias : Nat := 72
  count : Nat

/-- Passes one character while those of code point `m` are written, `basic` being the number of
ASCII characters. -/
def Writing.pass (basic m : Nat) (s : Writing) (c : Char) : Writing :=
  if c.toNat < m then { s with delta := s.delta + 1 }
  else if c.toNat = m then
    { done := s.done ++ encodeDigits s.bias 36 s.delta
      delta := 0
      bias := adapt s.delta (s.count + 1) (s.count == basic)
      count := s.count + 1 }
  else s

/-- Writes all characters of one code point after another, `n` being the first that is not yet. -/
def encodeFrom (label : List Char) (basic : Nat) : List Nat → Nat → Writing → Writing
  | [], _, s => s
  | m :: ms, n, s =>
    let s := { s with delta := s.delta + (m - n) * (s.count + 1) }
    let s := label.foldl (Writing.pass basic m) s
    encodeFrom label basic ms (m + 1) { s with delta := s.delta + 1 }

def isBasic (c : Char) : Bool := c.toNat < 0x80

def encode (label : List Char) : List Char :=
  let basic := label.filter isBasic
  let others := (label.filter (!isBasic ·)).map Char.toNat |>.eraseDups.mergeSort
  let s := encodeFrom label basic.length others 0x80 { count := basic.length }
  basic ++ (if basic.isEmpty then [] else ['-']) ++ s.done

/-! ### Reading -/

/-- Reads one difference and adds it to `i`; the rest of the digits is shorter. -/
def decodeDigits (bias : Nat) : List Char → (k w i : Nat) → Option (Nat × List Char)
  | [], _, _, _ => none
  | c :: cs, k, w, i => match digitValue? c with
    | none => none
    | some d =>
      let t := threshold k bias
      if d < t then some (i + d * w, cs) else decodeDigits bias cs (k + 36) (w * (36 - t)) (i + d * w)

theorem decodeDigits_length {bias : Nat} {cs : List Char} {k w i j : Nat} {rest : List Char}
    (h : decodeDigits bias cs k w i = some (j, rest)) : rest.length < cs.length := by
  induction cs generalizing k w i with
  | nil => simp [decodeDigits] at h
  | cons c cs ih =>
    simp only [decodeDigits] at h
    split at h
    · cases h
    · split at h
      · simp only [Option.some.injEq, Prod.mk.injEq] at h
        simp [h.2]
      · have := ih h
        simp only [List.length_cons]
        omega

/-- Puts one character after another into its place. -/
def decodeFrom (bias n i : Nat) (done : List Char) (cs : List Char) : Option (List Char) :=
  match cs with
  | [] => some done
  | c :: cs =>
    match h : decodeDigits bias (c :: cs) 36 1 i with
    | none => none
    | some (j, rest) =>
      let count := done.length + 1
      let m := n + j / count
      let place := j % count
      if m.isValidChar then
        decodeFrom (adapt (j - i) count (done.all isBasic)) m (place + 1)
          (done.insertIdx place (Char.ofNat m)) rest
      else none
termination_by cs.length
decreasing_by exact decodeDigits_length h

def decode (cs : List Char) : Option (List Char) :=
  let tail := (cs.reverse.takeWhile (· != '-')).reverse
  let basic := cs.take (cs.length - tail.length - 1)
  decodeFrom 72 0x80 0 basic tail

end Bearer.Punycode
