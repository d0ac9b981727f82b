import Bearer.Text.ComposedData

/-!
# Canonical composition

`isComposed` says whether a text is in Unicode normalization form C: taking it apart, sorting its
marks and putting it together again gives the same text.
-/

namespace Bearer.Text

def combiningClass (c : Char) : Int := (runValue? combiningClasses c.toNat).getD 0

/-! ### Hangul syllables -/

/-- First syllable, leading consonant, vowel and trailing consonant. -/
def hangulSyllable : Nat := 0xac00
def hangulLead : Nat := 0x1100
def hangulVowel : Nat := 0x1161
def hangulTail : Nat := 0x11a7

def isHangulSyllable (n : Nat) : Bool := hangulSyllable ≤ n && n < hangulSyllable + 11172

def hangulParts (n : Nat) : Nat × Nat :=
  let i := n - hangulSyllable
  if i % 28 = 0 then (hangulLead + i / 588, hangulVowel + i % 588 / 28)
  else (n - i % 28, hangulTail + i % 28)

def hangulPair? (a b : Nat) : Option Nat :=
  if hangulLead ≤ a ∧ a < hangulLead + 19 ∧ hangulVowel ≤ b ∧ b < hangulVowel + 21 then
    some (hangulSyllable + ((a - hangulLead) * 21 + (b - hangulVowel)) * 28)
  else if isHangulSyllable a ∧ (a - hangulSyllable) % 28 = 0 ∧
      hangulTail < b ∧ b < hangulTail + 28 then
    some (a + (b - hangulTail))
  else none

/-! ### Taking apart and putting together -/

/-- Distance of the first of two characters from the second in a table. -/
def pairShift : Nat := 0x1000000

def parts? (n : Nat) : Option (Nat × Nat) :=
  if isHangulSyllable n then some (hangulParts n)
  else (runValue? composites n).map fun v => (v.toNat / pairShift, v.toNat % pairShift)

def pair? (a b : Char) : Option Char :=
  match hangulPair? a.toNat b.toNat with
  | some n => some (Char.ofNat n)
  | none =>
    let key : Int := a.toNat * pairShift + b.toNat
    (composites.find? (·.value == key)).map fun r => Char.ofNat r.first

/-- Takes a character apart; no character is nested more than four times. -/
def decomposeChar : (fuel : Nat) → Nat → List Char
  | 0, n => [Char.ofNat n]
  | fuel + 1, n => match parts? n with
    | some (a, b) => decomposeChar fuel a ++ decomposeChar fuel b
    | none => [Char.ofNat n]

/-- Moves a mark in front of the marks, nearest first, that belong behind it. -/
def insertMark (c : Char) : List Char → List Char
  | [] => [c]
  | d :: before =>
    if combiningClass c < combiningClass d then d :: insertMark c before else c :: d :: before

/-- The characters with each run of marks sorted by class. -/
def sortMarks (cs : List Char) : List Char :=
  (cs.foldl (fun done c =>
    if combiningClass c = 0 then c :: done else insertMark c done) []).reverse

def decompose (cs : List Char) : List Char := sortMarks (cs.flatMap fun c => decomposeChar 4 c.toNat)

/-- A text that is being put together: what is done, the last starter and the marks behind it,
nearest first. -/
structure Composing where
  done : List Char := []
  starter : Option Char := none
  marks : List Char := []

namespace Composing

/-- All of it, in reverse. -/
def flush (s : Composing) : List Char := s.marks ++ s.starter.toList ++ s.done

/-- Does a mark stand between the starter and the character that keeps them apart? -/
def blocked (s : Composing) (c : Char) : Bool :=
  match s.marks with
  | [] => false
  | m :: _ => combiningClass c ≤ combiningClass m

def push (s : Composing) (c : Char) : Composing :=
  let joined := if s.blocked c then none else s.starter.bind (pair? · c)
  match joined with
  | some d => { s with starter := some d }
  | none =>
    if combiningClass c = 0 then { done := s.flush, starter := some c }
    else { s with marks := c :: s.marks }

end Composing

def compose (cs : List Char) : List Char := (cs.foldl Composing.push {}).flush.reverse

def isComposed (cs : List Char) : Bool :=
  !cs.any (inRuns neverComposed) && compose (decompose cs) == cs

end Bearer.Text
