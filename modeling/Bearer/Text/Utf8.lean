/-!
# UTF-8

`front` looks at one character of a byte string. What is malformed is taken away by maximal
subparts: the longest run of bytes that starts some character, or else one byte. `decode` refuses
the first malformed place and says where it is; `decodeLossy` puts `U+FFFD` in its place.
-/

namespace Bearer.Utf8

/-- Why bytes are no character. -/
inductive Reason where
  | invalidStart
  | invalidContinuation
  | unexpectedEnd
  deriving DecidableEq, Repr

/-- What the front of a byte string holds. -/
inductive Front where
  | done
  | char (c : Char) (rest : List UInt8)
  | malformed (reason : Reason) (length : Nat) (rest : List UInt8)

/-- What a first byte above 127 asks for: the bits it gives, the number of further bytes and the
range of the next one. -/
def lead? (b : UInt8) : Option (Nat × Nat × UInt8 × UInt8) :=
  let n := b.toNat
  if n < 0xc2 then none
  else if n < 0xe0 then some (n - 0xc0, 1, 0x80, 0xbf)
  else if n < 0xf0 then
    some (n - 0xe0, 2, if n = 0xe0 then 0xa0 else 0x80, if n = 0xed then 0x9f else 0xbf)
  else if n < 0xf5 then
    some (n - 0xf0, 3, if n = 0xf0 then 0x90 else 0x80, if n = 0xf4 then 0x8f else 0xbf)
  else none

/-- The `owed` bytes that complete a character, the next one between `low` and `high`. -/
def follow (value taken : Nat) : (owed : Nat) → (low high : UInt8) → List UInt8 → Front
  | 0, _, _, rest => .char (Char.ofNat value) rest
  | _ + 1, _, _, [] => .malformed .unexpectedEnd taken []
  | owed + 1, low, high, b :: rest =>
    if low ≤ b ∧ b ≤ high then
      follow (value * 64 + (b.toNat - 0x80)) (taken + 1) owed 0x80 0xbf rest
    else .malformed .invalidContinuation taken (b :: rest)

/-- One character, or what stands in its place. -/
def front : List UInt8 → Front
  | [] => .done
  | b :: rest =>
    if b < 0x80 then .char (Char.ofNat b.toNat) rest
    else match lead? b with
      | none => .malformed .invalidStart 1 rest
      | some (bits, owed, low, high) => follow bits 1 owed low high rest

/-- The bytes behind what `front` looked at. -/
def Front.rest : Front → List UInt8
  | .done => []
  | .char _ r => r
  | .malformed _ _ r => r

theorem rest_follow_le (value taken owed : Nat) (low high : UInt8) (bs : List UInt8) :
    (follow value taken owed low high bs).rest.length ≤ bs.length := by
  induction owed generalizing value taken low high bs with
  | zero => simp [follow, Front.rest]
  | succ owed ih =>
    cases bs with
    | nil => simp [follow, Front.rest]
    | cons b bs =>
      simp only [follow]
      split
      · exact Nat.le_succ_of_le (ih ..)
      · simp [Front.rest]

theorem rest_front_lt (b : UInt8) (bs : List UInt8) :
    (front (b :: bs)).rest.length < (b :: bs).length := by
  simp only [front]
  split
  · simp [Front.rest]
  · split
    · simp [Front.rest]
    · exact Nat.lt_succ_of_le (rest_follow_le ..)

theorem rest_lt_of_char {bs rest : List UInt8} {c : Char} (h : front bs = .char c rest) :
    rest.length < bs.length := by
  cases bs with
  | nil => simp [front] at h
  | cons b bs => simpa [h, Front.rest] using rest_front_lt b bs

theorem rest_lt_of_malformed {bs rest : List UInt8} {reason : Reason} {n : Nat}
    (h : front bs = .malformed reason n rest) : rest.length < bs.length := by
  cases bs with
  | nil => simp [front] at h
  | cons b bs => simpa [h, Front.rest] using rest_front_lt b bs

/-- The first malformed place: its bytes, where they start and what is wrong with them. -/
structure Error where
  reason : Reason
  start : Nat
  bytes : List UInt8
  deriving DecidableEq, Repr

/-- Decodes from `position` on, `done` being the characters so far, last one first. -/
def decodeFrom (position : Nat) (done : List Char) (bs : List UInt8) :
    Except Error (List Char) :=
  match h : front bs with
  | .done => .ok done.reverse
  | .char c rest =>
    have := rest_lt_of_char h
    decodeFrom (position + c.utf8Size) (c :: done) rest
  | .malformed reason n _ => .error { reason, start := position, bytes := bs.take n }
termination_by bs.length

def decode (bs : List UInt8) : Except Error (List Char) := decodeFrom 0 [] bs

/-- Decodes the rest, `done` being the characters so far, last one first. -/
def decodeLossyFrom (done : List Char) (bs : List UInt8) : List Char :=
  match h : front bs with
  | .done => done.reverse
  | .char c rest =>
    have := rest_lt_of_char h
    decodeLossyFrom (c :: done) rest
  | .malformed _ _ rest =>
    have := rest_lt_of_malformed h
    decodeLossyFrom (Char.ofNat 0xfffd :: done) rest
termination_by bs.length

/-- The characters that the bytes write, `U+FFFD` for each malformed place. -/
def decodeLossy (bs : List UInt8) : List Char := decodeLossyFrom [] bs

def encodeChar (c : Char) : List UInt8 :=
  let n := c.toNat
  let tail (n : Nat) : UInt8 := (0x80 + n % 64).toUInt8
  if n < 0x80 then [n.toUInt8]
  else if n < 0x800 then [(0xc0 + n / 64).toUInt8, tail n]
  else if n < 0x10000 then [(0xe0 + n / 4096).toUInt8, tail (n / 64), tail n]
  else [(0xf0 + n / 262144).toUInt8, tail (n / 4096), tail (n / 64), tail n]

def encode (cs : List Char) : List UInt8 := cs.flatMap encodeChar

def Reason.text : Reason → String
  | .invalidStart => "invalid start byte"
  | .invalidContinuation => "invalid continuation byte"
  | .unexpectedEnd => "unexpected end of data"

/-- Which bytes, where, and why. -/
def Error.text (e : Error) : String :=
  let place := match e.bytes with
    | [b] =>
      let ds := String.ofList (Nat.toDigits 16 b.toNat)
      "byte 0x" ++ "".pushn '0' (2 - ds.length) ++ ds ++ " in position " ++ toString e.start
    | bs => "bytes in position " ++ toString e.start ++ "-" ++ toString (e.start + bs.length - 1)
  "'utf-8' codec can't decode " ++ place ++ ": " ++ e.reason.text

end Bearer.Utf8
