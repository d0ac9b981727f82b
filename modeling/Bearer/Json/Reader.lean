import Bearer.Json.Basic
import Bearer.Number.Integer
import Bearer.Text.Hex

/-!
# Reading JSON

The grammar is RFC 8259's with `NaN`, `Infinity` and `-Infinity` as further numbers. Whatever
stops the reader is reported by the text that was left: its place is the length of the whole text
minus the length of the rest. Integers have at most `maxDigits` digits, and how deep containers may nest is
given: that depends on who reads.
-/

namespace Bearer.Json

inductive Problem where
  | byteOrderMark
  | expectingValue
  | expectingName
  | expectingColon
  | expectingComma
  | extraData
  | unterminated
  | controlCharacter
  | badEscape
  | badUnicodeEscape
  deriving DecidableEq, Repr

inductive Container where
  | array
  | object
  deriving DecidableEq, Repr

/-- Why reading stopped: a problem in front of a rest of the text, an integer with too many digits,
or a container inside too many others. -/
inductive Stop where
  | here (what : Problem) (rest : List Char)
  | tooManyDigits (count : Nat)
  | tooDeep (container : Container)
  deriving DecidableEq, Repr

/-- The outcome of reading from `cs` on: a value and the shorter rest. -/
abbrev From (cs : List Char) (α : Type) :=
  Except Stop (α × { rest : List Char // rest.length < cs.length })

def isBlank (c : Char) : Bool := c == ' ' || c == '\t' || c == '\n' || c == '\r'

def skipBlanks (cs : List Char) : List Char := cs.dropWhile isBlank

theorem length_skipBlanks_le (cs : List Char) : (skipBlanks cs).length ≤ cs.length :=
  (List.dropWhile_sublist _).length_le

theorem length_lt_of_skipBlanks {cs rest : List Char} {c : Char} (h : skipBlanks cs = c :: rest) :
    rest.length < cs.length := by
  have := length_skipBlanks_le cs
  rw [h] at this
  exact this

/-! ### Strings -/

def hexUnit? (a b c d : Char) : Option Nat := do
  let w ← Text.hexValue? a
  let x ← Text.hexValue? b
  let y ← Text.hexValue? c
  let z ← Text.hexValue? d
  return ((w * 16 + x) * 16 + y) * 16 + z

def isHighSurrogate (n : Nat) : Bool := 0xd800 ≤ n && n < 0xdc00

def isLowSurrogate (n : Nat) : Bool := 0xdc00 ≤ n && n < 0xe000

def joinSurrogates (high low : Nat) : Char :=
  Char.ofNat (0x10000 + (high - 0xd800) * 0x400 + (low - 0xdc00))

/-- What a high half makes with the escape that `rest` may start with: a character if that is a low half, or
else it stays alone. An escape counts only if a character stands behind it. -/
def lowHalf (high : Nat) (rest : List Char) : Except Stop (CodePoint × List Char) :=
  match rest with
  | '\\' :: 'u' :: a :: b :: c :: d :: e :: more =>
    match hexUnit? a b c d with
    | some low =>
      if isLowSurrogate low then .ok (.char (joinSurrogates high low), e :: more)
      else .ok (.ofSurrogate high, rest)
    | none => .error (.here .badUnicodeEscape ('u' :: a :: b :: c :: d :: e :: more))
  | _ => .ok (.ofSurrogate high, rest)

/-- An escape behind its backslash. `start` is the text from the opening quote on, `slash` from the backslash
on. -/
def escape (start slash : List Char) : List Char → Except Stop (CodePoint × List Char)
  | [] => .error (.here .unterminated start)
  | '"' :: rest => .ok (.char '"', rest)
  | '\\' :: rest => .ok (.char '\\', rest)
  | '/' :: rest => .ok (.char '/', rest)
  | 'b' :: rest => .ok (.char '\x08', rest)
  | 'f' :: rest => .ok (.char '\x0c', rest)
  | 'n' :: rest => .ok (.char '\n', rest)
  | 'r' :: rest => .ok (.char '\r', rest)
  | 't' :: rest => .ok (.char '\t', rest)
  | 'u' :: a :: b :: c :: d :: e :: rest =>
    match hexUnit? a b c d with
    | some n =>
      if isHighSurrogate n then lowHalf n (e :: rest)
      else if isLowSurrogate n then .ok (.ofSurrogate n, e :: rest)
      else .ok (.char (Char.ofNat n), e :: rest)
    | none => .error (.here .badUnicodeEscape ('u' :: a :: b :: c :: d :: e :: rest))
  | 'u' :: rest => .error (.here .badUnicodeEscape ('u' :: rest))
  | _ :: _ => .error (.here .badEscape slash)

theorem length_lowHalf_le {high : Nat} {rest after : List Char} {p : CodePoint}
    (h : lowHalf high rest = .ok (p, after)) : after.length ≤ rest.length := by
  unfold lowHalf at h
  split at h
  · split at h
    · split at h <;> simp only [Except.ok.injEq, Prod.mk.injEq] at h <;> obtain ⟨-, rfl⟩ := h <;>
        simp
    · simp at h
  · simp only [Except.ok.injEq, Prod.mk.injEq] at h
    simp [h.2]

theorem length_escape_le {start slash cs after : List Char} {p : CodePoint}
    (h : escape start slash cs = .ok (p, after)) : after.length ≤ cs.length := by
  unfold escape at h
  split at h
  case h_10 =>
    split at h
    · split at h
      · have := length_lowHalf_le h
        simp at this ⊢
        omega
      · split at h <;> simp only [Except.ok.injEq, Prod.mk.injEq] at h <;> obtain ⟨-, rfl⟩ := h <;>
          simp
    · simp at h
  all_goals first
    | (simp only [Except.ok.injEq, Prod.mk.injEq] at h; obtain ⟨-, rfl⟩ := h; simp)
    | simp at h

/-- A string, of which `cs` is left to read. `start` is the text from the opening quote on, and `done` holds
the code points so far, last one first. -/
def stringFrom (start : List Char) (done : List CodePoint) (cs : List Char)
    (h : cs.length < start.length) : From start RawText :=
  match cs with
  | [] => .error (.here .unterminated start)
  | c :: rest =>
    have hrest : rest.length < start.length := Nat.lt_of_succ_lt h
    if c = '"' then .ok (.ofPoints done.reverse, ⟨rest, hrest⟩)
    else if c = '\\' then
      match he : escape start (c :: rest) rest with
      | .error e => .error e
      | .ok (p, after) =>
        have := length_escape_le he
        stringFrom start (p :: done) after (Nat.lt_of_le_of_lt this hrest)
    else if c.toNat < 0x20 then .error (.here .controlCharacter (c :: rest))
    else stringFrom start (.char c :: done) rest hrest
termination_by cs.length
decreasing_by
  · exact Nat.lt_succ_of_le this
  · exact Nat.lt_succ_self _

/-! ### Numbers and words -/

def digits (cs : List Char) : List Char × List Char :=
  (cs.takeWhile Char.isDigit, cs.dropWhile Char.isDigit)

/-- A point and digits behind it, if both are there. -/
def fraction (cs : List Char) : List Char × List Char :=
  match cs with
  | '.' :: rest =>
    match digits rest with
    | ([], _) => ([], cs)
    | found => found
  | _ => ([], cs)

/-- An exponent mark, a sign, if any, and digits, if the digits are there. -/
def exponent (cs : List Char) : Option Int × List Char :=
  match cs with
  | e :: rest =>
    if e = 'e' ∨ e = 'E' then
      let (negative, body) := takeSign rest
      match digits body with
      | ([], _) => (none, cs)
      | (ds, after) => (some (signedInt negative (ofDigits ds)), after)
    else (none, cs)
  | [] => (none, cs)

/-- The whole part of a number: one zero, or digits that do not start with one. -/
def wholePart? : List Char → Option (List Char × List Char)
  | '0' :: rest => some (['0'], rest)
  | c :: rest => if c.isDigit then some (digits (c :: rest)) else none
  | [] => none

/-- A minus sign in front, if there is one, and what follows it. -/
def takeMinus : List Char → Bool × List Char
  | '-' :: rest => (true, rest)
  | cs => (false, cs)

def number? (cs : List Char) : Option (Except Stop Value × List Char) := do
  let (negative, body) := takeMinus cs
  let (whole, rest) ← wholePart? body
  let (part, rest) := fraction rest
  let (power, rest) := exponent rest
  if part.isEmpty && power.isNone then
    if maxDigits < whole.length then return (.error (.tooManyDigits whole.length), rest)
    else return (.ok (.int (signedInt negative (ofDigits whole))), rest)
  else
    let e := power.getD 0 - part.length
    return (.ok (.double (Double.ofDecimal negative (ofDigits (whole ++ part)) e)), rest)

/-- The text behind a word that it starts with. -/
def after? (word : List Char) (cs : List Char) : Option (List Char) :=
  if word.isPrefixOf cs then some (cs.drop word.length) else none

/-- The words that are values. -/
def namedValues : List (String × Value) := [
  ("null", .null), ("true", .bool true), ("false", .bool false), ("NaN", .double .nan),
  ("Infinity", .double (.infinite false)), ("-Infinity", .double (.infinite true))]

/-- A value that starts with no bracket and no quote. -/
def scalar (cs : List Char) : Except Stop (Value × List Char) :=
  match namedValues.findSome? fun (word, v) => (after? word.toList cs).map (v, ·) with
  | some found => .ok found
  | none => match number? cs with
    | some (.ok v, rest) => .ok (v, rest)
    | some (.error e, _) => .error e
    | none => .error (.here .expectingValue cs)

theorem length_digits_le (cs : List Char) : (digits cs).2.length ≤ cs.length :=
  (List.dropWhile_sublist _).length_le

theorem length_takeSign_le (cs : List Char) : (takeSign cs).2.length ≤ cs.length := by
  unfold takeSign
  split <;> simp

theorem length_takeMinus_le (cs : List Char) : (takeMinus cs).2.length ≤ cs.length := by
  unfold takeMinus
  split <;> simp

theorem length_fraction_le (cs : List Char) : (fraction cs).2.length ≤ cs.length := by
  unfold fraction
  split
  next rest =>
    have := length_digits_le rest
    split
    · exact Nat.le_refl _
    · exact Nat.le_succ_of_le this
  · exact Nat.le_refl _

theorem length_exponent_le (cs : List Char) : (exponent cs).2.length ≤ cs.length := by
  unfold exponent
  split
  next e rest =>
    have hsign := length_takeSign_le rest
    have hdigits := length_digits_le (takeSign rest).2
    split
    · dsimp only
      split
      · exact Nat.le_refl _
      next after h =>
        simp only [h, List.length_cons] at hdigits ⊢
        omega
    · exact Nat.le_refl _
  · exact Nat.le_refl _

theorem length_wholePart_lt {cs whole rest : List Char} (h : wholePart? cs = some (whole, rest)) :
    rest.length < cs.length := by
  unfold wholePart? at h
  split at h
  · grind
  next c tail _ =>
    split at h
    next hc =>
      have := length_digits_le tail
      simp only [digits, List.dropWhile_cons, hc, if_true, Option.some.injEq, Prod.mk.injEq] at h this
      rw [← h.2]
      exact Nat.lt_succ_of_le this
    · simp at h
  · simp at h

theorem length_number_lt {cs rest : List Char} {v : Except Stop Value}
    (h : number? cs = some (v, rest)) : rest.length < cs.length := by
  simp only [number?, Option.bind_eq_bind, Option.bind_eq_some_iff] at h
  obtain ⟨⟨whole, front⟩, hwhole, h⟩ := h
  have hbody := length_takeMinus_le cs
  have hfront := length_wholePart_lt hwhole
  have hpart := length_fraction_le front
  have hpower := length_exponent_le (fraction front).2
  have : rest = (exponent (fraction front).2).2 := by
    dsimp only at h
    split at h
    · split at h <;> exact (Prod.mk.inj (Option.some.inj h)).2.symm
    · exact (Prod.mk.inj (Option.some.inj h)).2.symm
  rw [this]
  omega

theorem length_after_lt {word cs rest : List Char} (hword : word ≠ [])
    (h : after? word cs = some rest) : rest.length < cs.length := by
  unfold after? at h
  split at h
  next hw =>
    have := (List.isPrefixOf_iff_prefix.1 hw).length_le
    have := List.length_pos_iff.2 hword
    obtain rfl := Option.some.inj h
    rw [List.length_drop]
    omega
  · simp at h

theorem length_scalar_lt {cs rest : List Char} {v : Value} (h : scalar cs = .ok (v, rest)) :
    rest.length < cs.length := by
  unfold scalar at h
  split at h
  next found hfound =>
    obtain ⟨⟨word, w⟩, hmem, hw⟩ := List.exists_of_findSome?_eq_some hfound
    obtain ⟨after, hafter, rfl⟩ := Option.map_eq_some_iff.1 hw
    obtain ⟨rfl, rfl⟩ := Prod.mk.inj (Except.ok.inj h)
    have hword : ∀ p ∈ namedValues, p.1.toList ≠ [] := by decide
    exact length_after_lt (hword _ hmem) hafter
  · split at h
    next hnumber =>
      obtain ⟨rfl, rfl⟩ := Prod.mk.inj (Except.ok.inj h)
      exact length_number_lt hnumber
    · simp at h
    · simp at h

/-- `scalar` with a shorter rest. -/
def scalarFrom (cs : List Char) : From cs Value :=
  match h : scalar cs with
  | .error e => .error e
  | .ok (v, rest) => .ok (v, ⟨rest, length_scalar_lt h⟩)

/-! ### Containers -/

/-- The items of a container that begins at `start`, from the first or the next one on, `item` reading
one. Commas stand between them and `close` behind the last. -/
def itemsFrom (close : Char) (item : (cs : List Char) → From cs α) (start : List Char)
    (done : List α) (cs : List Char) (h : cs.length < start.length) : From start (List α) :=
  match item cs with
  | .error e => .error e
  | .ok (x, ⟨rest, hrest⟩) =>
    match hs : skipBlanks rest with
    | [] => .error (.here .expectingComma [])
    | c :: after =>
      have hafter := length_lt_of_skipBlanks hs
      if c = close then .ok ((x :: done).reverse, ⟨after, by omega⟩)
      else if c = ',' then
        have hnext := length_skipBlanks_le after
        itemsFrom close item start (x :: done) (skipBlanks after) (by omega)
      else .error (.here .expectingComma (c :: after))
termination_by cs.length
decreasing_by omega

/-- A name and a value, which `item` reads. -/
def memberFrom (item : (cs : List Char) → From cs Value) (cs : List Char) :
    From cs (RawText × Value) :=
  match cs with
  | '"' :: rest =>
    match stringFrom ('"' :: rest) [] rest (Nat.lt_succ_self _) with
    | .error e => .error e
    | .ok (name, ⟨afterName, hname⟩) =>
      match hs : skipBlanks afterName with
      | ':' :: afterColon =>
        have hcolon := length_lt_of_skipBlanks hs
        have hbehind := length_skipBlanks_le afterColon
        match item (skipBlanks afterColon) with
        | .error e => .error e
        | .ok (v, ⟨after, hafter⟩) => .ok ((name, v), ⟨after, by omega⟩)
      | other => .error (.here .expectingColon other)
  | _ => .error (.here .expectingName cs)

/-- A value, inside at most `depth` further containers. -/
def valueFrom (depth : Nat) (cs : List Char) : From cs Value :=
  match cs with
  | '"' :: rest =>
    match stringFrom ('"' :: rest) [] rest (Nat.lt_succ_self _) with
    | .error e => .error e
    | .ok (t, after) => .ok (.str t, after)
  | '[' :: rest =>
    match depth with
    | 0 => .error (.tooDeep .array)
    | depth + 1 =>
      match hs : skipBlanks rest with
      | ']' :: after => .ok (.arr [], ⟨after, Nat.lt_succ_of_lt (length_lt_of_skipBlanks hs)⟩)
      | first =>
        have hfirst := Nat.lt_succ_of_le (hs ▸ length_skipBlanks_le rest)
        match itemsFrom ']' (valueFrom depth) ('[' :: rest) [] first hfirst with
        | .error e => .error e
        | .ok (vs, after) => .ok (.arr vs, after)
  | '{' :: rest =>
    match depth with
    | 0 => .error (.tooDeep .object)
    | depth + 1 =>
      match hs : skipBlanks rest with
      | '}' :: after => .ok (.obj [], ⟨after, Nat.lt_succ_of_lt (length_lt_of_skipBlanks hs)⟩)
      | first =>
        have hfirst := Nat.lt_succ_of_le (hs ▸ length_skipBlanks_le rest)
        match itemsFrom '}' (memberFrom (valueFrom depth)) ('{' :: rest) [] first hfirst with
        | .error e => .error e
        | .ok (ms, after) => .ok (.obj ms, after)
  | cs => scalarFrom cs

/-! ### Whole texts -/

inductive Error where
  | malformed (what : Problem) (line column position : Nat)
  | tooManyDigits (count : Nat)
  | tooDeep (container : Container)
  deriving DecidableEq, Repr

/-- The place in front of `rest`, which ends `text`: its line, column and position. Lines are
counted from one, columns from the last line break. -/
def Error.at (what : Problem) (text rest : List Char) : Error :=
  let position := text.length - rest.length
  let front := text.take position
  let line := front.count '\n' + 1
  let column := (front.reverse.takeWhile (· != '\n')).length + 1
  .malformed what line column position

def Stop.error (text : List Char) : Stop → Error
  | .here what rest => .at what text rest
  | .tooManyDigits n => .tooManyDigits n
  | .tooDeep c => .tooDeep c

/-- The value that a text writes, its containers nested at most `depth` deep. -/
def read (depth : Nat) (text : List Char) : Except Error Value :=
  match text with
  | '\ufeff' :: _ => .error (.at .byteOrderMark text text)
  | _ => match valueFrom depth (skipBlanks text) with
    | .error e => .error (e.error text)
    | .ok (v, ⟨rest, _⟩) => match skipBlanks rest with
      | [] => .ok v
      | extra => .error (.at .extraData text extra)

def Problem.text : Problem → String
  | .byteOrderMark => "Unexpected UTF-8 BOM (decode using utf-8-sig)"
  | .expectingValue => "Expecting value"
  | .expectingName => "Expecting property name enclosed in double quotes"
  | .expectingColon => "Expecting ':' delimiter"
  | .expectingComma => "Expecting ',' delimiter"
  | .extraData => "Extra data"
  | .unterminated => "Unterminated string starting at"
  | .controlCharacter => "Invalid control character at"
  | .badEscape => "Invalid \\escape"
  | .badUnicodeEscape => "Invalid \\uXXXX escape"

def Container.text : Container → String
  | .array => "array"
  | .object => "object"

def Error.text : Error → String
  | .malformed what line column position =>
    what.text ++ ": line " ++ toString line ++ " column " ++ toString column ++ " (char "
      ++ toString position ++ ")"
  | .tooManyDigits n =>
    "Exceeds the limit (" ++ toString maxDigits ++ " digits) for integer string conversion: value has "
      ++ toString n ++ " digits; use sys.set_int_max_str_digits() to increase the limit"
  | .tooDeep c =>
    "maximum recursion depth exceeded while decoding a JSON " ++ c.text ++ " from a unicode string"

end Bearer.Json
