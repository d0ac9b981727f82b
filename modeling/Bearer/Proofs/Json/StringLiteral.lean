import Bearer.Json.Reader
import Bearer.Proofs.Text.CodePoint

/-!
String literals. `Spells` says which code points stand between two quotes, in every way in which JSON can
write them; a surrogate may stand alone. The reader takes each literal for what it spells
(`stringFrom_of_spells`). `Writes` are the literals in which none is alone.
-/

namespace Bearer.Json

def shortEscapes : List (Char × Char) := [
  ('"', '"'), ('\\', '\\'), ('/', '/'), ('b', '\x08'), ('f', '\x0c'), ('n', '\n'), ('r', '\r'), ('t', '\t')]

/-- A literal, without its quotes, and the text that it stands for; no surrogate stands alone in it. -/
inductive Writes : List Char → List Char → Prop
  | nil : Writes [] []
  | plain {c : Char} {body text : List Char} (quote : c ≠ '"') (slash : c ≠ '\\') (shown : 0x20 ≤ c.toNat)
    (rest : Writes body text) : Writes (c :: body) (c :: text)
  | short {mark c : Char} {body text : List Char} (known : (mark, c) ∈ shortEscapes)
    (rest : Writes body text) : Writes ('\\' :: mark :: body) (c :: text)
  | unit {a b c d : Char} {n : Nat} {body text : List Char} (unit : hexUnit? a b c d = some n)
    (notHigh : isHighSurrogate n = false) (notLow : isLowSurrogate n = false) (rest : Writes body text) :
    Writes ('\\' :: 'u' :: a :: b :: c :: d :: body) (Char.ofNat n :: text)
  | pair {a b c d a' b' c' d' : Char} {high low : Nat} {body text : List Char}
    (first : hexUnit? a b c d = some high) (isHigh : isHighSurrogate high = true)
    (second : hexUnit? a' b' c' d' = some low) (isLow : isLowSurrogate low = true)
    (rest : Writes body text) :
    Writes ('\\' :: 'u' :: a :: b :: c :: d :: '\\' :: 'u' :: a' :: b' :: c' :: d' :: body)
      (joinSurrogates high low :: text)

def isPlain (c : Char) : Bool := c != '"' && c != '\\' && 0x20 ≤ c.toNat

theorem writes_plain {text : List Char} (plain : text.all isPlain = true) : Writes text text := by
  induction text with
  | nil => exact .nil
  | cons c text ih =>
    rw [List.all_cons, Bool.and_eq_true] at plain
    obtain ⟨first, rest⟩ := plain
    simp only [isPlain, Bool.and_eq_true, bne_iff_ne, decide_eq_true_eq] at first
    obtain ⟨⟨quote, slash⟩, shown⟩ := first
    exact .plain quote slash shown (ih rest)

def StartsLow (cs : List Char) : Prop :=
  ∃ a b c d n more, cs = '\\' :: 'u' :: a :: b :: c :: d :: more ∧ hexUnit? a b c d = some n ∧
    isLowSurrogate n = true

inductive Spells : List Char → List CodePoint → Prop
  | nil : Spells [] []
  | plain {c : Char} {body : List Char} {ps : List CodePoint} (quote : c ≠ '"') (slash : c ≠ '\\')
    (shown : 0x20 ≤ c.toNat) (rest : Spells body ps) : Spells (c :: body) (.char c :: ps)
  | short {mark c : Char} {body : List Char} {ps : List CodePoint} (known : (mark, c) ∈ shortEscapes)
    (rest : Spells body ps) : Spells ('\\' :: mark :: body) (.char c :: ps)
  | unit {a b c d : Char} {n : Nat} {body : List Char} {ps : List CodePoint}
    (unit : hexUnit? a b c d = some n) (notHigh : isHighSurrogate n = false)
    (notLow : isLowSurrogate n = false) (rest : Spells body ps) :
    Spells ('\\' :: 'u' :: a :: b :: c :: d :: body) (.char (Char.ofNat n) :: ps)
  | pair {a b c d a' b' c' d' : Char} {high low : Nat} {body : List Char} {ps : List CodePoint}
    (first : hexUnit? a b c d = some high) (isHigh : isHighSurrogate high = true)
    (second : hexUnit? a' b' c' d' = some low) (isLow : isLowSurrogate low = true)
    (rest : Spells body ps) :
    Spells ('\\' :: 'u' :: a :: b :: c :: d :: '\\' :: 'u' :: a' :: b' :: c' :: d' :: body)
      (.char (joinSurrogates high low) :: ps)
  | low {a b c d : Char} {n : Nat} {body : List Char} {ps : List CodePoint}
    (unit : hexUnit? a b c d = some n) (isLow : isLowSurrogate n = true) (rest : Spells body ps) :
    Spells ('\\' :: 'u' :: a :: b :: c :: d :: body) (.ofSurrogate n :: ps)
  | high {a b c d : Char} {n : Nat} {body : List Char} {ps : List CodePoint}
    (unit : hexUnit? a b c d = some n) (isHigh : isHighSurrogate n = true) (alone : ¬ StartsLow body)
    (rest : Spells body ps) : Spells ('\\' :: 'u' :: a :: b :: c :: d :: body) (.ofSurrogate n :: ps)

theorem spells_of_writes {body text : List Char} (writes : Writes body text) :
    Spells body (text.map .char) := by
  induction writes with
  | nil => exact .nil
  | plain quote slash shown _ ih => exact .plain quote slash shown ih
  | short known _ ih => exact .short known ih
  | unit unit notHigh notLow _ ih => exact .unit unit notHigh notLow ih
  | pair first isHigh second isLow _ ih => exact .pair first isHigh second isLow ih

variable {start slash : List Char}

/-! ### Escapes -/

theorem not_low_of_high {n : Nat} (isHigh : isHighSurrogate n = true) : isLowSurrogate n = false := by
  simp only [isHighSurrogate, isLowSurrogate, Bool.and_eq_true, decide_eq_true_eq, Bool.and_eq_false_iff,
    decide_eq_false_iff_not] at isHigh ⊢
  omega

theorem not_high_of_low {n : Nat} (isLow : isLowSurrogate n = true) : isHighSurrogate n = false := by
  simp only [isHighSurrogate, isLowSurrogate, Bool.and_eq_true, decide_eq_true_eq, Bool.and_eq_false_iff,
    decide_eq_false_iff_not] at isLow ⊢
  omega

theorem escape_short {mark c : Char} (known : (mark, c) ∈ shortEscapes) (rest : List Char) :
    escape start slash (mark :: rest) = .ok (.char c, rest) := by
  simp only [shortEscapes, List.mem_cons, Prod.mk.injEq, List.not_mem_nil, or_false] at known
  rcases known with ⟨rfl, rfl⟩ | ⟨rfl, rfl⟩ | ⟨rfl, rfl⟩ | ⟨rfl, rfl⟩ | ⟨rfl, rfl⟩ | ⟨rfl, rfl⟩ |
    ⟨rfl, rfl⟩ | ⟨rfl, rfl⟩ <;> rfl

section

variable {a b c d : Char} {n : Nat} {rest : List Char} (unit : hexUnit? a b c d = some n) (some : rest ≠ [])
include unit some

theorem escape_unit (notHigh : isHighSurrogate n = false) (notLow : isLowSurrogate n = false) :
    escape start slash ('u' :: a :: b :: c :: d :: rest) = .ok (.char (Char.ofNat n), rest) := by
  obtain ⟨e, more, rfl⟩ := List.exists_cons_of_ne_nil some
  simp [escape, unit, notHigh, notLow]

theorem escape_low (isLow : isLowSurrogate n = true) :
    escape start slash ('u' :: a :: b :: c :: d :: rest) = .ok (.ofSurrogate n, rest) := by
  obtain ⟨e, more, rfl⟩ := List.exists_cons_of_ne_nil some
  simp [escape, unit, isLow, not_high_of_low isLow]

theorem escape_high (isHigh : isHighSurrogate n = true) :
    escape start slash ('u' :: a :: b :: c :: d :: rest) = lowHalf n rest := by
  obtain ⟨e, more, rfl⟩ := List.exists_cons_of_ne_nil some
  simp only [escape, unit, isHigh, if_true]

theorem lowHalf_unit (high : Nat) (isLow : isLowSurrogate n = true) :
    lowHalf high ('\\' :: 'u' :: a :: b :: c :: d :: rest) =
      .ok (.char (joinSurrogates high n), rest) := by
  obtain ⟨e, more, rfl⟩ := List.exists_cons_of_ne_nil some
  simp [lowHalf, unit, isLow]

theorem lowHalf_other (high : Nat) (notLow : isLowSurrogate n = false) :
    lowHalf high ('\\' :: 'u' :: a :: b :: c :: d :: rest) =
      .ok (.ofSurrogate high, '\\' :: 'u' :: a :: b :: c :: d :: rest) := by
  obtain ⟨e, more, rfl⟩ := List.exists_cons_of_ne_nil some
  simp [lowHalf, unit, notLow]

end

theorem escape_pair {a b c d a' b' c' d' : Char} {high low : Nat} {rest : List Char}
    (first : hexUnit? a b c d = some high) (isHigh : isHighSurrogate high = true)
    (second : hexUnit? a' b' c' d' = some low) (isLow : isLowSurrogate low = true) (more : rest ≠ []) :
    escape start slash ('u' :: a :: b :: c :: d :: '\\' :: 'u' :: a' :: b' :: c' :: d' :: rest) =
      .ok (.char (joinSurrogates high low), rest) :=
  (escape_high first (List.cons_ne_nil _ _) isHigh).trans (lowHalf_unit second more high isLow)

/-! ### Steps of the reader -/

section

variable {done : List CodePoint} {rest after : List Char}

theorem stringFrom_quote (h : ('"' :: rest).length < start.length) :
    stringFrom start done ('"' :: rest) h = .ok (.ofPoints done.reverse, ⟨rest, Nat.lt_of_succ_lt h⟩) := by
  rw [stringFrom, if_pos rfl]

theorem stringFrom_plain {c : Char} (quote : c ≠ '"') (slash : c ≠ '\\') (shown : 0x20 ≤ c.toNat)
    (h : (c :: rest).length < start.length) : stringFrom start done (c :: rest) h =
      stringFrom start (.char c :: done) rest (Nat.lt_of_succ_lt h) := by
  rw [stringFrom, if_neg quote, if_neg slash, if_neg (Nat.not_lt.2 shown)]

theorem stringFrom_escape {p : CodePoint}
    (known : escape start ('\\' :: rest) rest = .ok (p, after))
    (h : ('\\' :: rest).length < start.length) : ∃ h', stringFrom start done ('\\' :: rest) h =
      stringFrom start (p :: done) after h' := by
  have shorter := length_escape_le known
  refine ⟨by rw [List.length_cons] at h; omega, ?_⟩
  rw [stringFrom, if_neg (by decide), if_pos rfl]
  split
  next e failed => cases failed.symm.trans known
  next q after' found =>
    obtain ⟨rfl, rfl⟩ := Prod.mk.inj (Except.ok.inj (found.symm.trans known))
    rfl

end

/-! ### Literals -/

section

variable {body : List Char} {ps : List CodePoint}

/-- A high surrogate stays alone unless a low one stands behind it. -/
theorem lowHalf_alone (spells : Spells body ps) (alone : ¬ StartsLow body) (high : Nat) (cs : List Char) :
    lowHalf high (body ++ '"' :: cs) = .ok (.ofSurrogate high, body ++ '"' :: cs) := by
  have unescaped {cs : List Char} (unescaped : ∀ rest, cs ≠ '\\' :: 'u' :: rest) :
      lowHalf high cs = .ok (.ofSurrogate high, cs) := by
    unfold lowHalf
    split
    · exact absurd rfl (unescaped _)
    · rfl
  cases spells with
  | nil => exact unescaped fun rest same => by cases same
  | plain quote slash shown _ => exact unescaped fun rest same => slash (List.cons.inj same).1
  | short known _ =>
    refine unescaped fun rest same => ?_
    obtain ⟨rfl, -⟩ := List.cons.inj (List.cons.inj same).2
    simp [shortEscapes] at known
  | unit unit notHigh notLow _ => exact lowHalf_other unit (by simp) high notLow
  | pair first isHigh _ _ _ => exact lowHalf_other first (by simp) high (not_low_of_high isHigh)
  | low unit isLow _ => exact absurd ⟨_, _, _, _, _, _, rfl, unit, isLow⟩ alone
  | high unit isHigh _ _ => exact lowHalf_other unit (by simp) high (not_low_of_high isHigh)

/-- A literal and its closing quote are read as what the literal spells. -/
theorem stringFrom_of_spells (start : List Char) (spells : Spells body ps) (done : List CodePoint)
    (cs : List Char) (h : (body ++ '"' :: cs).length < start.length) : ∃ shorter,
      stringFrom start done (body ++ '"' :: cs) h = .ok (.ofPoints (done.reverse ++ ps), ⟨cs, shorter⟩) := by
  -- A code point that is read goes to those that are done, where it stands in front of the others.
  have step {p : CodePoint} {ps done : List CodePoint} : (p :: done).reverse ++ ps = done.reverse ++ p :: ps := by
    simp
  induction spells generalizing done with
  | nil =>
    rw [List.append_nil]
    exact ⟨Nat.lt_of_succ_lt h, stringFrom_quote h⟩
  | @plain c body ps quote slash shown _ ih =>
    obtain ⟨shorter, same⟩ := ih (.char c :: done) (Nat.lt_of_succ_lt h)
    exact ⟨shorter, (stringFrom_plain quote slash shown h).trans (same.trans (by rw [step]))⟩
  | @short mark c body ps known _ ih =>
    obtain ⟨h', read⟩ := stringFrom_escape (escape_short known (body ++ '"' :: cs)) h
    obtain ⟨shorter, same⟩ := ih (.char c :: done) h'
    exact ⟨shorter, read.trans (same.trans (by rw [step]))⟩
  | @unit a b c d n body ps unit notHigh notLow _ ih =>
    obtain ⟨h', read⟩ := stringFrom_escape
      (escape_unit unit (show body ++ '"' :: cs ≠ [] by simp) notHigh notLow) h
    obtain ⟨shorter, same⟩ := ih (.char (Char.ofNat n) :: done) h'
    exact ⟨shorter, read.trans (same.trans (by rw [step]))⟩
  | @pair a b c d a' b' c' d' high low body ps first isHigh second isLow _ ih =>
    obtain ⟨h', read⟩ := stringFrom_escape
      (escape_pair first isHigh second isLow (show body ++ '"' :: cs ≠ [] by simp)) h
    obtain ⟨shorter, same⟩ := ih (.char (joinSurrogates high low) :: done) h'
    exact ⟨shorter, read.trans (same.trans (by rw [step]))⟩
  | @low a b c d n body ps unit isLow _ ih =>
    have some : body ++ '"' :: cs ≠ [] := by simp
    obtain ⟨h', read⟩ := stringFrom_escape (escape_low unit some isLow) h
    obtain ⟨shorter, same⟩ := ih (.ofSurrogate n :: done) h'
    exact ⟨shorter, read.trans (same.trans (by rw [step]))⟩
  | @high a b c d n body ps unit isHigh alone spells ih =>
    have some : body ++ '"' :: cs ≠ [] := by simp
    obtain ⟨h', read⟩ := stringFrom_escape
      ((escape_high unit some isHigh).trans (lowHalf_alone spells alone n cs)) h
    obtain ⟨shorter, same⟩ := ih (.ofSurrogate n :: done) h'
    exact ⟨shorter, read.trans (same.trans (by rw [step]))⟩

/-- A literal from its opening quote on is read as what it spells. -/
theorem stringFrom_literal (spells : Spells body ps) (cs : List Char) : ∃ shorter,
    stringFrom ('"' :: (body ++ '"' :: cs)) [] (body ++ '"' :: cs) (Nat.lt_succ_self _) =
      .ok (.ofPoints ps, ⟨cs, shorter⟩) :=
  stringFrom_of_spells _ spells [] cs _

end

theorem stringFrom_of_writes (start : List Char) {body text : List Char} (writes : Writes body text)
    (cs : List Char) (h : (body ++ '"' :: cs).length < start.length) : ∃ shorter,
      stringFrom start [] (body ++ '"' :: cs) h = .ok (.whole (String.ofList text), ⟨cs, shorter⟩) := by
  have read := stringFrom_of_spells start (spells_of_writes writes) [] cs h
  rwa [List.reverse_nil, List.nil_append, RawText.ofPoints_chars] at read

end Bearer.Json
