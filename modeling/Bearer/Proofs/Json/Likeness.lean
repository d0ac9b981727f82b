import Mathlib.Data.List.Forall2
import Bearer.Proofs.Except
import Bearer.Proofs.Json
import Bearer.Proofs.Json.StringLiteral

/-!
Texts that differ in what stands between quotes. The reader goes through two such texts in step: outside
strings it sees the same characters, and a string it leaves behind its closing quote, whatever the string
says. So it reads values of the same shape from both or stops for the same reason (`read_alike`).
-/

namespace Bearer.Json

/-! ### Texts -/

/-- The same text, but for what its string literals say; a literal in front of a colon says the same. -/
inductive Alike : List Char → List Char → Prop
  | nil : Alike [] []
  | other {c : Char} {cs cs' : List Char} (other : c ≠ '"') (rest : Alike cs cs') : Alike (c :: cs) (c :: cs')
  | string {body body' text text' cs cs' : List Char} (writes : Writes body text) (writes' : Writes body' text')
    (name : (skipBlanks cs).head? = some ':' → body' = body) (rest : Alike cs cs') :
    Alike ('"' :: (body ++ '"' :: cs)) ('"' :: (body' ++ '"' :: cs'))

variable {cs cs' : List Char}

theorem alike_of_unquoted (unquoted : '"' ∉ cs) : Alike cs cs := by
  induction cs with
  | nil => exact .nil
  | cons c cs ih =>
    obtain ⟨other, rest⟩ := List.ne_and_not_mem_of_not_mem_cons unquoted
    exact .other (Ne.symm other) (ih rest)

theorem Alike.of_nil (h : Alike [] cs') : cs' = [] := by
  cases h
  rfl

theorem Alike.of_cons {c : Char} (other : c ≠ '"') (h : Alike (c :: cs) cs') :
    ∃ ds, cs' = c :: ds ∧ Alike cs ds := by
  cases h with
  | other _ rest => exact ⟨_, rfl, rest⟩
  | string => exact absurd rfl other

theorem Alike.of_quote (h : Alike ('"' :: cs) cs') : ∃ ds, cs' = '"' :: ds := by
  cases h with
  | other other => exact absurd rfl other
  | string => exact ⟨_, rfl⟩

theorem Alike.head? (h : Alike cs cs') : cs'.head? = cs.head? := by
  cases h <;> rfl

/-- What a scan for characters other than quotes takes is the same. -/
theorem Alike.scan {P : Char → Bool} (quote : P '"' = false) (h : Alike cs cs') :
    cs'.takeWhile P = cs.takeWhile P ∧ Alike (cs.dropWhile P) (cs'.dropWhile P) := by
  induction h with
  | nil => exact ⟨rfl, .nil⟩
  | @other c cs cs' other rest ih =>
    cases taken : P c with
    | true =>
      simp only [List.takeWhile_cons, List.dropWhile_cons, taken, if_true, ih.1]
      exact ⟨trivial, ih.2⟩
    | false =>
      simp only [List.takeWhile_cons, List.dropWhile_cons, taken, Bool.false_eq_true, if_false]
      exact ⟨trivial, .other other rest⟩
  | string writes writes' name rest =>
    simp only [List.takeWhile_cons, List.dropWhile_cons, quote, Bool.false_eq_true, if_false]
    exact ⟨trivial, .string writes writes' name rest⟩

theorem Alike.skipBlanks (h : Alike cs cs') : Alike (skipBlanks cs) (skipBlanks cs') := (h.scan rfl).2

/-! ### Numbers and words -/

theorem digits_alike (h : Alike cs cs') :
    (digits cs').1 = (digits cs).1 ∧ Alike (digits cs).2 (digits cs').2 := h.scan rfl

theorem fraction_point (rest : List Char) : fraction ('.' :: rest) =
    if (digits rest).1 = [] then ([], '.' :: rest) else digits rest := by
  rw [fraction]
  cases found : digits rest with
  | mk part after => cases part <;> simp

theorem fraction_other {c : Char} (point : c ≠ '.') (rest : List Char) :
    fraction (c :: rest) = ([], c :: rest) := by
  unfold fraction
  split
  next same => exact absurd (List.cons.inj same).1 point
  next => rfl

theorem fraction_alike (h : Alike cs cs') :
    (fraction cs').1 = (fraction cs).1 ∧ Alike (fraction cs).2 (fraction cs').2 := by
  cases h with
  | nil => exact ⟨rfl, .nil⟩
  | string writes writes' name rest => exact ⟨rfl, .string writes writes' name rest⟩
  | @other c cs cs' other rest =>
    by_cases point : c = '.'
    · subst point
      obtain ⟨same, left⟩ := digits_alike rest
      rw [fraction_point, fraction_point, same]
      split
      · exact ⟨rfl, .other other rest⟩
      · exact ⟨same, left⟩
    · rw [fraction_other point, fraction_other point]
      exact ⟨rfl, .other other rest⟩

theorem takeSign_other {c : Char} (minus : c ≠ '-') (plus : c ≠ '+') (rest : List Char) :
    takeSign (c :: rest) = (false, c :: rest) := by
  unfold takeSign
  split
  next same => exact absurd (List.cons.inj same).1 minus
  next same => exact absurd (List.cons.inj same).1 plus
  next => rfl

theorem takeSign_alike (h : Alike cs cs') :
    (takeSign cs').1 = (takeSign cs).1 ∧ Alike (takeSign cs).2 (takeSign cs').2 := by
  cases h with
  | nil => exact ⟨rfl, .nil⟩
  | string writes writes' name rest => exact ⟨rfl, .string writes writes' name rest⟩
  | @other c cs cs' other rest =>
    by_cases minus : c = '-'
    · subst minus
      exact ⟨rfl, rest⟩
    · by_cases plus : c = '+'
      · subst plus
        exact ⟨rfl, rest⟩
      · rw [takeSign_other minus plus, takeSign_other minus plus]
        exact ⟨rfl, .other other rest⟩

theorem exponent_cons (e : Char) (rest : List Char) : exponent (e :: rest) =
    if (e = 'e' ∨ e = 'E') ∧ (digits (takeSign rest).2).1 ≠ [] then
      (some (signedInt (takeSign rest).1 (ofDigits (digits (takeSign rest).2).1)), (digits (takeSign rest).2).2)
    else (none, e :: rest) := by
  rw [exponent]
  by_cases mark : e = 'e' ∨ e = 'E'
  · rw [if_pos mark]
    dsimp only
    cases digits (takeSign rest).2 with
    | mk ds after => cases ds <;> simp [mark]
  · rw [if_neg mark, if_neg fun both => mark both.1]

theorem exponent_alike (h : Alike cs cs') :
    (exponent cs').1 = (exponent cs).1 ∧ Alike (exponent cs).2 (exponent cs').2 := by
  cases h with
  | nil => exact ⟨rfl, .nil⟩
  | string writes writes' name rest => exact ⟨rfl, .string writes writes' name rest⟩
  | @other c cs cs' other rest =>
    obtain ⟨sign, body⟩ := takeSign_alike rest
    obtain ⟨same, left⟩ := digits_alike body
    rw [exponent_cons, exponent_cons, sign, same]
    split
    · exact ⟨rfl, left⟩
    · exact ⟨rfl, .other other rest⟩

theorem takeMinus_alike (h : Alike cs cs') :
    (takeMinus cs').1 = (takeMinus cs).1 ∧ Alike (takeMinus cs).2 (takeMinus cs').2 := by
  cases h with
  | nil => exact ⟨rfl, .nil⟩
  | string writes writes' name rest => exact ⟨rfl, .string writes writes' name rest⟩
  | @other c cs cs' other rest =>
    by_cases minus : c = '-'
    · subst minus
      exact ⟨rfl, rest⟩
    · have own (rest : List Char) : takeMinus (c :: rest) = (false, c :: rest) := by
        unfold takeMinus
        split
        next same => exact absurd (List.cons.inj same).1 minus
        next => rfl
      rw [own, own]
      exact ⟨rfl, .other other rest⟩

def Scanned (x y : α × List Char) : Prop := y.1 = x.1 ∧ Alike x.2 y.2

theorem wholePart_alike (h : Alike cs cs') : Option.Rel Scanned (wholePart? cs) (wholePart? cs') := by
  have whole := h
  cases h with
  | nil => exact .none
  | string => exact .none
  | @other c cs cs' other rest =>
    by_cases zero : c = '0'
    · subst zero
      exact .some ⟨rfl, rest⟩
    · have own (rest : List Char) : wholePart? (c :: rest) =
          if c.isDigit then some (digits (c :: rest)) else none := by
        unfold wholePart?
        split
        next same => exact absurd (List.cons.inj same).1 zero
        next same =>
          obtain ⟨rfl, rfl⟩ := List.cons.inj same
          rfl
        next none => cases none
      rw [own, own]
      split
      · exact .some (digits_alike whole)
      · exact .none

def numberOf (negative : Bool) (whole part : List Char) (power : Option Int) : Except Stop Value :=
  if part.isEmpty && power.isNone then
    if maxDigits < whole.length then .error (.tooManyDigits whole.length)
    else .ok (.int (signedInt negative (ofDigits whole)))
  else .ok (.double (Double.ofDecimal negative (ofDigits (whole ++ part)) (power.getD 0 - part.length)))

theorem number?_eq (cs : List Char) : number? cs = (wholePart? (takeMinus cs).2).map fun found =>
    (numberOf (takeMinus cs).1 found.1 (fraction found.2).1 (exponent (fraction found.2).2).1,
      (exponent (fraction found.2).2).2) := by
  unfold number? numberOf
  simp only [Option.bind_eq_bind]
  cases wholePart? (takeMinus cs).2 with
  | none => rfl
  | some found =>
    simp only [Option.bind_some, Option.map_some]
    split
    · split <;> rfl
    · rfl

theorem number_alike (h : Alike cs cs') : Option.Rel Scanned (number? cs) (number? cs') := by
  obtain ⟨minus, body⟩ := takeMinus_alike h
  have found := wholePart_alike body
  rw [number?_eq, number?_eq, minus]
  generalize wholePart? (takeMinus cs).2 = x, wholePart? (takeMinus cs').2 = y at found
  cases found with
  | none => exact .none
  | some found =>
    obtain ⟨part, rest⟩ := fraction_alike found.2
    obtain ⟨power, left⟩ := exponent_alike rest
    refine .some ⟨?_, left⟩
    dsimp only
    rw [found.1, part, power]

theorem after_alike {word : List Char} (plain : '"' ∉ word) (h : Alike cs cs') :
    Option.Rel Alike (after? word cs) (after? word cs') := by
  induction word generalizing cs cs' with
  | nil => exact .some h
  | cons w word ih =>
    have step (c : Char) (cs : List Char) :
        after? (w :: word) (c :: cs) = if w = c then after? word cs else none := by
      by_cases same : w = c <;> simp [after?, List.isPrefixOf, same]
    obtain ⟨first, later⟩ := not_or.1 (mt List.mem_cons.2 plain)
    cases h with
    | nil => exact .none
    | string =>
      rw [step, step, if_neg (Ne.symm first), if_neg (Ne.symm first)]
      exact .none
    | other _ rest =>
      rw [step, step]
      split
      · exact ih later rest
      · exact .none

theorem words_alike {words : List (String × Value)} (plain : ∀ entry ∈ words, '"' ∉ entry.1.toList)
    (h : Alike cs cs') : Option.Rel Scanned
      (words.findSome? fun (word, v) => (after? word.toList cs).map (v, ·))
      (words.findSome? fun (word, v) => (after? word.toList cs').map (v, ·)) := by
  induction words with
  | nil => exact .none
  | cons entry words ih =>
    obtain ⟨word, v⟩ := entry
    have rest := ih fun entry member => plain entry (List.mem_cons_of_mem _ member)
    have first := after_alike (plain _ List.mem_cons_self) h
    rw [List.findSome?_cons, List.findSome?_cons]
    dsimp only at first ⊢
    generalize after? word.toList cs = x, after? word.toList cs' = y at first
    cases first with
    | none => exact rest
    | some left => exact .some ⟨rfl, left⟩

/-- The same fault at any two places, or the same reason. -/
inductive SameStop : Stop → Stop → Prop
  | here (what : Problem) (rest rest' : List Char) : SameStop (.here what rest) (.here what rest')
  | same (stop : Stop) : SameStop stop stop

inductive SameFrom (V : α → β → Prop) {cs cs' : List Char} : From cs α → From cs' β → Prop
  | ok {x : α} {y : β} {rest rest' : List Char} {h : rest.length < cs.length}
    {h' : rest'.length < cs'.length} (alike : V x y) (left : Alike rest rest') :
    SameFrom V (.ok (x, ⟨rest, h⟩)) (.ok (y, ⟨rest', h'⟩))
  | stopped {stop stop' : Stop} (same : SameStop stop stop') : SameFrom V (.error stop) (.error stop')

theorem SameFrom.cases {V : α → β → Prop} {a : From cs α} {b : From cs' β} (h : SameFrom V a b) :
    (∃ x y rest rest' shorter shorter', a = .ok (x, ⟨rest, shorter⟩) ∧ b = .ok (y, ⟨rest', shorter'⟩) ∧
      V x y ∧ Alike rest rest') ∨
    ∃ stop stop', a = .error stop ∧ b = .error stop' ∧ SameStop stop stop' := by
  cases h with
  | ok alike left => exact .inl ⟨_, _, _, _, _, _, rfl, rfl, alike, left⟩
  | stopped same => exact .inr ⟨_, _, rfl, rfl, same⟩

theorem SameFrom.map {V : α → β → Prop} {W : γ → δ → Prop} {a : From cs α} {b : From cs' β}
    (h : SameFrom V a b) {f : α → γ} {g : β → δ} (alike : ∀ x y, V x y → W (f x) (g y)) :
    SameFrom W (a.map fun (x, rest) => (f x, rest) : From cs γ)
      (b.map fun (y, rest) => (g y, rest) : From cs' δ) := by
  cases h with
  | ok same left => exact .ok (alike _ _ same) left
  | stopped same => exact .stopped same

theorem scalarFrom_ok {v : Value} {rest : List Char} (h : scalar cs = .ok (v, rest)) :
    ∃ shorter, scalarFrom cs = .ok (v, ⟨rest, shorter⟩) := by
  refine ⟨length_scalar_lt h, ?_⟩
  unfold scalarFrom
  split
  next e failed => cases failed.symm.trans h
  next v' rest' found =>
    obtain ⟨rfl, rfl⟩ := Prod.mk.inj (Except.ok.inj (found.symm.trans h))
    rfl

theorem scalarFrom_error {stop : Stop} (h : scalar cs = .error stop) : scalarFrom cs = .error stop := by
  unfold scalarFrom
  split
  next e failed => exact congrArg _ (Except.error.inj (failed.symm.trans h))
  next v rest found => cases found.symm.trans h

theorem scalar_alike (h : Alike cs cs') : SameFrom Eq (scalarFrom cs) (scalarFrom cs') := by
  have plain : ∀ entry ∈ namedValues, '"' ∉ entry.1.toList := by decide
  have words := words_alike plain h
  have number := number_alike h
  have first := scalar.eq_def cs
  have second := scalar.eq_def cs'
  generalize (namedValues.findSome? fun (word, v) => (after? word.toList cs).map (v, ·)) = x at words first
  generalize (namedValues.findSome? fun (word, v) => (after? word.toList cs').map (v, ·)) = y at words second
  cases words with
  | some found =>
    obtain ⟨same, left⟩ := found
    obtain ⟨_, first⟩ := scalarFrom_ok first
    obtain ⟨_, second⟩ := scalarFrom_ok second
    rw [first, second]
    exact .ok same.symm left
  | none =>
    dsimp only at first second
    generalize number? cs = x at number first
    generalize number? cs' = y at number second
    cases number with
    | none =>
      rw [scalarFrom_error first, scalarFrom_error second]
      exact .stopped (.here _ _ _)
    | @some x y found =>
      obtain ⟨v, rest⟩ := x
      obtain ⟨v', rest'⟩ := y
      obtain ⟨same, left⟩ := found
      obtain rfl : v' = v := same
      cases v' with
      | ok v =>
        obtain ⟨_, first⟩ := scalarFrom_ok first
        obtain ⟨_, second⟩ := scalarFrom_ok second
        rw [first, second]
        exact .ok rfl left
      | error stop =>
        rw [scalarFrom_error first, scalarFrom_error second]
        exact .stopped (.same stop)

/-! ### Items -/

section

variable {close : Char} {item : (cs : List Char) → From cs α} {start rest after : List Char} (done : List α)
  {x : α} {shorter : rest.length < cs.length} (h : cs.length < start.length)
  (read : item cs = .ok (x, ⟨rest, shorter⟩))
include read

theorem itemsFrom_end (ended : skipBlanks rest = []) :
    itemsFrom close item start done cs h = .error (.here .expectingComma []) := by
  rw [itemsFrom, read]
  dsimp only
  split
  next => rfl
  next some => cases some.symm.trans ended

theorem itemsFrom_close (closed : skipBlanks rest = close :: after) :
    ∃ left, itemsFrom close item start done cs h = .ok ((x :: done).reverse, ⟨after, left⟩) := by
  have left := length_lt_of_skipBlanks closed
  refine ⟨by omega, ?_⟩
  rw [itemsFrom, read]
  dsimp only
  split
  next none => cases none.symm.trans closed
  next found =>
    obtain ⟨rfl, rfl⟩ := List.cons.inj (found.symm.trans closed)
    rw [if_pos rfl]

theorem itemsFrom_comma (other : ',' ≠ close) (more : skipBlanks rest = ',' :: after) :
    ∃ left, itemsFrom close item start done cs h =
      itemsFrom close item start (x :: done) (skipBlanks after) left := by
  have left := length_lt_of_skipBlanks more
  have skipped := length_skipBlanks_le after
  refine ⟨by omega, ?_⟩
  rw [itemsFrom, read]
  dsimp only
  split
  next none => cases none.symm.trans more
  next found =>
    obtain ⟨rfl, rfl⟩ := List.cons.inj (found.symm.trans more)
    rw [if_neg other, if_pos rfl]

theorem itemsFrom_other {c : Char} (notClose : c ≠ close) (notComma : c ≠ ',')
    (next : skipBlanks rest = c :: after) :
    itemsFrom close item start done cs h = .error (.here .expectingComma (c :: after)) := by
  rw [itemsFrom, read]
  dsimp only
  split
  next none => cases none.symm.trans next
  next found =>
    obtain ⟨rfl, rfl⟩ := List.cons.inj (found.symm.trans next)
    rw [if_neg notClose, if_neg notComma]

end

/-- Behind alike items the two scanners go on alike, if they do so with the items that follow. -/
theorem items_behind {V : α → β → Prop} {item : (cs : List Char) → From cs α}
    {item' : (cs : List Char) → From cs β} {close : Char} (mark : close ≠ '"') (other : ',' ≠ close)
    {start start' rest rest' : List Char} {done : List α} {done' : List β} {x : α} {y : β}
    {shorter : rest.length < cs.length} {shorter' : rest'.length < cs'.length}
    (first : item cs = .ok (x, ⟨rest, shorter⟩)) (second : item' cs' = .ok (y, ⟨rest', shorter'⟩))
    (values : List.Forall₂ V (x :: done) (y :: done')) (alike : Alike rest rest') (h : cs.length < start.length)
    (h' : cs'.length < start'.length)
    (later : ∀ ds ds' left left', ds.length < rest.length → Alike ds ds' → SameFrom (List.Forall₂ V)
      (itemsFrom close item start (x :: done) ds left) (itemsFrom close item' start' (y :: done') ds' left')) :
    SameFrom (List.Forall₂ V) (itemsFrom close item start done cs h)
      (itemsFrom close item' start' done' cs' h') := by
  have behind := alike.skipBlanks
  cases next : skipBlanks rest with
  | nil =>
    rw [next] at behind
    rw [itemsFrom_end done h first next, itemsFrom_end done' h' second behind.of_nil]
    exact .stopped (.same _)
  | cons c after =>
    rw [next] at behind
    by_cases quote : c = '"'
    · subst quote
      obtain ⟨after', next'⟩ := behind.of_quote
      rw [itemsFrom_other done h first (Ne.symm mark) (by decide) next,
        itemsFrom_other done' h' second (Ne.symm mark) (by decide) next']
      exact .stopped (.here _ _ _)
    obtain ⟨after', next', more⟩ := behind.of_cons quote
    by_cases closes : c = close
    · subst closes
      obtain ⟨_, first⟩ := itemsFrom_close done h first next
      obtain ⟨_, second⟩ := itemsFrom_close done' h' second next'
      rw [first, second]
      exact .ok (List.rel_reverse values) more
    by_cases comma : c = ','
    · subst comma
      obtain ⟨left, first⟩ := itemsFrom_comma done h first other next
      obtain ⟨left', second⟩ := itemsFrom_comma done' h' second other next'
      rw [first, second]
      have skipped := length_skipBlanks_le after
      have inside := length_lt_of_skipBlanks next
      exact later _ _ left left' (by omega) more.skipBlanks
    · rw [itemsFrom_other done h first closes comma next, itemsFrom_other done' h' second closes comma next']
      exact .stopped (.here _ _ _)

/-- What is read alike one by one is read alike as the items of a container. -/
theorem items_alike {V : α → β → Prop} {item : (cs : List Char) → From cs α}
    {item' : (cs : List Char) → From cs β}
    (same : ∀ cs cs', Alike cs cs' → SameFrom V (item cs) (item' cs')) {close : Char} (mark : close ≠ '"')
    (other : ',' ≠ close) {start start' : List Char} {done : List α} {done' : List β}
    (before : List.Forall₂ V done done') (alike : Alike cs cs') (h : cs.length < start.length)
    (h' : cs'.length < start'.length) : SameFrom (List.Forall₂ V) (itemsFrom close item start done cs h)
      (itemsFrom close item' start' done' cs' h') := by
  induction size : cs.length using Nat.strong_induction_on generalizing cs cs' done done' with
  | _ size ih =>
    obtain ⟨x, y, rest, rest', shorter, shorter', first, second, value, left⟩ |
      ⟨stop, stop', first, second, stopped⟩ := (same cs cs' alike).cases
    · have values := List.Forall₂.cons value before
      refine items_behind mark other first second values left h h' fun ds ds' _ _ inside alike => ?_
      exact ih _ (by omega) values alike _ _ rfl
    · rw [itemsFrom_error first, itemsFrom_error second]
      exact .stopped stopped

/-! ### Members -/

section

variable {item : (cs : List Char) → From cs Value} {rest after behind left : List Char} {name : RawText}
  {shorter : after.length < ('"' :: rest).length}
  (read : stringFrom ('"' :: rest) [] rest (Nat.lt_succ_self _) = .ok (name, ⟨after, shorter⟩))
include read

theorem memberFrom_noColon (other : (skipBlanks after).head? ≠ some ':') :
    memberFrom item ('"' :: rest) = .error (.here .expectingColon (skipBlanks after)) := by
  rw [memberFrom, read]
  dsimp only
  split
  next colon =>
    rw [colon] at other
    exact absurd rfl other
  next => rfl

theorem memberFrom_error (colon : skipBlanks after = ':' :: behind) {stop : Stop}
    (failed : item (skipBlanks behind) = .error stop) : memberFrom item ('"' :: rest) = .error stop := by
  rw [memberFrom, read]
  dsimp only
  split
  next found =>
    obtain ⟨-, rfl⟩ := List.cons.inj (found.symm.trans colon)
    rw [failed]
  next other => exact absurd colon (other _)

theorem memberFrom_ok (colon : skipBlanks after = ':' :: behind) {v : Value}
    {value : left.length < (skipBlanks behind).length}
    (found : item (skipBlanks behind) = .ok (v, ⟨left, value⟩)) :
    ∃ h, memberFrom item ('"' :: rest) = .ok ((name, v), ⟨left, h⟩) := by
  have behindColon := length_lt_of_skipBlanks colon
  have skipped := length_skipBlanks_le behind
  refine ⟨by omega, ?_⟩
  rw [memberFrom, read]
  dsimp only
  split
  next same =>
    obtain ⟨-, rfl⟩ := List.cons.inj (same.symm.trans colon)
    rw [found]
  next other => exact absurd colon (other _)

end

theorem memberFrom_other {item : (cs : List Char) → From cs Value} (other : cs.head? ≠ some '"') :
    memberFrom item cs = .error (.here .expectingName cs) := by
  unfold memberFrom
  split
  · exact absurd rfl other
  · rfl

def SameMember (V : Value → Value → Prop) (m m' : RawText × Value) : Prop := m'.1 = m.1 ∧ V m.2 m'.2

theorem member_alike {V : Value → Value → Prop} {item item' : (cs : List Char) → From cs Value}
    (same : ∀ cs cs', Alike cs cs' → SameFrom V (item cs) (item' cs')) (alike : Alike cs cs') :
    SameFrom (SameMember V) (memberFrom item cs) (memberFrom item' cs') := by
  cases alike with
  | nil => exact .stopped (.same _)
  | other other _ =>
    rw [memberFrom_other (by simpa using other), memberFrom_other (by simpa using other)]
    exact .stopped (.here _ _ _)
  | @string body body' text text' after after' writes writes' name rest =>
    have read {body text : List Char} (writes : Writes body text) (after : List Char) :=
      stringFrom_of_writes ('"' :: (body ++ '"' :: after)) writes after (Nat.lt_succ_self _)
    obtain ⟨shorter, first⟩ := read writes after
    by_cases colon : (skipBlanks after).head? = some ':'
    · -- a name, which the two texts have in common
      obtain rfl := name colon
      obtain ⟨shorter', second⟩ := read writes after'
      obtain ⟨behind, colon⟩ := List.head?_eq_some_iff.1 colon
      obtain ⟨behind', colon', more⟩ := (colon ▸ rest.skipBlanks).of_cons (by decide)
      obtain ⟨v, v', left, left', _, _, found, found', value, alike⟩ |
        ⟨stop, stop', failed, failed', stopped⟩ := (same _ _ more.skipBlanks).cases
      · obtain ⟨_, first⟩ := memberFrom_ok first colon found
        obtain ⟨_, second⟩ := memberFrom_ok second colon' found'
        rw [first, second]
        exact .ok ⟨rfl, value⟩ alike
      · rw [memberFrom_error first colon failed, memberFrom_error second colon' failed']
        exact .stopped stopped
    · obtain ⟨shorter', second⟩ := read writes' after'
      rw [memberFrom_noColon first colon, memberFrom_noColon second (rest.skipBlanks.head? ▸ colon)]
      exact .stopped (.here _ _ _)

/-! ### Shapes -/

mutual

def Value.shape : Value → Value
  | .null => .null
  | .bool b => .bool b
  | .int n => .int n
  | .double x => .double x
  | .str _ => .str (.whole "")
  | .arr items => .arr (shapes items)
  | .obj members => .obj (memberShapes members)

def shapes : List Value → List Value
  | [] => []
  | v :: vs => v.shape :: shapes vs

def memberShapes : Members → Members
  | [] => []
  | (name, v) :: members => (name, v.shape) :: memberShapes members

end

theorem shapes_eq_map (vs : List Value) : shapes vs = vs.map Value.shape := by
  induction vs with
  | nil => rfl
  | cons v vs ih => rw [shapes, ih, List.map_cons]

theorem memberShapes_eq_map (members : Members) :
    memberShapes members = members.map fun m => (m.1, m.2.shape) := by
  induction members with
  | nil => rfl
  | cons m members ih =>
    rw [List.map_cons, ← ih]
    rfl

def SameShape (v v' : Value) : Prop := v'.shape = v.shape

theorem sameShape_arr {vs vs' : List Value} (h : List.Forall₂ SameShape vs vs') :
    SameShape (.arr vs) (.arr vs') := by
  unfold SameShape Value.shape
  rw [shapes_eq_map, shapes_eq_map]
  refine congrArg _ ?_
  induction h with
  | nil => rfl
  | cons same _ ih => exact congrArg₂ List.cons same ih

theorem sameShape_obj {ms ms' : Members} (h : List.Forall₂ (SameMember SameShape) ms ms') :
    SameShape (.obj ms) (.obj ms') := by
  unfold SameShape Value.shape
  rw [memberShapes_eq_map, memberShapes_eq_map]
  refine congrArg _ ?_
  induction h with
  | nil => rfl
  | @cons m m' ms ms' same _ ih =>
    obtain ⟨name, v⟩ := m
    obtain ⟨name', v'⟩ := m'
    obtain ⟨rfl, shape⟩ : name' = name ∧ v'.shape = v.shape := same
    exact congrArg₂ List.cons (Prod.ext rfl shape) ih

/-! ### Values -/

section

variable {depth : Nat} {rest after : List Char}

theorem valueFrom_string {t : RawText} {shorter : after.length < ('"' :: rest).length}
    (read : stringFrom ('"' :: rest) [] rest (Nat.lt_succ_self _) = .ok (t, ⟨after, shorter⟩)) :
    valueFrom depth ('"' :: rest) = .ok (.str t, ⟨after, shorter⟩) := by
  rw [valueFrom, read]

theorem valueFrom_noItems (depth : Nat) (closed : skipBlanks rest = ']' :: after) :
    ∃ shorter, valueFrom (depth + 1) ('[' :: rest) = .ok (.arr [], ⟨after, shorter⟩) := by
  refine ⟨Nat.lt_succ_of_lt (length_lt_of_skipBlanks closed), ?_⟩
  rw [valueFrom]
  dsimp only
  split
  next found =>
    obtain ⟨-, rfl⟩ := List.cons.inj (found.symm.trans closed)
    rfl
  next other => exact absurd closed (other _)

theorem valueFrom_items (depth : Nat) (more : (skipBlanks rest).head? ≠ some ']') : ∃ shorter,
    valueFrom (depth + 1) ('[' :: rest) =
      (itemsFrom ']' (valueFrom depth) ('[' :: rest) [] (skipBlanks rest) shorter).map
        fun (vs, after) => (.arr vs, after) := by
  refine ⟨Nat.lt_succ_of_le (length_skipBlanks_le rest), ?_⟩
  rw [valueFrom]
  dsimp only
  split
  next closed =>
    rw [closed] at more
    exact absurd rfl more
  next =>
    split
    next failed => rw [failed]; rfl
    next found => rw [found]; rfl

theorem valueFrom_noMembers (depth : Nat) (closed : skipBlanks rest = '\x7d' :: after) :
    ∃ shorter, valueFrom (depth + 1) ('\x7b' :: rest) = .ok (.obj [], ⟨after, shorter⟩) := by
  refine ⟨Nat.lt_succ_of_lt (length_lt_of_skipBlanks closed), ?_⟩
  rw [valueFrom]
  dsimp only
  split
  next found =>
    obtain ⟨-, rfl⟩ := List.cons.inj (found.symm.trans closed)
    rfl
  next other => exact absurd closed (other _)

theorem valueFrom_members (depth : Nat) (more : (skipBlanks rest).head? ≠ some '\x7d') : ∃ shorter,
    valueFrom (depth + 1) ('\x7b' :: rest) =
      (itemsFrom '\x7d' (memberFrom (valueFrom depth)) ('\x7b' :: rest) [] (skipBlanks rest) shorter).map
        fun (ms, after) => (.obj ms, after) := by
  refine ⟨Nat.lt_succ_of_le (length_skipBlanks_le rest), ?_⟩
  rw [valueFrom]
  dsimp only
  split
  next closed =>
    rw [closed] at more
    exact absurd rfl more
  next =>
    split
    next failed => rw [failed]; rfl
    next found => rw [found]; rfl

theorem valueFrom_scalar (quote : cs.head? ≠ some '"') (bracket : cs.head? ≠ some '[')
    (brace : cs.head? ≠ some '\x7b') : valueFrom depth cs = scalarFrom cs := by
  unfold valueFrom
  split
  · exact absurd rfl quote
  · exact absurd rfl bracket
  · exact absurd rfl brace
  · rfl

end

theorem scalarFrom_alike (alike : Alike cs cs') : SameFrom SameShape (scalarFrom cs) (scalarFrom cs') := by
  obtain ⟨x, y, rest, rest', _, _, first, second, rfl, left⟩ | ⟨stop, stop', first, second, stopped⟩ :=
    (scalar_alike alike).cases
  · rw [first, second]
    exact .ok rfl left
  · rw [first, second]
    exact .stopped stopped

section

variable {depth : Nat} (deeper : ∀ cs cs', Alike cs cs' → SameFrom SameShape (valueFrom depth cs) (valueFrom depth cs'))
  (alike : Alike cs cs')
include deeper alike

theorem array_alike : SameFrom SameShape (valueFrom (depth + 1) ('[' :: cs))
    (valueFrom (depth + 1) ('[' :: cs')) := by
  have inside := alike.skipBlanks
  by_cases closed : (skipBlanks cs).head? = some ']'
  · obtain ⟨after, closed⟩ := List.head?_eq_some_iff.1 closed
    obtain ⟨after', closed', left⟩ := (closed ▸ inside).of_cons (by decide)
    obtain ⟨_, first⟩ := valueFrom_noItems depth closed
    obtain ⟨_, second⟩ := valueFrom_noItems depth closed'
    rw [first, second]
    exact .ok rfl left
  · obtain ⟨_, first⟩ := valueFrom_items depth closed
    obtain ⟨_, second⟩ := valueFrom_items depth (inside.head? ▸ closed)
    rw [first, second]
    exact (items_alike deeper (by decide) (by decide) .nil inside _ _).map fun _ _ => sameShape_arr

theorem object_alike : SameFrom SameShape (valueFrom (depth + 1) ('\x7b' :: cs))
    (valueFrom (depth + 1) ('\x7b' :: cs')) := by
  have inside := alike.skipBlanks
  by_cases closed : (skipBlanks cs).head? = some '\x7d'
  · obtain ⟨after, closed⟩ := List.head?_eq_some_iff.1 closed
    obtain ⟨after', closed', left⟩ := (closed ▸ inside).of_cons (by decide)
    obtain ⟨_, first⟩ := valueFrom_noMembers depth closed
    obtain ⟨_, second⟩ := valueFrom_noMembers depth closed'
    rw [first, second]
    exact .ok rfl left
  · obtain ⟨_, first⟩ := valueFrom_members depth closed
    obtain ⟨_, second⟩ := valueFrom_members depth (inside.head? ▸ closed)
    rw [first, second]
    exact (items_alike (fun _ _ => member_alike deeper) (by decide) (by decide) .nil inside _ _).map
      fun _ _ => sameShape_obj

end

/-- The reader goes through alike texts in step. -/
theorem value_alike (depth : Nat) (alike : Alike cs cs') :
    SameFrom SameShape (valueFrom depth cs) (valueFrom depth cs') := by
  induction depth using Nat.strong_induction_on generalizing cs cs' with
  | _ depth ih =>
    cases alike with
    | nil =>
      rw [valueFrom_scalar (by simp) (by simp) (by simp)]
      exact scalarFrom_alike .nil
    | @string body body' _ _ after after' writes writes' _ rest =>
      obtain ⟨_, first⟩ := stringFrom_of_writes ('"' :: (body ++ '"' :: after)) writes after
        (Nat.lt_succ_self _)
      obtain ⟨_, second⟩ := stringFrom_of_writes ('"' :: (body' ++ '"' :: after')) writes' after'
        (Nat.lt_succ_self _)
      rw [valueFrom_string first, valueFrom_string second]
      exact .ok rfl rest
    | @other c cs cs' other rest =>
      by_cases bracket : c = '['
      · subst bracket
        cases depth with
        | zero =>
          rw [valueFrom, valueFrom]
          exact .stopped (.same _)
        | succ depth => exact array_alike (fun _ _ => ih depth (Nat.lt_succ_self _)) rest
      · by_cases brace : c = '\x7b'
        · subst brace
          cases depth with
          | zero =>
            rw [valueFrom, valueFrom]
            exact .stopped (.same _)
          | succ depth => exact object_alike (fun _ _ => ih depth (Nat.lt_succ_self _)) rest
        · rw [valueFrom_scalar (by simpa using other) (by simpa using bracket) (by simpa using brace),
            valueFrom_scalar (by simpa using other) (by simpa using bracket) (by simpa using brace)]
          exact scalarFrom_alike (.other other rest)

/-! ### Whole texts -/

def WellFormed (depth : Nat) (text : List Char) : Prop :=
  ∀ what line column position, read depth text ≠ .error (.malformed what line column position)

theorem read_of_valueFrom (depth : Nat) {text : List Char} (start : text.head? ≠ some '\ufeff') :
    read depth text = match valueFrom depth (skipBlanks text) with
    | .error e => .error (e.error text)
    | .ok (v, ⟨rest, _⟩) => match skipBlanks rest with
      | [] => .ok v
      | extra => .error (.at .extraData text extra) := by
  unfold read
  split
  · exact absurd rfl start
  · rfl

/-- Of a text without a fault and one that is alike, the reader reads values of one shape, or it stops for
one reason. -/
theorem read_alike {depth : Nat} {text text' : List Char} (alike : Alike text text')
    (wellFormed : WellFormed depth text) : OutcomeAlike SameShape (read depth text) (read depth text') := by
  by_cases mark : text.head? = some '\ufeff'
  · obtain ⟨rest, rfl⟩ := List.head?_eq_some_iff.1 mark
    exact absurd rfl (wellFormed _ _ _ _)
  · have first := read_of_valueFrom depth mark
    have second := read_of_valueFrom depth (alike.head? ▸ mark)
    obtain ⟨v, v', rest, rest', _, _, found, found', shape, left⟩ | ⟨stop, stop', failed, failed', stopped⟩ :=
      (value_alike depth alike.skipBlanks).cases
    · rw [found] at first
      rw [found'] at second
      have behind := left.skipBlanks
      cases ended : skipBlanks rest with
      | nil =>
        rw [ended] at behind
        have ended' := behind.of_nil
        simp only [ended] at first
        simp only [ended'] at second
        rw [first, second]
        exact .ok shape
      | cons c more =>
        simp only [ended] at first
        exact absurd first (wellFormed _ _ _ _)
    · rw [failed] at first
      rw [failed'] at second
      rw [first, second]
      cases stopped with
      | here what rest rest' => exact absurd first (wellFormed _ _ _ _)
      | same =>
        cases stop with
        | here what rest => exact absurd first (wellFormed _ _ _ _)
        | tooManyDigits n => exact .error _
        | tooDeep container => exact .error _

end Bearer.Json
