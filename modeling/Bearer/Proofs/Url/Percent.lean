import Bearer.Proofs.Text.Utf8
import Bearer.Url.Percent

/-!
Reading escapes. `Writes` is the grammar of unreserved characters and escapes: `encode` writes in it
(`writes_encode_all`), and what is written in it is read back (`Writes.decode_eq`). A text without escapes
is read as itself, and every escape is shorter by a character of ASCII once it is read
(`countP_decode_lt`).
-/

namespace Bearer.Percent

open Utf8 (countAscii isAscii)

/-! ### Reading -/

theorem decodeFrom_append (done base : List UInt8) (cs : List Char) :
    decodeFrom (done ++ base) cs = base.reverse ++ decodeFrom done cs := by
  fun_induction decodeFrom done cs with
  | case1 done a b cs x hx ih =>
    rw [decodeFrom, hx]
    exact ih
  | case2 done a b cs hx ih =>
    rw [decodeFrom, hx]
    exact ih
  | case3 done c cs h ih =>
    rw [decodeFrom, ← ih, List.append_assoc]
    exact h
  | case4 done => rw [decodeFrom, List.reverse_append]

theorem decodeFrom_eq (done : List UInt8) (cs : List Char) :
    decodeFrom done cs = done.reverse ++ decode cs := by
  rw [← List.nil_append done, decodeFrom_append, List.nil_append, decode]

def escaped? : List Char → Option UInt8
  | a :: b :: _ => byte? a b
  | _ => none

theorem decode_cons_of_ne {c : Char} (plain : c ≠ '%') (cs : List Char) :
    decode (c :: cs) = Utf8.encodeChar c ++ decode cs := by
  rw [decode, decodeFrom, decodeFrom_eq]
  · simp
  · intro a b tail same
    exact absurd same plain

theorem decode_percent_some {cs : List Char} {x : UInt8} (h : escaped? cs = some x) :
    decode ('%' :: cs) = x :: decode (cs.drop 2) := by
  match cs, h with
  | a :: b :: cs, h =>
    rw [decode, decodeFrom, show byte? a b = some x from h]
    exact decodeFrom_eq [x] cs

theorem decode_percent_none {cs : List Char} (h : escaped? cs = none) :
    decode ('%' :: cs) = 0x25 :: decode cs := by
  match cs, h with
  | [], _ => rfl
  | [a], _ => exact decodeFrom_eq [0x25] [a]
  | a :: b :: cs, h =>
    rw [decode, decodeFrom, show byte? a b = none from h]
    exact decodeFrom_eq [0x25] (a :: b :: cs)

/-- Texts as they are read: a character, an escape or a percent sign that starts none. -/
@[elab_as_elim] theorem escape_induction {motive : List Char → Prop} (nil : motive [])
    (plain : ∀ c cs, c ≠ '%' → motive cs → motive (c :: cs))
    (escaped : ∀ cs x, escaped? cs = some x → motive (cs.drop 2) → motive ('%' :: cs))
    (percent : ∀ cs, escaped? cs = none → motive cs → motive ('%' :: cs)) (cs : List Char) :
    motive cs := by
  induction length : cs.length using Nat.strongRecOn generalizing cs with
  | ind n ih =>
    cases cs with
    | nil => exact nil
    | cons c cs =>
      subst length
      by_cases same : c = '%'
      · subst same
        cases found : escaped? cs with
        | some x =>
          have shorter : (cs.drop 2).length < ('%' :: cs).length := by
            rw [List.length_drop, List.length_cons]
            omega
          exact escaped cs x found (ih (cs.drop 2).length shorter (cs.drop 2) rfl)
        | none => exact percent cs found (ih cs.length (by simp) cs rfl)
      · exact plain c cs same (ih cs.length (by simp) cs rfl)

/-! ### Writing -/

theorem hexValue?_hexDigit : ∀ n < 16, Text.hexValue? (hexDigit n) = some n := by decide

theorem byte?_hexDigits (b : UInt8) :
    byte? (hexDigit (b.toNat / 16)) (hexDigit (b.toNat % 16)) = some b := by
  have size := b.toNat_lt
  rw [byte?, hexValue?_hexDigit _ (by omega), hexValue?_hexDigit _ (by omega)]
  dsimp only
  rw [Nat.div_add_mod']
  simp

theorem decode_escapeByte (b : UInt8) (cs : List Char) : decode (escapeByte b ++ cs) = b :: decode cs :=
  decode_percent_some (byte?_hexDigits b)

theorem decode_escape (c : Char) (cs : List Char) :
    decode (escape c ++ cs) = Utf8.encodeChar c ++ decode cs := by
  rw [escape]
  induction Utf8.encodeChar c with
  | nil => rfl
  | cons b bs ih => rw [List.flatMap_cons, List.append_assoc, decode_escapeByte, ih, List.cons_append]

theorem ne_percent_of_isUnreserved {c : Char} (h : isUnreserved c = true) : c ≠ '%' := by
  rintro rfl
  revert h
  decide

/-! ### Digits -/

theorem isAlphanum_iff {c : Char} : c.isAlphanum = true ↔
    ((65 ≤ c.toNat ∧ c.toNat ≤ 90) ∨ (97 ≤ c.toNat ∧ c.toNat ≤ 122)) ∨
      (48 ≤ c.toNat ∧ c.toNat ≤ 57) := by
  change ((decide (c.val ≥ 'A'.val ∧ c.val ≤ 'Z'.val) ||
      (decide (c.val ≥ 'a'.val) && decide (c.val ≤ 'z'.val))) ||
    (decide (c.val ≥ '0'.val) && decide (c.val ≤ '9'.val))) = true ↔ _
  simp only [Bool.or_eq_true, Bool.and_eq_true, decide_eq_true_eq]
  exact Iff.rfl

theorem ascii_of_isUnreserved {c : Char} (h : isUnreserved c = true) : c.toNat < 0x80 := by
  simp only [isUnreserved, Bool.or_eq_true, beq_iff_eq] at h
  rcases h with (((alphanumeric | rfl) | rfl) | rfl) | rfl
  · have bounds := isAlphanum_iff.1 alphanumeric
    omega
  all_goals decide

theorem hexValue?_ascii {c : Char} {n : Nat} (h : Text.hexValue? c = some n) :
    c.toNat < 0x80 ∧ isUnreserved c = true := by
  have alphanumeric (digit : 48 ≤ c.toNat ∧ c.toNat ≤ 57 ∨ 97 ≤ c.toNat ∧ c.toNat ≤ 122 ∨
      65 ≤ c.toNat ∧ c.toNat ≤ 90) : c.toNat < 0x80 ∧ isUnreserved c = true := by
    refine ⟨by omega, ?_⟩
    have alphanumeric : c.isAlphanum = true := isAlphanum_iff.2 (by omega)
    simp [isUnreserved, alphanumeric]
  have bounds {a b : Char} (h : a ≤ c ∧ c ≤ b) : a.toNat ≤ c.toNat ∧ c.toNat ≤ b.toNat := h
  unfold Text.hexValue? at h
  split at h
  next within => exact alphanumeric (.inl (bounds within))
  split at h
  next within =>
    have within : 97 ≤ c.toNat ∧ c.toNat ≤ 102 := bounds within
    exact alphanumeric (by omega)
  split at h
  next within =>
    have within : 65 ≤ c.toNat ∧ c.toNat ≤ 70 := bounds within
    exact alphanumeric (by omega)
  next => cases h

theorem of_byte? {a b : Char} {x : UInt8} (h : byte? a b = some x) :
    (∃ m, Text.hexValue? a = some m) ∧ ∃ n, Text.hexValue? b = some n := by
  unfold byte? at h
  split at h
  next m n ha hb => exact ⟨⟨m, ha⟩, ⟨n, hb⟩⟩
  next => cases h

theorem of_escaped? {cs : List Char} {x : UInt8} (h : escaped? cs = some x) :
    ∃ a b rest, cs = a :: b :: rest ∧ byte? a b = some x := by
  match cs, h with
  | a :: b :: rest, h => exact ⟨a, b, rest, rfl, h⟩

theorem escaped?_none_of_first {a : Char} (none : Text.hexValue? a = none) (cs : List Char) :
    escaped? (a :: cs) = .none := by
  cases cs with
  | nil => rfl
  | cons b cs => simp [escaped?, byte?, none]

theorem escaped?_none_of_second {b : Char} (none : Text.hexValue? b = none) (a : Char)
    (cs : List Char) : escaped? (a :: b :: cs) = .none := by
  cases Text.hexValue? a <;> simp_all [escaped?, byte?]

/-! ### Unreserved characters and escapes -/

/-- A text of unreserved characters and escapes, and the bytes that it writes. -/
inductive Writes : List Char → List UInt8 → Prop
  | nil : Writes [] []
  | plain {c : Char} {text : List Char} {bytes : List UInt8} (unreserved : isUnreserved c = true)
    (rest : Writes text bytes) : Writes (c :: text) (c.toNat.toUInt8 :: bytes)
  | escape {first second : Char} {b : UInt8} {text : List Char} {bytes : List UInt8}
    (digits : byte? first second = some b) (rest : Writes text bytes) :
    Writes ('%' :: first :: second :: text) (b :: bytes)

variable {text : List Char} {bytes : List UInt8} {mark : Char}

theorem Writes.decode_eq (h : Writes text bytes) : decode text = bytes := by
  induction h with
  | nil => rfl
  | plain unreserved _ ih =>
    rw [decode_cons_of_ne (ne_percent_of_isUnreserved unreserved),
      Utf8.encodeChar_ascii (ascii_of_isUnreserved unreserved), ih]
    rfl
  | @escape first second b text _ digits _ ih =>
    have found : escaped? (first :: second :: text) = some b := digits
    rw [decode_percent_some found]
    exact congrArg (b :: ·) ih

theorem Writes.mem (h : Writes text bytes) {c : Char} (member : c ∈ text) :
    c = '%' ∨ isUnreserved c = true := by
  induction h with
  | nil => cases member
  | plain unreserved _ ih =>
    rcases List.mem_cons.1 member with rfl | member
    · exact .inr unreserved
    · exact ih member
  | escape digits _ ih =>
    obtain ⟨⟨m, first⟩, n, second⟩ := of_byte? digits
    simp only [List.mem_cons] at member
    rcases member with rfl | rfl | rfl | member
    · exact .inl rfl
    · exact .inr (hexValue?_ascii first).2
    · exact .inr (hexValue?_ascii second).2
    · exact ih member

theorem Writes.not_mem (h : Writes text bytes) (marked : isUnreserved mark = false)
    (notPercent : mark ≠ '%') : mark ∉ text := by
  intro member
  rcases h.mem member with same | unreserved
  · exact notPercent same
  · rw [marked] at unreserved
    cases unreserved

/-! ### Escaped texts -/

theorem writes_escapes (bs : List UInt8) (h : Writes text bytes) :
    Writes (bs.flatMap escapeByte ++ text) (bs ++ bytes) := by
  induction bs with
  | nil => exact h
  | cons b bs ih =>
    rw [List.flatMap_cons, List.append_assoc]
    exact .escape (byte?_hexDigits b) ih

theorem not_mem_escape (marked : isUnreserved mark = false) (notPercent : mark ≠ '%') (c : Char) :
    mark ∉ escape c := by
  intro member
  have writes := writes_escapes (Utf8.encodeChar c) .nil
  exact writes.not_mem marked notPercent (List.mem_append_left [] member)

theorem escape_eq_percent_cons (c : Char) : ∃ tail, escape c = '%' :: tail := by
  have some : Utf8.encodeChar c ≠ [] := by
    rw [Utf8.encodeChar_eq]
    split
    · simp
    split
    · simp
    split <;> simp
  obtain ⟨b, bs, h⟩ := List.exists_cons_of_ne_nil some
  exact ⟨_, by rw [escape, h, List.flatMap_cons]; rfl⟩

variable {safe : Char → Bool}

theorem encode_cons (c : Char) (cs : List Char) :
    encode safe (c :: cs) = encodeChar safe c ++ encode safe cs := List.flatMap_cons

theorem encodeChar_of_kept {c : Char} (h : (isUnreserved c || safe c) = true) :
    encodeChar safe c = [c] := if_pos h

theorem encodeChar_of_not_kept {c : Char} (h : ¬ (isUnreserved c || safe c) = true) :
    encodeChar safe c = escape c := if_neg h

theorem encodeChar_of_safe {c : Char} (h : safe c = true) : encodeChar safe c = [c] :=
  encodeChar_of_kept (by simp [h])

theorem encodeChar_of_digit {c : Char} {n : Nat} (h : Text.hexValue? c = some n) :
    encodeChar safe c = [c] := by
  have unreserved := (hexValue?_ascii h).2
  exact encodeChar_of_kept (by simp [unreserved])

theorem isEmpty_encode (cs : List Char) : (encode safe cs).isEmpty = cs.isEmpty := by
  cases cs with
  | nil => rfl
  | cons c cs =>
    rw [encode_cons]
    by_cases kept : (isUnreserved c || safe c) = true
    · rw [encodeChar_of_kept kept]
      rfl
    · obtain ⟨tail, h⟩ := escape_eq_percent_cons c
      rw [encodeChar_of_not_kept kept, h]
      rfl

theorem encode_ne_nil {cs : List Char} (given : cs ≠ []) : encode safe cs ≠ [] := by
  intro none
  have empty : (encode safe cs).isEmpty = cs.isEmpty := isEmpty_encode cs
  rw [none] at empty
  exact given (List.isEmpty_iff.1 empty.symm)

/-- A sign that is escaped nowhere is not written for anything else. -/
theorem encodeChar_others (notPercent : mark ≠ '%') (marked : isUnreserved mark = false)
    {c d : Char} (other : c ≠ mark) (member : d ∈ encodeChar safe c) : d ≠ mark := by
  rintro rfl
  by_cases kept : (isUnreserved c || safe c) = true
  · rw [encodeChar_of_kept kept, List.mem_singleton] at member
    exact other member.symm
  · rw [encodeChar_of_not_kept kept] at member
    exact not_mem_escape marked notPercent c member

theorem encode_of_kept {cs : List Char} (kept : ∀ c ∈ cs, (isUnreserved c || safe c) = true) :
    encode safe cs = cs := by
  induction cs with
  | nil => rfl
  | cons c cs ih =>
    have rest := ih fun d member => kept d (List.mem_cons_of_mem _ member)
    rw [encode_cons, encodeChar_of_kept (kept c List.mem_cons_self), rest]
    rfl

/-- Where no further character is safe, only unreserved characters and escapes are written. -/
theorem writes_encode_all (cs : List Char) : Writes (encode (fun _ => false) cs) (Utf8.encode cs) := by
  induction cs with
  | nil => exact .nil
  | cons c cs ih =>
    rw [encode_cons, Utf8.encode_cons]
    by_cases kept : isUnreserved c = true
    · rw [encodeChar_of_kept (by simp [kept]), Utf8.encodeChar_ascii (ascii_of_isUnreserved kept)]
      exact .plain kept ih
    · rw [encodeChar_of_not_kept (by simpa using kept)]
      exact writes_escapes (Utf8.encodeChar c) ih

/-- A text of which everything but unreserved characters is escaped is read back. -/
theorem decode_encode_all (cs : List Char) : decode (encode (fun _ => false) cs) = Utf8.encode cs :=
  (writes_encode_all cs).decode_eq

theorem mem_encode_all {c : Char} {cs : List Char} (h : c ∈ encode (fun _ => false) cs) :
    c = '%' ∨ isUnreserved c = true := (writes_encode_all cs).mem h

/-- No sign that marks something is left when all but unreserved characters are escaped. -/
theorem not_mem_encode_all (marked : isUnreserved mark = false) (notPercent : mark ≠ '%')
    (cs : List Char) : mark ∉ encode (fun _ => false) cs :=
  (writes_encode_all cs).not_mem marked notPercent

theorem encode_all_injective {cs ds : List Char}
    (h : encode (fun _ => false) cs = encode (fun _ => false) ds) : cs = ds := by
  have bytes := congrArg decode h
  rw [decode_encode_all, decode_encode_all] at bytes
  exact Utf8.encode_injective bytes

/-! ### A slash at the end -/

theorem escaped?_concat_slash (cs : List Char) : escaped? (cs ++ ['/']) = escaped? cs := by
  match cs with
  | [] => rfl
  | [a] => exact escaped?_none_of_second rfl a []
  | _ :: _ :: _ => rfl

theorem decode_concat_slash (cs : List Char) : decode (cs ++ ['/']) = decode cs ++ [0x2f] := by
  induction cs using escape_induction with
  | nil => rfl
  | plain c cs plain ih => simp [decode_cons_of_ne plain, ih]
  | escaped cs x found ih =>
    obtain ⟨a, b, rest, rfl, -⟩ := of_escaped? found
    rw [decode_percent_some found, List.cons_append,
      decode_percent_some ((escaped?_concat_slash _).trans found), List.cons_append]
    exact congrArg (x :: ·) ih
  | percent cs none ih =>
    rw [decode_percent_none none, List.cons_append,
      decode_percent_none ((escaped?_concat_slash _).trans none), ih, List.cons_append]

/-! ### Texts without escapes -/

def HasEscape (cs : List Char) : Prop :=
  ∃ front back x, cs = front ++ '%' :: back ∧ escaped? back = some x

theorem HasEscape.mem {cs : List Char} (h : HasEscape cs) : '%' ∈ cs := by
  obtain ⟨front, back, x, rfl, -⟩ := h
  simp

theorem HasEscape.cons {cs : List Char} (h : HasEscape cs) (c : Char) : HasEscape (c :: cs) := by
  obtain ⟨front, back, x, rfl, found⟩ := h
  exact ⟨c :: front, back, x, rfl, found⟩

theorem HasEscape.of_cons {cs : List Char} {c : Char} (h : HasEscape (c :: cs)) :
    (c = '%' ∧ ∃ x, escaped? cs = some x) ∨ HasEscape cs := by
  obtain ⟨_ | ⟨d, front⟩, back, x, same, found⟩ := h
  · obtain ⟨rfl, rfl⟩ := List.cons.inj same
    exact .inl ⟨rfl, x, found⟩
  · obtain ⟨-, rfl⟩ := List.cons.inj same
    exact .inr ⟨front, back, x, rfl, found⟩

theorem decode_of_not_hasEscape {cs : List Char} (h : ¬ HasEscape cs) :
    decode cs = Utf8.encode cs := by
  induction cs using escape_induction with
  | nil => rfl
  | plain c cs plain ih =>
    rw [decode_cons_of_ne plain, ih fun inner => h (inner.cons c), Utf8.encode_cons]
  | escaped cs x found => exact absurd ⟨[], cs, x, rfl, found⟩ h
  | percent cs none ih =>
    rw [decode_percent_none none, ih fun inner => h (inner.cons '%'), Utf8.encode_cons]
    rfl

theorem countAscii_cons (c : Char) (cs : List Char) :
    countAscii (c :: cs) = countAscii [c] + countAscii cs := by
  simp only [countAscii, List.countP_cons, List.countP_nil]
  omega

theorem countAscii_append (front back : List Char) :
    countAscii (front ++ back) = countAscii front + countAscii back := List.countP_append

theorem countP_decode_cons {c : Char} (plain : c ≠ '%') (cs : List Char) :
    (decode (c :: cs)).countP isAscii = countAscii [c] + (decode cs).countP isAscii := by
  rw [decode_cons_of_ne plain, List.countP_append, Utf8.countP_encodeChar]

theorem countP_decode_le (cs : List Char) : (decode cs).countP isAscii ≤ countAscii cs := by
  induction cs using escape_induction with
  | nil => exact Nat.le_refl 0
  | plain c cs plain ih =>
    rw [countP_decode_cons plain, countAscii_cons c cs]
    omega
  | escaped cs x found ih =>
    obtain ⟨a, b, rest, rfl, -⟩ := of_escaped? found
    rw [decode_percent_some found, List.countP_cons]
    have percent : countAscii ['%'] = 1 := rfl
    have outer := countAscii_cons '%' (a :: b :: rest)
    have inner := countAscii_cons a (b :: rest)
    have last := countAscii_cons b rest
    simp only [List.drop_succ_cons, List.drop_zero] at ih ⊢
    split <;> omega
  | percent cs none ih =>
    have percent : countAscii ['%'] = 1 := rfl
    have ascii : isAscii 0x25 = true := rfl
    rw [decode_percent_none none, List.countP_cons, if_pos ascii, countAscii_cons]
    omega

/-- Reading an escape takes away a character of ASCII at least. -/
theorem countP_decode_lt {cs : List Char} (h : HasEscape cs) :
    (decode cs).countP isAscii < countAscii cs := by
  induction cs using escape_induction with
  | nil =>
    obtain ⟨front, back, x, same, -⟩ := h
    simp at same
  | plain c cs plain ih =>
    obtain ⟨rfl, -⟩ | inner := h.of_cons
    · exact absurd rfl plain
    · have less := ih inner
      rw [countP_decode_cons plain, countAscii_cons c cs]
      omega
  | escaped cs x found =>
    obtain ⟨a, b, rest, rfl, digits⟩ := of_escaped? found
    obtain ⟨⟨m, ha⟩, -⟩ := of_byte? digits
    have rest_le := countP_decode_le rest
    have first : countAscii [a] = 1 := by simp [countAscii, (hexValue?_ascii ha).1]
    have percent : countAscii ['%'] = 1 := rfl
    have outer := countAscii_cons '%' (a :: b :: rest)
    have inner := countAscii_cons a (b :: rest)
    have last := countAscii_cons b rest
    rw [decode_percent_some found, List.countP_cons]
    simp only [List.drop_succ_cons, List.drop_zero]
    split <;> omega
  | percent cs none ih =>
    obtain ⟨-, x, found⟩ | inner := h.of_cons
    · cases none.symm.trans found
    · have less := ih inner
      have percent : countAscii ['%'] = 1 := rfl
      have ascii : isAscii 0x25 = true := rfl
      rw [decode_percent_none none, List.countP_cons, if_pos ascii, countAscii_cons]
      omega

end Bearer.Percent
