import Bearer.Number.Integer
import Bearer.Proofs.Text.Blank

/-!
Integers in a text. `WritesInteger` is the grammar: white space around it, a sign or none, and digits with
no more than one underscore between two of them. `readInteger?` takes exactly the texts of this grammar
for the integers that they write (`readInteger?_eq_some_iff`).
-/

namespace Bearer

inductive DigitGroups : List Char → List Nat → Prop
  | last {c : Char} {d : Nat} (digit : digitValue? c = some d) : DigitGroups [c] [d]
  | next {c : Char} {d : Nat} {cs : List Char} {ds : List Nat} (digit : digitValue? c = some d)
    (rest : DigitGroups cs ds) : DigitGroups (c :: cs) (d :: ds)
  | apart {c : Char} {d : Nat} {cs : List Char} {ds : List Nat} (digit : digitValue? c = some d)
    (rest : DigitGroups cs ds) : DigitGroups (c :: '_' :: cs) (d :: ds)

/-- A sign that may stand in front of digits; does it make the number negative? -/
inductive SignMark : List Char → Bool → Prop
  | none : SignMark [] false
  | plus : SignMark ['+'] false
  | minus : SignMark ['-'] true

inductive WritesInteger : List Char → Int → Prop
  | intro {front sign body back : List Char} {negative : Bool} {ds : List Nat}
    (before : ∀ c ∈ front, Text.isWhiteSpace c = true) (behind : ∀ c ∈ back, Text.isWhiteSpace c = true)
    (signed : SignMark sign negative) (digits : DigitGroups body ds) (short : ds.length ≤ maxDigits) :
    WritesInteger (front ++ (sign ++ body) ++ back) (signedInt negative (ofDigitValues ds))

/-! ### Digits -/

theorem isWhiteSpace_of_digitValue? {c : Char} {d : Nat} (digit : digitValue? c = some d) :
    Text.isWhiteSpace c = false := by
  have apart : ∀ start ∈ decimalZeros, ∀ k < 10, Text.isWhiteSpace (Char.ofNat (start + k)) = false := by
    decide +kernel
  obtain ⟨start, found, -⟩ := Option.map_eq_some_iff.1 digit
  have within := List.find?_some found
  simp only [Bool.and_eq_true, decide_eq_true_eq] at within
  have space := apart start (List.mem_of_find?_eq_some found) (c.toNat - start) (by omega)
  rwa [Nat.add_sub_cancel' within.1, Char.ofNat_toNat] at space

theorem DigitGroups.first {cs : List Char} {ds : List Nat} (h : DigitGroups cs ds) :
    ∃ c d, c ∈ cs.head? ∧ digitValue? c = some d := by
  cases h <;> exact ⟨_, _, rfl, ‹_›⟩

theorem DigitGroups.final {cs : List Char} {ds : List Nat} (h : DigitGroups cs ds) :
    ∃ c d, c ∈ cs.getLast? ∧ digitValue? c = some d := by
  induction h with
  | last digit => exact ⟨_, _, rfl, digit⟩
  | next _ _ ih =>
    obtain ⟨c, d, stop, digit⟩ := ih
    exact ⟨c, d, by simp_all [List.getLast?_cons], digit⟩
  | apart _ _ ih =>
    obtain ⟨c, d, stop, digit⟩ := ih
    exact ⟨c, d, by simp_all [List.getLast?_cons], digit⟩

theorem digitRun?_digit {c : Char} {d : Nat} (digit : digitValue? c = some d) (after : Bool)
    (done : List Nat) (cs : List Char) :
    digitRun? digitValue? after done (c :: cs) = digitRun? digitValue? true (d :: done) cs := by
  have mark : c ≠ '_' := by
    rintro rfl
    have none : digitValue? '_' = none := by decide +kernel
    cases none.symm.trans digit
  rw [digitRun?.eq_3 _ _ _ _ _ mark, digit]

theorem digitRun?_of_groups {cs : List Char} {ds : List Nat} (groups : DigitGroups cs ds) (after : Bool)
    (done : List Nat) : digitRun? digitValue? after done cs = some (done.reverse ++ ds) := by
  induction groups generalizing after done with
  | last digit => simp [digitRun?_digit digit, digitRun?]
  | next digit _ ih => simp [digitRun?_digit digit, ih]
  | apart digit _ ih => simp [digitRun?_digit digit, digitRun?, ih]

/-- What is read behind a digit: nothing more, more digits, or an underscore and digits. -/
theorem groups_of_digitRun? {cs : List Char} {ds : List Nat} {after : Bool} {done : List Nat}
    (h : digitRun? digitValue? after done cs = some ds) : ∃ more, ds = done.reverse ++ more ∧
      (DigitGroups cs more ∨ after = true ∧ (cs = [] ∧ more = [] ∨
        ∃ rest, cs = '_' :: rest ∧ DigitGroups rest more)) := by
  fun_induction digitRun? digitValue? after done cs with
  | case1 done =>
    exact ⟨[], by simpa using (Option.some.inj h).symm, .inr ⟨rfl, .inl ⟨rfl, rfl⟩⟩⟩
  | case2 => cases h
  | case3 done cs ih =>
    obtain ⟨more, same, groups | ⟨before, -⟩⟩ := ih h
    · exact ⟨more, same, .inr ⟨rfl, .inr ⟨cs, rfl, groups⟩⟩⟩
    · cases before
  | case4 => cases h
  | case5 after done c cs _ d digit ih =>
    obtain ⟨more, same, behind⟩ := ih h
    refine ⟨d :: more, by simpa using same, .inl ?_⟩
    rcases behind with groups | ⟨-, ⟨rfl, rfl⟩ | ⟨rest, rfl, groups⟩⟩
    · exact .next digit groups
    · exact .last digit
    · exact .apart digit groups
  | case6 => cases h

theorem takeSign_append {sign body : List Char} {negative : Bool} {ds : List Nat}
    (signed : SignMark sign negative) (digits : DigitGroups body ds) :
    takeSign (sign ++ body) = (negative, body) := by
  cases signed with
  | none =>
    obtain ⟨c, d, start, digit⟩ := digits.first
    obtain ⟨rest, rfl⟩ := List.head?_eq_some_iff.1 start
    have minus : digitValue? '-' = none := by decide +kernel
    have plus : digitValue? '+' = none := by decide +kernel
    rw [List.nil_append]
    unfold takeSign
    split
    next same =>
      obtain ⟨rfl, -⟩ := List.cons.inj same
      cases minus.symm.trans digit
    next same =>
      obtain ⟨rfl, -⟩ := List.cons.inj same
      cases plus.symm.trans digit
    next => rfl
  | plus => rfl
  | minus => rfl

theorem exists_signMark (cs : List Char) : ∃ sign, SignMark sign (takeSign cs).1 ∧ cs = sign ++ (takeSign cs).2 := by
  unfold takeSign
  split
  · exact ⟨['-'], .minus, rfl⟩
  · exact ⟨['+'], .plus, rfl⟩
  · exact ⟨[], .none, rfl⟩

/-- A number is trimmed of the white space around it and of nothing else. -/
theorem trimBy_of_digits {front sign body back : List Char} {negative : Bool} {ds : List Nat}
    (before : ∀ c ∈ front, Text.isWhiteSpace c = true) (behind : ∀ c ∈ back, Text.isWhiteSpace c = true)
    (signed : SignMark sign negative) (digits : DigitGroups body ds) :
    Text.trimBy Text.isWhiteSpace (front ++ (sign ++ body) ++ back) = sign ++ body := by
  obtain ⟨c, _, start, firstDigit⟩ := digits.first
  obtain ⟨d, _, stop, lastDigit⟩ := digits.final
  apply Text.trimBy_append before behind
  · cases signed with
    | none => exact ⟨c, start, isWhiteSpace_of_digitValue? firstDigit⟩
    | plus => exact ⟨'+', rfl, by decide⟩
    | minus => exact ⟨'-', rfl, by decide⟩
  · refine ⟨d, ?_, isWhiteSpace_of_digitValue? lastDigit⟩
    rw [Option.mem_def] at stop ⊢
    rw [List.getLast?_append, stop, Option.some_or]

/-- What is read as an integer is what writes it. -/
theorem readInteger?_eq_some_iff {cs : List Char} {n : Int} :
    readInteger? cs = some n ↔ WritesInteger cs n := by
  constructor
  · intro h
    obtain ⟨front, back, whole, before, behind⟩ := Text.exists_trimBy Text.isWhiteSpace cs
    obtain ⟨sign, signed, parts⟩ := exists_signMark (Text.trimBy Text.isWhiteSpace cs)
    unfold readInteger? at h
    dsimp only at h
    split at h
    next ds run =>
      split at h
      next short =>
        obtain ⟨more, rfl, digits | ⟨none, -⟩⟩ := groups_of_digitRun? run
        · rw [whole, parts, ← Option.some.inj h]
          exact .intro before behind signed digits short
        · cases none
      next => cases h
    next => cases h
  · rintro ⟨before, behind, signed, digits, short⟩
    unfold readInteger?
    rw [trimBy_of_digits before behind signed digits, takeSign_append signed digits]
    dsimp only
    rw [digitRun?_of_groups digits]
    exact if_pos short

end Bearer
