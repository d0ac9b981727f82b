import Bearer.Text.Utf8

/-!
Decoding UTF-8 inverts encoding: `decode_iff` says that a byte string decodes to a text exactly if it
is the encoding of that text. What is malformed holds no byte below 128, so lossy decoding keeps the
ASCII characters of a byte string.
-/

namespace Bearer.Utf8

/-! ### One character -/

theorem toNat_of_valid {n : Nat} (h : n.isValidChar) : (Char.ofNat n).toNat = n := by
  have valid : Char.ofNat n = Char.ofNatAux n h := dif_pos h
  rw [valid]
  rfl

theorem toNat_toUInt8 {n : Nat} (h : n < 256) : n.toUInt8.toNat = n := by
  simp [Nat.mod_eq_of_lt h]

theorem toUInt8_of_toNat {b : UInt8} {n : Nat} (h : b.toNat = n) : n.toUInt8 = b := by
  subst h
  simp

theorem follow_step {value taken owed : Nat} {low high b : UInt8} {rest : List UInt8}
    (h : low.toNat ≤ b.toNat ∧ b.toNat ≤ high.toNat) :
    follow value taken (owed + 1) low high (b :: rest) =
      follow (value * 64 + (b.toNat - 0x80)) (taken + 1) owed 0x80 0xbf rest := by
  rw [follow, if_pos (by simpa only [UInt8.le_iff_toNat_le] using h)]

def tail (n : Nat) : UInt8 := (0x80 + n % 64).toUInt8

theorem toNat_tail (n : Nat) : (tail n).toNat = 0x80 + n % 64 := toNat_toUInt8 (by omega)

theorem follow_tail (value taken owed n : Nat) (rest : List UInt8) :
    follow value taken (owed + 1) 0x80 0xbf (tail n :: rest) =
      follow (value * 64 + n % 64) (taken + 1) owed 0x80 0xbf rest := by
  have h := toNat_tail n
  rw [follow_step (by rw [h]; exact ⟨by simp, by simp; omega⟩), h, Nat.add_sub_cancel_left]

theorem front_lead {b : UInt8} {rest : List UInt8} {bits owed : Nat} {low high : UInt8}
    (h : lead? b = some (bits, owed, low, high)) :
    front (b :: rest) = follow bits 1 owed low high rest := by
  have big : ¬ b < 0x80 := by
    intro small
    rw [UInt8.lt_iff_toNat_lt] at small
    have : b.toNat < 0xc2 := Nat.lt_of_lt_of_le small (by decide)
    simp [lead?, this] at h
  rw [front, if_neg big, h]

theorem encodeChar_eq (c : Char) : encodeChar c =
    if c.toNat < 0x80 then [c.toNat.toUInt8]
    else if c.toNat < 0x800 then [(0xc0 + c.toNat / 64).toUInt8, tail c.toNat]
    else if c.toNat < 0x10000 then
      [(0xe0 + c.toNat / 4096).toUInt8, tail (c.toNat / 64), tail c.toNat]
    else [(0xf0 + c.toNat / 262144).toUInt8, tail (c.toNat / 4096), tail (c.toNat / 64),
      tail c.toNat] := rfl

theorem front_encodeChar (c : Char) (rest : List UInt8) :
    front (encodeChar c ++ rest) = .char c rest := by
  have valid : c.toNat < 0xd800 ∨ 0xdfff < c.toNat ∧ c.toNat < 0x110000 := c.valid
  have back (v : Nat) (h : v = c.toNat) : Char.ofNat v = c := h ▸ Char.ofNat_toNat c
  rw [encodeChar_eq]
  split
  next one =>
    have small : c.toNat.toUInt8 < 0x80 := by
      rw [UInt8.lt_iff_toNat_lt, toNat_toUInt8 (by omega)]
      exact one
    simp only [List.singleton_append, front, if_pos small, toNat_toUInt8 (show c.toNat < 256 by omega)]
    rw [back _ rfl]
  next one =>
    split
    next two =>
      have lead : lead? (0xc0 + c.toNat / 64).toUInt8 = some (c.toNat / 64, 1, 0x80, 0xbf) := by
        have h : (0xc0 + c.toNat / 64).toUInt8.toNat = 0xc0 + c.toNat / 64 := toNat_toUInt8 (by omega)
        simp only [lead?, h]
        rw [if_neg (by omega), if_pos (by omega), Nat.add_sub_cancel_left]
      rw [List.cons_append, List.singleton_append, front_lead lead, follow_tail, follow,
        back _ (by omega)]
    next two =>
      split
      next three =>
        have h : (0xe0 + c.toNat / 4096).toUInt8.toNat = 0xe0 + c.toNat / 4096 :=
          toNat_toUInt8 (by omega)
        have lead : ∃ low high, lead? (0xe0 + c.toNat / 4096).toUInt8 =
            some (c.toNat / 4096, 2, low, high) ∧ 
            low.toNat ≤ (tail (c.toNat / 64)).toNat ∧ (tail (c.toNat / 64)).toNat ≤ high.toNat := by
          simp only [lead?, h]
          rw [if_neg (by omega), if_neg (by omega), if_pos (by omega), Nat.add_sub_cancel_left]
          refine ⟨_, _, rfl, ?_⟩
          rw [toNat_tail]
          constructor <;> split <;> simp <;> omega
        obtain ⟨low, high, lead, within⟩ := lead
        rw [List.cons_append, List.cons_append, List.singleton_append, front_lead lead,
          follow_step within, follow_tail, follow, toNat_tail, back _ (by omega)]
      next three =>
        have h : (0xf0 + c.toNat / 262144).toUInt8.toNat = 0xf0 + c.toNat / 262144 :=
          toNat_toUInt8 (by omega)
        have lead : ∃ low high, lead? (0xf0 + c.toNat / 262144).toUInt8 =
            some (c.toNat / 262144, 3, low, high) ∧ 
            low.toNat ≤ (tail (c.toNat / 4096)).toNat ∧ (tail (c.toNat / 4096)).toNat ≤ high.toNat := by
          simp only [lead?, h]
          rw [if_neg (by omega), if_neg (by omega), if_neg (by omega), if_pos (by omega),
            Nat.add_sub_cancel_left]
          refine ⟨_, _, rfl, ?_⟩
          rw [toNat_tail]
          constructor <;> split <;> simp <;> omega
        obtain ⟨low, high, lead, within⟩ := lead
        rw [List.cons_append, List.cons_append, List.cons_append, List.singleton_append, front_lead lead,
          follow_step within, follow_tail, follow_tail, follow, toNat_tail, back _ (by omega)]

theorem of_follow_zero {value taken : Nat} {low high : UInt8} {bs rest : List UInt8} {c : Char}
    (h : follow value taken 0 low high bs = .char c rest) : c = Char.ofNat value ∧ bs = rest := by
  rw [follow] at h
  exact ⟨(Front.char.inj h).1.symm, (Front.char.inj h).2⟩

theorem of_follow_succ {value taken owed : Nat} {low high : UInt8} {bs rest : List UInt8} {c : Char}
    (h : follow value taken (owed + 1) low high bs = .char c rest) :
    ∃ b more, bs = b :: more ∧ low.toNat ≤ b.toNat ∧ b.toNat ≤ high.toNat ∧
      follow (value * 64 + (b.toNat - 0x80)) (taken + 1) owed 0x80 0xbf more = .char c rest := by
  cases bs with
  | nil => cases h
  | cons b more =>
    rw [follow] at h
    split at h
    next within =>
      rw [UInt8.le_iff_toNat_le, UInt8.le_iff_toNat_le] at within
      exact ⟨b, more, rfl, within.1, within.2, h⟩
    next => cases h

theorem of_follow_tail {value taken owed : Nat} {bs rest : List UInt8} {c : Char}
    (h : follow value taken (owed + 1) 0x80 0xbf bs = .char c rest) :
    ∃ b more, bs = b :: more ∧ 0x80 ≤ b.toNat ∧ b.toNat ≤ 0xbf ∧
      follow (value * 64 + (b.toNat - 0x80)) (taken + 1) owed 0x80 0xbf more = .char c rest := by
  obtain ⟨b, more, rfl, low, high, h⟩ := of_follow_succ h
  exact ⟨b, more, rfl, by simpa using low, by simpa using high, h⟩

/-- What a first byte above 127 says of the character: its length, its first bits and, where not
every second byte may follow, the bounds of that. -/
theorem lead_cases {b low high : UInt8} {bits owed : Nat}
    (h : lead? b = some (bits, owed, low, high)) :
    0x80 ≤ low.toNat ∧ high.toNat ≤ 0xbf ∧
    ((owed = 1 ∧ 0xc2 ≤ b.toNat ∧ b.toNat < 0xe0 ∧ bits = b.toNat - 0xc0) ∨
      (owed = 2 ∧ 0xe0 ≤ b.toNat ∧ b.toNat < 0xf0 ∧ bits = b.toNat - 0xe0 ∧
        (b.toNat = 0xe0 → 0xa0 ≤ low.toNat) ∧ (b.toNat = 0xed → high.toNat ≤ 0x9f)) ∨
      (owed = 3 ∧ 0xf0 ≤ b.toNat ∧ b.toNat < 0xf5 ∧ bits = b.toNat - 0xf0 ∧
        (b.toNat = 0xf0 → 0x90 ≤ low.toNat) ∧ (b.toNat = 0xf4 → high.toNat ≤ 0x8f))) := by
  simp only [lead?] at h
  split at h
  · cases h
  split at h
  · obtain ⟨rfl, rfl, rfl, rfl⟩ : _ ∧ _ ∧ _ ∧ _ := by simpa using h
    exact ⟨by decide, by decide, .inl ⟨rfl, by omega, by omega, rfl⟩⟩
  split at h
  · obtain ⟨rfl, rfl, rfl, rfl⟩ : _ ∧ _ ∧ _ ∧ _ := by simpa using h
    refine ⟨by split <;> decide, by split <;> decide, .inr (.inl ⟨rfl, by omega, by omega, rfl, ?_, ?_⟩)⟩
    · exact fun e => by simp [e]
    · exact fun e => by simp [e]
  split at h
  · obtain ⟨rfl, rfl, rfl, rfl⟩ : _ ∧ _ ∧ _ ∧ _ := by simpa using h
    refine ⟨by split <;> decide, by split <;> decide, .inr (.inr ⟨rfl, by omega, by omega, rfl, ?_, ?_⟩)⟩
    · exact fun e => by simp [e]
    · exact fun e => by simp [e]
  · cases h

theorem tail_of_toNat {b : UInt8} {n : Nat} (h : b.toNat = 0x80 + n % 64) : tail n = b :=
  toUInt8_of_toNat h

theorem eq_encodeChar_of_front {bs rest : List UInt8} {c : Char} (h : front bs = .char c rest) :
    bs = encodeChar c ++ rest := by
  cases bs with
  | nil => cases h
  | cons b bs =>
    rw [front] at h
    split at h
    next small =>
      obtain ⟨rfl, rfl⟩ := Front.char.inj h
      have small : b.toNat < 128 := by simpa [UInt8.lt_iff_toNat_lt] using small
      have value : (Char.ofNat b.toNat).toNat = b.toNat := toNat_of_valid (.inl (by omega))
      rw [encodeChar_eq, value, if_pos small, toUInt8_of_toNat rfl]
      rfl
    next =>
      split at h
      · cases h
      next bits owed low high lead =>
        obtain ⟨lowest, highest, ⟨rfl, hb⟩ | ⟨rfl, hb⟩ | ⟨rfl, hb⟩⟩ := lead_cases lead
        · obtain ⟨b₁, more, rfl, low₁, high₁, h⟩ := of_follow_succ h
          obtain ⟨hc, rfl⟩ := of_follow_zero h
          have value : c.toNat = bits * 64 + (b₁.toNat - 0x80) :=
            hc ▸ toNat_of_valid (.inl (by omega))
          rw [encodeChar_eq, value, if_neg (by omega), if_pos (by omega),
            toUInt8_of_toNat (b := b) (by omega), tail_of_toNat (b := b₁) (by omega)]
          rfl
        · obtain ⟨b₁, more, rfl, low₁, high₁, h⟩ := of_follow_succ h
          obtain ⟨b₂, more, rfl, low₂, high₂, h⟩ := of_follow_tail h
          obtain ⟨hc, rfl⟩ := of_follow_zero h
          have value : c.toNat = (bits * 64 + (b₁.toNat - 0x80)) * 64 + (b₂.toNat - 0x80) :=
            hc ▸ toNat_of_valid (by unfold Nat.isValidChar; omega)
          rw [encodeChar_eq, value, if_neg (by omega), if_neg (by omega), if_pos (by omega),
            toUInt8_of_toNat (b := b) (by omega), tail_of_toNat (b := b₁) (by omega),
            tail_of_toNat (b := b₂) (by omega)]
          rfl
        · obtain ⟨b₁, more, rfl, low₁, high₁, h⟩ := of_follow_succ h
          obtain ⟨b₂, more, rfl, low₂, high₂, h⟩ := of_follow_tail h
          obtain ⟨b₃, more, rfl, low₃, high₃, h⟩ := of_follow_tail h
          obtain ⟨hc, rfl⟩ := of_follow_zero h
          have value : c.toNat = ((bits * 64 + (b₁.toNat - 0x80)) * 64 + (b₂.toNat - 0x80)) * 64 +
              (b₃.toNat - 0x80) := hc ▸ toNat_of_valid (by unfold Nat.isValidChar; omega)
          rw [encodeChar_eq, value, if_neg (by omega), if_neg (by omega), if_neg (by omega),
            toUInt8_of_toNat (b := b) (by omega), tail_of_toNat (b := b₁) (by omega),
            tail_of_toNat (b := b₂) (by omega), tail_of_toNat (b := b₃) (by omega)]
          rfl

theorem follow_ne_done (value taken owed : Nat) (low high : UInt8) (bs : List UInt8) :
    follow value taken owed low high bs ≠ .done := by
  induction owed generalizing value taken low high bs with
  | zero => simp [follow]
  | succ owed ih =>
    cases bs with
    | nil => simp [follow]
    | cons b bs =>
      rw [follow]
      split
      · exact ih _ _ _ _ _
      · simp

theorem eq_nil_of_front {bs : List UInt8} (h : front bs = .done) : bs = [] := by
  cases bs with
  | nil => rfl
  | cons b bs =>
    rw [front] at h
    split at h
    · cases h
    · split at h
      · cases h
      · exact absurd h (follow_ne_done _ _ _ _ _ _)

/-! ### Whole texts -/

@[simp] theorem encode_cons (c : Char) (cs : List Char) : encode (c :: cs) = encodeChar c ++ encode cs :=
  List.flatMap_cons

theorem decodeFrom_encode (position : Nat) (done cs : List Char) :
    decodeFrom position done (encode cs) = .ok (done.reverse ++ cs) := by
  induction cs generalizing position done with
  | nil =>
    rw [decodeFrom, List.append_nil]
    rfl
  | cons c cs ih =>
    have hfront := front_encodeChar c (encode cs)
    rw [encode_cons, decodeFrom]
    split
    next h => simp [hfront] at h
    next h =>
      obtain ⟨rfl, rfl⟩ := Front.char.inj (hfront.symm.trans h)
      simpa using ih (position + c.utf8Size) (c :: done)
    next h => simp [hfront] at h

theorem eq_encode_of_decodeFrom {position : Nat} {done cs : List Char} {bs : List UInt8}
    (h : decodeFrom position done bs = .ok cs) :
    ∃ more, cs = done.reverse ++ more ∧ bs = encode more := by
  fun_induction decodeFrom position done bs with
  | case1 position done bs hfront =>
    exact ⟨[], by simpa using (Except.ok.inj h).symm, eq_nil_of_front hfront⟩
  | case2 position done bs c rest hfront _ ih =>
    obtain ⟨more, rfl, rfl⟩ := ih h
    exact ⟨c :: more, by simp, eq_encodeChar_of_front hfront⟩
  | case3 => cases h

theorem decode_iff {bs : List UInt8} {cs : List Char} : decode bs = .ok cs ↔ bs = encode cs := by
  constructor
  · intro h
    obtain ⟨more, rfl, hbs⟩ := eq_encode_of_decodeFrom h
    simpa using hbs
  · rintro rfl
    exact decodeFrom_encode 0 [] cs

theorem encode_injective {cs ds : List Char} (h : encode cs = encode ds) : cs = ds :=
  Except.ok.inj ((decode_iff.2 rfl).symm.trans (decode_iff.2 h))

/-! ### Lossy decoding -/

theorem decodeLossyFrom_encode (done cs : List Char) :
    decodeLossyFrom done (encode cs) = done.reverse ++ cs := by
  induction cs generalizing done with
  | nil =>
    rw [decodeLossyFrom, List.append_nil]
    rfl
  | cons c cs ih =>
    have hfront := front_encodeChar c (encode cs)
    rw [encode_cons, decodeLossyFrom]
    split
    next h => simp [hfront] at h
    next h =>
      obtain ⟨rfl, rfl⟩ := Front.char.inj (hfront.symm.trans h)
      simpa using ih (c :: done)
    next h => simp [hfront] at h

theorem decodeLossy_encode (cs : List Char) : decodeLossy (encode cs) = cs :=
  decodeLossyFrom_encode [] cs

def isAscii (b : UInt8) : Bool := b.toNat < 0x80

theorem encodeChar_ascii {c : Char} (h : c.toNat < 0x80) : encodeChar c = [c.toNat.toUInt8] := by
  rw [encodeChar_eq, if_pos h]

theorem isAscii_of_mem_encodeChar {c : Char} (h : ¬ c.toNat < 0x80) {b : UInt8}
    (hb : b ∈ encodeChar c) : isAscii b = false := by
  have bound : c.toNat < 0xd800 ∨ 0xdfff < c.toNat ∧ c.toNat < 0x110000 := c.valid
  have tail_high (n : Nat) : isAscii (tail n) = false := by simp [isAscii, toNat_tail]
  have lead_high (n : Nat) (low : 0x80 ≤ n) (high : n < 256) : isAscii n.toUInt8 = false := by
    simpa [isAscii, toNat_toUInt8 high] using low
  rw [encodeChar_eq, if_neg h] at hb
  split at hb
  · simp only [List.mem_cons, List.not_mem_nil, or_false] at hb
    rcases hb with rfl | rfl
    · exact lead_high _ (by omega) (by omega)
    · exact tail_high _
  split at hb
  · simp only [List.mem_cons, List.not_mem_nil, or_false] at hb
    rcases hb with rfl | rfl | rfl
    · exact lead_high _ (by omega) (by omega)
    all_goals exact tail_high _
  · simp only [List.mem_cons, List.not_mem_nil, or_false] at hb
    rcases hb with rfl | rfl | rfl | rfl
    · exact lead_high _ (by omega) (by omega)
    all_goals exact tail_high _

/-- What the wrong bytes of a character look like: none of them is a character of its own. -/
theorem of_follow_malformed {value taken owed : Nat} {low high : UInt8} {bs rest : List UInt8}
    {reason : Reason} {n : Nat} (bound : 0x80 ≤ low.toNat)
    (h : follow value taken owed low high bs = .malformed reason n rest) :
    ∃ bad, bs = bad ++ rest ∧ ∀ b ∈ bad, isAscii b = false := by
  induction owed generalizing value taken low high bs with
  | zero => cases h
  | succ owed ih =>
    cases bs with
    | nil =>
      obtain ⟨-, -, rfl⟩ := Front.malformed.inj h
      exact ⟨[], rfl, by simp⟩
    | cons b bs =>
      rw [follow] at h
      split at h
      next within =>
        obtain ⟨bad, rfl, wrong⟩ := ih (by decide) h
        refine ⟨b :: bad, rfl, ?_⟩
        have big : low.toNat ≤ b.toNat := UInt8.le_iff_toNat_le.1 within.1
        intro c hc
        rcases List.mem_cons.1 hc with rfl | hc
        · simp only [isAscii, decide_eq_false_iff_not]
          omega
        · exact wrong c hc
      next =>
        obtain ⟨-, -, rfl⟩ := Front.malformed.inj h
        exact ⟨[], rfl, by simp⟩

theorem of_front_malformed {bs rest : List UInt8} {reason : Reason} {n : Nat}
    (h : front bs = .malformed reason n rest) :
    ∃ bad, bs = bad ++ rest ∧ ∀ b ∈ bad, isAscii b = false := by
  cases bs with
  | nil => cases h
  | cons b bs =>
    rw [front] at h
    split at h
    next => cases h
    next big =>
      have wrong : isAscii b = false := by
        simpa [isAscii, UInt8.lt_iff_toNat_lt] using big
      split at h
      next =>
        obtain ⟨-, -, rfl⟩ := Front.malformed.inj h
        exact ⟨[b], rfl, by simpa using wrong⟩
      next lead =>
        obtain ⟨bad, rfl, others⟩ := of_follow_malformed (lead_cases lead).1 h
        exact ⟨b :: bad, rfl, by simpa [wrong] using others⟩

def countAscii (cs : List Char) : Nat := cs.countP (·.toNat < 0x80)

theorem countP_encodeChar (c : Char) : (encodeChar c).countP isAscii = countAscii [c] := by
  by_cases ascii : c.toNat < 0x80
  · simp [countAscii, encodeChar_ascii ascii, isAscii, ascii]
    omega
  · have none : ∀ b ∈ encodeChar c, ¬ isAscii b = true := fun b hb => by
      simp [isAscii_of_mem_encodeChar ascii hb]
    simp [countAscii, ascii, List.countP_eq_zero.2 none]

theorem countAscii_decodeLossyFrom (done : List Char) (bs : List UInt8) :
    countAscii (decodeLossyFrom done bs) = countAscii done + bs.countP isAscii := by
  fun_induction decodeLossyFrom done bs with
  | case1 done bs hfront =>
    obtain rfl := eq_nil_of_front hfront
    simp [countAscii]
  | case2 done bs c rest hfront _ ih =>
    rw [ih, eq_encodeChar_of_front hfront, List.countP_append, countP_encodeChar]
    simp only [countAscii, List.countP_cons, List.countP_nil]
    omega
  | case3 done bs _ _ rest hfront _ ih =>
    obtain ⟨bad, rfl, wrong⟩ := of_front_malformed hfront
    have none : bad.countP isAscii = 0 := List.countP_eq_zero.2 fun b hb => by simp [wrong b hb]
    rw [ih, List.countP_append, none]
    simp [countAscii]

/-- Lossy decoding keeps the characters of ASCII, and no malformed byte becomes one. -/
theorem countAscii_decodeLossy (bs : List UInt8) :
    countAscii (decodeLossy bs) = bs.countP isAscii := by
  rw [decodeLossy, countAscii_decodeLossyFrom]
  simp [countAscii]

end Bearer.Utf8
