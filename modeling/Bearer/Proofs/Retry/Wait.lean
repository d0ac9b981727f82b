import Bearer.Proofs.Number.Order
import Bearer.Proofs.Settings
import Bearer.Retry

/-!
The waits of a policy. Its fields are checked when it is made (`sound_of_ofFields`), and from their bounds
it follows that every wait lies between zero and the longest one and that waits never get shorter, also
where rounding has a part in them and where the growth leaves the range of numbers.
-/

namespace Bearer

open Double (NotNegative powerUnits)

/-! ### Policies that are accepted -/

namespace RetryPolicy

structure Sound (p : RetryPolicy) : Prop where
  attempts : 1 ≤ p.attempts
  waitInitial : Double.le .zero p.waitInitial = true
  waitMax : Double.le .zero p.waitMax = true
  waitJitter : Double.le .zero p.waitJitter = true
  waitBase : Double.le (.finite false Double.one) p.waitBase = true

theorem sound_of_ofFields {fields : Json.Members} {p : RetryPolicy} (h : ofFields fields = .ok p) :
    p.Sound := by
  have zero : Double.ofInt (0 : Nat) = .zero := by decide +kernel
  have one : Double.ofInt (1 : Nat) = .finite false Double.one := by decide +kernel
  have number {name : String} {default x : Double} {least : Nat}
      (read : Field.withDefault fields name default (Field.numberAtLeast least) = .ok x)
      (standard : (Double.ofInt least).le default = true) : (Double.ofInt least).le x = true := by
    obtain ⟨-, rfl⟩ | ⟨v, -, read⟩ := Field.withDefault_eq_ok_iff.1 read
    · exact standard
    · exact (Field.numberAtLeast_eq_ok_iff.1 read).2
  simp only [ofFields, map_eq_ok_iff, Checked.both_eq_ok_iff] at h
  obtain ⟨⟨attempts, initial, most, jitter, base⟩, ⟨readAttempts, readInitial, readMost, readJitter,
    readBase⟩, rfl⟩ := h
  refine ⟨?_, ?_, ?_, ?_, ?_⟩
  · have least : 1 ≤ attempts := by
      obtain ⟨-, same⟩ | ⟨v, -, read⟩ := Field.withDefault_eq_ok_iff.1 readAttempts
      · dsimp only at same
        omega
      · exact (Field.integerAtLeast_eq_ok_iff.1 read).2
    show 1 ≤ attempts.toNat
    omega
  · exact zero ▸ number readInitial (by decide +kernel)
  · exact zero ▸ number readMost (by decide +kernel)
  · exact zero ▸ number readJitter (by decide +kernel)
  · exact one ▸ number readBase (by decide +kernel)

structure IsFinite (p : RetryPolicy) : Prop where
  waitInitial : p.waitInitial.isFinite = true
  waitMax : p.waitMax.isFinite = true
  waitJitter : p.waitJitter.isFinite = true
  waitBase : p.waitBase.isFinite = true

variable {p : RetryPolicy} {jitter : Double}

theorem Sound.base_cases (sound : p.Sound) :
    (∃ u, p.waitBase = .finite false u ∧ Double.one ≤ u) ∨ p.waitBase = .infinite false := by
  have least := sound.waitBase
  cases base : p.waitBase with
  | finite s u =>
    have order : Double.signed false Double.one ≤ Double.signed s u := by simpa [base, Double.le] using least
    have pos := Double.one_pos
    cases s with
    | true => simp only [Double.signed, if_true, Bool.false_eq_true, if_false] at order; omega
    | false =>
      simp only [Double.signed, Bool.false_eq_true, if_false] at order
      exact .inl ⟨u, rfl, Int.ofNat_le.1 order⟩
  | infinite s =>
    rw [base] at least
    obtain rfl : s = false := by simpa [Double.le] using least
    exact .inr rfl
  | nan => rw [base] at least; cases least

/-! ### Bounds of a wait -/

theorem notNegative_growth (sound : p.Sound) {n : Nat} {x : Double} (h : p.growth? n = some x) :
    NotNegative x := by
  obtain ⟨y, power, rfl⟩ := Option.map_eq_some_iff.1 h
  refine NotNegative.mul (.inr sound.waitInitial) ?_
  obtain ⟨u, base, least⟩ | base := sound.base_cases
  · rw [base, Double.powNat?_eq least] at power
    split at power
    · obtain rfl := Option.some.inj power
      exact Double.notNegative_finite.2 (by simp)
    · cases power
  · rw [base] at power
    cases exponent : n - 1 with
    | zero =>
      rw [exponent] at power
      obtain rfl := Option.some.inj power
      exact Double.notNegative_finite.2 (by simp)
    | succ k =>
      rw [exponent] at power
      obtain rfl := Option.some.inj power
      exact Double.notNegative_infinite.2 rfl

theorem wait_le_waitMax (sound : p.Sound) (jitter : Double) (n : Nat) :
    (p.wait jitter n).le p.waitMax = true := by
  have number := (Double.ne_nan_of_le sound.waitMax).2
  unfold wait
  split
  · exact Double.min_le_left number _
  · exact Double.le_refl number

theorem zero_le_wait (sound : p.Sound) (share : NotNegative jitter) (n : Nat) :
    Double.le .zero (p.wait jitter n) = true := by
  unfold wait
  split
  next x growth =>
    have sum := (notNegative_growth sound growth).add (NotNegative.mul (.inr sound.waitJitter) share)
    rcases sum with same | above
    · rw [same, Double.min_nan]
      exact sound.waitMax
    · exact Double.le_min sound.waitMax above
  next => exact sound.waitMax

/-! ### Growth of a wait -/

/-- The wait after attempt `n` as the fields of a policy make it: the first wait, grown by the base with each
attempt before, and a share of the jitter, but no more than the longest wait; and that one if the growth
is out of range. -/
inductive IsWait (p : RetryPolicy) (jitter : Double) (n : Nat) : Double → Prop
  | grown {u : Nat} (base : p.waitBase = .finite false u) (inRange : powerUnits u (n - 1) < Double.limit) :
    IsWait p jitter n
      (.min p.waitMax (p.waitInitial * .finite false (powerUnits u (n - 1)) + p.waitJitter * jitter))
  | longest {u : Nat} (base : p.waitBase = .finite false u) (beyond : Double.limit ≤ powerUnits u (n - 1)) :
    IsWait p jitter n p.waitMax

theorem wait_eq {u : Nat} (base : p.waitBase = .finite false u) (least : Double.one ≤ u) (jitter : Double)
    (n : Nat) : p.wait jitter n = if powerUnits u (n - 1) < Double.limit then
      .min p.waitMax (p.waitInitial * .finite false (powerUnits u (n - 1)) + p.waitJitter * jitter)
    else p.waitMax := by
  unfold wait growth?
  rw [base, Double.powNat?_eq least]
  by_cases inRange : powerUnits u (n - 1) < Double.limit <;> simp [inRange]

theorem IsFinite.base_cases (finite : p.IsFinite) (sound : p.Sound) :
    ∃ u, p.waitBase = .finite false u ∧ Double.one ≤ u := by
  obtain found | base := sound.base_cases
  · exact found
  · have number := finite.waitBase
    rw [base] at number
    cases number

theorem isWait_wait (sound : p.Sound) (finite : p.IsFinite) (jitter : Double) (n : Nat) :
    p.IsWait jitter n (p.wait jitter n) := by
  obtain ⟨u, base, least⟩ := finite.base_cases sound
  rw [wait_eq base least]
  split
  next inRange => exact .grown base inRange
  next beyond => exact .longest base (Nat.le_of_not_lt beyond)

/-- A wait is no longer than the next one. -/
theorem wait_le_succ (sound : p.Sound) (finite : p.IsFinite) (share : NotNegative jitter)
    (number : jitter.isFinite = true) (n : Nat) : (p.wait jitter n).le (p.wait jitter (n + 1)) = true := by
  obtain ⟨u, base, least⟩ := finite.base_cases sound
  have grows : powerUnits u (n - 1) ≤ powerUnits u n := by
    cases n with
    | zero => exact Nat.le_refl _
    | succ n => exact Double.powerUnits_mono least n
  have longer := wait_le_waitMax sound jitter n
  rw [wait_eq base least, wait_eq base least] at *
  rw [Nat.add_sub_cancel]
  by_cases inRange : powerUnits u n < Double.limit
  · rw [if_pos (Nat.lt_of_le_of_lt grows inRange), if_pos inRange]
    -- neither sum is NaN, as nothing in them is negative
    have sum (v : Nat) : p.waitInitial * .finite false v + p.waitJitter * jitter ≠ .nan := by
      refine NotNegative.add_ne_nan ?_ ?_ (Double.mul_ne_nan finite.waitInitial rfl)
        (Double.mul_ne_nan finite.waitJitter number)
      · exact NotNegative.mul (.inr sound.waitInitial) (Double.notNegative_finite.2 (by simp))
      · exact NotNegative.mul (.inr sound.waitJitter) share
    apply Double.min_mono (Double.ne_nan_of_le sound.waitMax).2
    exact Double.add_mono_right (Double.mul_mono_finite (.inr sound.waitInitial) finite.waitInitial grows)
      (sum _) (sum _)
  · rw [if_neg inRange]
    exact longer

theorem wait_mono (sound : p.Sound) (finite : p.IsFinite) (share : NotNegative jitter)
    (number : jitter.isFinite = true) {m n : Nat} (h : m ≤ n) : (p.wait jitter m).le (p.wait jitter n) = true := by
  induction n, h using Nat.le_induction with
  | base => exact Double.le_refl (Double.ne_nan_of_le (wait_le_waitMax sound jitter m)).1
  | succ n _ ih => exact Double.le_trans ih (wait_le_succ sound finite share number n)

end RetryPolicy

end Bearer
