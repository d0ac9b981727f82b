import Bearer.Proofs.Number.Order

/-!
The whole number nearest to a double. It is the floor of the exact sum with one half (`nearest_iff`), but what
is computed is the floor of the double nearest to that sum. The two differ just below one half, and at the odd
numbers among those whose neighbours are one apart (`floor_add_half`); there the computed one is one
further from zero.
-/

namespace Bearer.Double

/-! ### Nearest whole numbers -/

/-- No whole number is nearer to a signed number of units than `n`, and none that is as near is further from
zero. -/
structure Nearest (negative : Bool) (units : Nat) (n : Int) : Prop where
  near : ∀ k : Int, (signed negative units - n * one).natAbs ≤ (signed negative units - k * one).natAbs
  away : ∀ k : Int, (signed negative units - k * one).natAbs = (signed negative units - n * one).natAbs →
    k.natAbs ≤ n.natAbs

def nearestUnits (u : Nat) : Nat := (u + one / 2) / one

theorem signed_false (u : Nat) : signed false u = (u : Int) := rfl

theorem signed_true (u : Nat) : signed true u = -(u : Int) := rfl

theorem two_mul_half : 2 * (one / 2) = one := by
  rw [one_div_two, one, Nat.mul_comm, ← twoPow_succ]

/-- Different whole numbers are at least one apart. -/
theorem apart (k n : Int) : k = n ∨ k * one + one ≤ n * one ∨ n * one + one ≤ k * one := by
  have step {a b : Int} (less : a < b) : a * one + one ≤ b * one := by
    have product : (a + 1) * one ≤ b * one := Int.mul_le_mul_of_nonneg_right (by omega) (by omega)
    rwa [Int.add_mul, Int.one_mul] at product
  rcases Int.lt_trichotomy k n with below | same | above
  · exact .inr (.inl (step below))
  · exact .inl same
  · exact .inr (.inr (step above))

theorem nearestUnits_bounds (u : Nat) : nearestUnits u * one ≤ u + one / 2 ∧
    u + one / 2 < (nearestUnits u + 1) * one := by
  have whole := Nat.div_add_mod (u + one / 2) one
  have less := Nat.mod_lt (u + one / 2) one_pos
  rw [Nat.mul_comm, ← nearestUnits] at whole
  rw [Nat.add_mul, Nat.one_mul]
  omega

theorem nearest_magnitude (u : Nat) : Nearest false u (nearestUnits u) := by
  obtain ⟨low, high⟩ := nearestUnits_bounds u
  rw [Nat.add_mul, Nat.one_mul] at high
  have product : ((nearestUnits u * one : Nat) : Int) = (nearestUnits u : Int) * one := Int.natCast_mul _ _
  have half := two_mul_half
  have pos := one_pos
  constructor
  · intro k
    rw [signed_false]
    obtain rfl | below | above := apart k (nearestUnits u)
    · exact Nat.le_refl _
    · omega
    · omega
  · intro k tie
    rw [signed_false] at tie
    obtain rfl | below | above := apart k (nearestUnits u)
    · exact Nat.le_refl _
    · -- the magnitude is half way between `k` and the next number, which is away from zero
      have next : (k + 1) * one = (nearestUnits u : Int) * one := by
        rw [Int.add_mul, Int.one_mul]
        omega
      have same : k + 1 = (nearestUnits u : Int) := Int.eq_of_mul_eq_mul_right (by omega) next
      have positive : nearestUnits u ≠ 0 := by
        intro zero
        simp only [zero, Int.natCast_zero, Int.zero_mul] at below tie
        omega
      omega
    · omega

theorem nearest_neg {u : Nat} {n : Int} (h : Nearest false u n) : Nearest true u (-n) := by
  have mirrored (k : Int) : (signed true u - k * one).natAbs = (signed false u - -k * one).natAbs := by
    rw [signed_true, signed_false, Int.neg_mul]
    omega
  constructor
  · intro k
    rw [mirrored, mirrored k, Int.neg_neg]
    exact h.near _
  · intro k tie
    rw [mirrored, mirrored (-n), Int.neg_neg] at tie
    rw [Int.natAbs_neg, ← Int.natAbs_neg k]
    exact h.away _ tie

theorem nearest_nearestUnits (negative : Bool) (u : Nat) :
    Nearest negative u (signed negative (nearestUnits u)) := by
  cases negative with
  | false =>
    rw [signed_false]
    exact nearest_magnitude u
  | true =>
    rw [signed_true]
    exact nearest_neg (nearest_magnitude u)

theorem Nearest.eq {negative : Bool} {u : Nat} {m n : Int} (hm : Nearest negative u m)
    (hn : Nearest negative u n) : m = n := by
  have tie := Nat.le_antisymm (hm.near n) (hn.near m)
  have size := Nat.le_antisymm (hm.away n tie.symm) (hn.away m tie)
  rcases Int.natAbs_eq_natAbs_iff.1 size with rfl | opposite
  · rfl
  · -- of two opposite numbers that are as near as each other neither is nearer than zero
    subst opposite
    have pos := one_pos
    have zero := hm.near 0
    rw [Int.neg_mul] at tie
    rw [Int.zero_mul] at zero
    obtain rfl | above | below := apart m 0
    · rfl
    · rw [Int.zero_mul] at above
      omega
    · rw [Int.zero_mul] at below
      omega

/-- Every number of units has one nearest whole number, halves away from zero. -/
theorem nearest_iff {negative : Bool} {u : Nat} {n : Int} :
    Nearest negative u n ↔ n = signed negative (nearestUnits u) := by
  constructor
  · exact fun h => h.eq (nearest_nearestUnits negative u)
  · rintro rfl
    exact nearest_nearestUnits negative u

/-! ### The floor of a sum with one half -/

/-- The magnitudes whose sum with one half is a whole number further, taken as a double, than it is: the last
one below one half, and the odd numbers from `2 ^ 52` to `2 ^ 53`. -/
inductive Overshoots : Nat → Prop
  | belowHalf : Overshoots (one / 2 - twoPow 1020)
  | odd {k : Nat} (least : twoPow 52 < k) (most : k < twoPow 53) (odd : k % 2 = 1) : Overshoots (k * one)

theorem bitLength_eq {u k : Nat} (low : twoPow k ≤ u) (high : u < twoPow (k + 1)) : bitLength u = k + 1 := by
  have most : bitLength u ≤ k + 1 := lt_twoPow_iff.1 high
  have least : ¬ bitLength u ≤ k := fun shorter => Nat.not_lt.2 low (lt_twoPow_iff.2 shorter)
  omega

theorem spacing_eq {u k : Nat} (low : twoPow (k + 52) ≤ u) (high : u < twoPow (k + 53)) :
    spacing u = twoPow k := by
  have length : bitLength u = k + 53 := bitLength_eq low high
  rw [spacing, length, Nat.add_sub_cancel]

/-- A sum that does not reach the next power of two keeps the grid of its larger part. -/
theorem onGrid_add {u v : Nat} (grid : OnGrid u) (divides : spacing u ∣ v)
    (short : bitLength (u + v) ≤ bitLength u) : OnGrid (u + v) := by
  have same : spacing (u + v) = spacing u := by
    rw [spacing, spacing, Nat.le_antisymm short (bitLength_mono (Nat.le_add_right u v))]
  rw [OnGrid, same]
  exact Nat.dvd_add grid divides

/-- A double between a number and the next whole one keeps the sum from being rounded up to the latter. -/
theorem floor_roundUnits {m n g : Nat} (small : m < twoPow 53) (low : m * one ≤ n) (grid : OnGrid g)
    (above : n ≤ g) (below : g < (m + 1) * one) : floorUnits (roundUnits n 1) = m := by
  have least : m * one ≤ roundUnits n 1 := le_roundUnits Nat.one_pos (onGrid_of_lt small) (by omega)
  have most : roundUnits n 1 ≤ g := roundUnits_le Nat.one_pos grid (by omega)
  exact Nat.div_eq_of_lt_le least (Nat.lt_of_le_of_lt most below)

/-- From one on, but not yet half way to the next number, the sum is a double. -/
theorem onGrid_add_half {u : Nat} (grid : OnGrid u) (low : nearestUnits u * one ≤ u)
    (pos : 0 < nearestUnits u) (small : nearestUnits u < twoPow 52) : OnGrid (u + one / 2) := by
  obtain ⟨-, high⟩ := nearestUnits_bounds u
  refine onGrid_add grid ?_ ?_
  · have top : u < twoPow 1126 := by
      calc u < (nearestUnits u + 1) * one := by omega
        _ ≤ twoPow 52 * one := Nat.mul_le_mul_right _ small
        _ = twoPow 1126 := by rw [one_eq, ← twoPow_add]
    have length := lt_twoPow_iff.1 top
    rw [one_div_two]
    exact twoPow_dvd (by omega)
  · -- the next power of two is a whole number, which the sum does not reach either
    generalize hk : bitLength u = k
    have below : u < twoPow k := lt_twoPow_iff.2 (by omega)
    have large : 1074 ≤ k := by
      by_contra short
      have shorter := twoPow_lt (Nat.lt_of_not_le short)
      rw [← one_eq] at shorter
      have least := Nat.le_mul_of_pos_left one pos
      omega
    obtain ⟨j, rfl⟩ := Nat.exists_eq_add_of_le' large
    rw [twoPow_add, ← one_eq] at below
    have next : nearestUnits u + 1 ≤ twoPow j := Nat.lt_of_mul_lt_mul_right (Nat.lt_of_le_of_lt low below)
    refine lt_twoPow_iff.1 (Nat.lt_of_lt_of_le high ?_)
    rw [twoPow_add, ← one_eq]
    exact Nat.mul_le_mul_right _ next

/-- Below one half, all doubles but the last one are at least two steps away from it. -/
theorem below_half {u : Nat} (grid : OnGrid u) (less : u < one / 2) (notLast : u ≠ one / 2 - twoPow 1020) :
    u ≤ one / 2 - twoPow 1021 := by
  have steps : one / 2 = twoPow 1020 * twoPow 53 := by rw [one_div_two, ← twoPow_add]
  have double : twoPow 1021 = twoPow 1020 * 2 := twoPow_succ 1020
  have half : one / 2 = twoPow 1072 * 2 := by rw [one_div_two, twoPow_succ]
  have order : twoPow 1021 < twoPow 1072 := twoPow_lt (by decide)
  by_contra near
  have high : u < twoPow (1020 + 53) := by
    rw [twoPow_add, ← steps]
    exact less
  have low : twoPow (1020 + 52) ≤ u := by
    show twoPow 1072 ≤ u
    omega
  obtain ⟨j, split⟩ := grid
  rw [spacing_eq low high] at split
  rw [split, steps] at less
  rw [split, steps, double, ← Nat.mul_sub] at near
  rw [split, steps] at notLast
  have most := Nat.lt_of_mul_lt_mul_left less
  have least := Nat.lt_of_mul_lt_mul_left (Nat.lt_of_not_le near)
  refine notLast ?_
  rw [show j = twoPow 53 - 1 by omega, Nat.mul_sub, Nat.mul_one]

/-- Below `2 ^ 52` the sum is not rounded up to the next number, except from just below one half. -/
theorem floor_of_small {u : Nat} (grid : OnGrid u) (notLast : u ≠ one / 2 - twoPow 1020)
    (small : nearestUnits u < twoPow 52) : floorUnits (roundUnits (u + one / 2) 1) = nearestUnits u := by
  obtain ⟨low, high⟩ := nearestUnits_bounds u
  have half := two_mul_half
  have double : twoPow 53 = twoPow 52 * 2 := twoPow_succ 52
  have fits : nearestUnits u < twoPow 53 := by omega
  rcases Nat.lt_or_ge u (nearestUnits u * one) with before | behind
  · -- the sum with another half stays on the grid
    have middle : nearestUnits u * one + one / 2 = (2 * nearestUnits u + 1) * twoPow 1073 := by
      rw [one_div_two, show one = twoPow 1073 * 2 from twoPow_succ 1073]
      ring
    refine floor_roundUnits (g := nearestUnits u * one + one / 2) fits low ?_ (by omega) ?_
    · rw [middle]
      exact onGrid_of_lt (by omega)
    · rw [Nat.add_mul, Nat.one_mul]
      have pos := one_pos
      omega
  rcases Nat.eq_zero_or_pos (nearestUnits u) with zero | pos
  · rw [zero, Nat.zero_add, Nat.one_mul] at high
    have below := below_half grid (by omega) notLast
    have steps : one = twoPow 53 * twoPow 1021 := by rw [← twoPow_add, one_eq]
    have last : (twoPow 53 - 1) * twoPow 1021 = one - twoPow 1021 := by
      rw [Nat.sub_mul, Nat.one_mul, ← steps]
    have step : 0 < twoPow 1021 := twoPow_pos 1021
    have order : twoPow 1021 < twoPow 1073 := twoPow_lt (by decide)
    rw [← one_div_two] at order
    refine floor_roundUnits (g := (twoPow 53 - 1) * twoPow 1021) fits low (onGrid_of_lt ?_) ?_ ?_
    · have := twoPow_pos 53
      omega
    · rw [last]
      omega
    · rw [last, zero, Nat.zero_add, Nat.one_mul]
      omega
  · exact floor_roundUnits fits low (onGrid_add_half grid behind pos small) (Nat.le_refl _) high

/-- A multiple of the spacing and less than one step more. -/
theorem roundUnits_step {s j r : Nat} (step : spacing (j * s + r) = s) (less : r < s) :
    roundUnits (j * s + r) 1 =
      (if 2 * r < s then j else if s < 2 * r then j + 1 else if j % 2 = 0 then j else j + 1) * s := by
  have quotient : (j * s + r) / s = j := by
    rw [Nat.mul_comm, Nat.mul_add_div (by omega), Nat.div_eq_of_lt less, Nat.add_zero]
  have rest : (j * s + r) % s = r := by rw [Nat.mul_comm, Nat.mul_add_mod, Nat.mod_eq_of_lt less]
  rw [roundUnits, Nat.div_one, step, Nat.one_mul, divRoundEven, quotient, rest]

/-- Where the neighbours of a number are one apart, the sum lies between it and the next one, and the even one of
the two is taken. -/
theorem roundUnits_between {k : Nat} (low : twoPow 52 ≤ k) (high : k < twoPow 53) :
    roundUnits (k * one + one / 2) 1 = (if k % 2 = 0 then k else k + 1) * one := by
  have half := two_mul_half
  have pos := one_pos
  have least : twoPow (1074 + 52) ≤ k * one + one / 2 := by
    rw [Nat.add_comm, twoPow_add, ← one_eq]
    exact Nat.le_add_right_of_le (Nat.mul_le_mul_right _ low)
  have most : k * one + one / 2 < twoPow (1074 + 53) := by
    rw [Nat.add_comm 1074, twoPow_add, ← one_eq]
    have next := Nat.mul_le_mul_right one (show k + 1 ≤ twoPow 53 from high)
    rw [Nat.add_mul, Nat.one_mul] at next
    omega
  have step : spacing (k * one + one / 2) = one := by rw [spacing_eq least most, one_eq]
  rw [roundUnits_step step (by omega), if_neg (by omega), if_neg (by omega)]

theorem floorUnits_whole (k : Nat) : floorUnits (k * one) = k := Nat.mul_div_cancel k one_pos

theorem nearestUnits_whole (k : Nat) : nearestUnits (k * one) = k := by
  have half := two_mul_half
  have pos := one_pos
  rw [nearestUnits, Nat.mul_comm, Nat.mul_add_div one_pos, Nat.div_eq_of_lt (by omega), Nat.add_zero]

/-- The last double below `2 ^ 52` is one half below it. -/
theorem floor_of_last {u : Nat} (grid : OnGrid u) (less : u < twoPow 52 * one)
    (large : twoPow 52 ≤ nearestUnits u) : floorUnits (roundUnits (u + one / 2) 1) = nearestUnits u := by
  have steps : twoPow 52 * one = one / 2 * twoPow 53 := by
    rw [one_div_two, one_eq, ← twoPow_add, ← twoPow_add]
  have reached : twoPow 52 * one ≤ u + one / 2 :=
    Nat.le_trans (Nat.mul_le_mul_right _ large) (nearestUnits_bounds u).1
  rw [steps] at less reached
  have high : u < twoPow (1073 + 53) := by
    rw [twoPow_add, ← one_div_two]
    exact less
  have low : twoPow (1073 + 52) ≤ u := by
    have double : twoPow 53 = twoPow 52 * 2 := twoPow_succ 52
    have more : one / 2 ≤ one / 2 * twoPow 52 := Nat.le_mul_of_pos_right _ (twoPow_pos 52)
    rw [double, ← Nat.mul_assoc] at reached
    rw [twoPow_add, ← one_div_two]
    omega
  obtain ⟨j, split⟩ := grid
  rw [spacing_eq low high, ← one_div_two] at split
  have most : j < twoPow 53 := by
    rw [split] at less
    exact Nat.lt_of_mul_lt_mul_left less
  have sum : u + one / 2 = twoPow 52 * one := by
    rw [steps]
    refine Nat.le_antisymm ?_ reached
    rw [split, ← Nat.mul_succ]
    exact Nat.mul_le_mul_left _ most
  have whole : roundUnits (twoPow 52 * one) 1 = twoPow 52 * one := by
    have onGrid : OnGrid (twoPow 52 * one) := by
      rw [one_eq]
      exact onGrid_of_lt (twoPow_lt (by decide))
    have kept := roundUnits_of_onGrid Nat.one_pos onGrid
    rw [Nat.mul_one] at kept
    exact kept
  rw [nearestUnits, sum, whole, floorUnits]

/-- From `2 ^ 53` on one half is less than half a step. -/
theorem floor_of_huge {u : Nat} (grid : OnGrid u) (huge : twoPow 53 * one ≤ u) :
    floorUnits (roundUnits (u + one / 2) 1) = nearestUnits u := by
  obtain ⟨k, length⟩ : ∃ k, bitLength u = k + 1075 + 53 := by
    have short : ¬ bitLength u ≤ 1127 := by
      intro shorter
      have below := lt_twoPow_iff.2 shorter
      rw [show 1127 = 53 + 1074 from rfl, twoPow_add, ← one_eq] at below
      omega
    exact ⟨bitLength u - 1128, by omega⟩
  have below : u < twoPow (k + 1075 + 53) := lt_twoPow_iff.2 (by omega)
  have step : spacing u = twoPow (k + 1075) := by rw [spacing, length, Nat.add_sub_cancel]
  obtain ⟨j, split⟩ := grid
  rw [step, Nat.mul_comm] at split
  have half : 2 * (one / 2) < twoPow (k + 1075) := by
    rw [two_mul_half, one_eq]
    exact twoPow_lt (by omega)
  -- the next power of two is a multiple of the spacing, which the sum does not reach either
  have same : spacing (u + one / 2) = twoPow (k + 1075) := by
    have next : j + 1 ≤ twoPow 53 := by
      rw [split, twoPow_add (k + 1075), Nat.mul_comm] at below
      exact Nat.lt_of_mul_lt_mul_left below
    have top : u + one / 2 < twoPow (k + 1075 + 53) := by
      rw [twoPow_add (k + 1075), Nat.mul_comm]
      have product := Nat.mul_le_mul_right (twoPow (k + 1075)) next
      rw [Nat.add_mul, Nat.one_mul, ← split] at product
      omega
    have least : bitLength u ≤ bitLength (u + one / 2) := bitLength_mono (Nat.le_add_right _ _)
    have most : bitLength (u + one / 2) ≤ k + 1075 + 53 := lt_twoPow_iff.1 top
    rw [spacing, show bitLength (u + one / 2) - 53 = k + 1075 by omega]
  have kept : roundUnits (u + one / 2) 1 = u := by
    rw [split] at same ⊢
    rw [roundUnits_step same (by omega), if_pos half]
  have steps : twoPow 1074 ∣ twoPow (k + 1075) := twoPow_dvd (by omega)
  obtain ⟨w, whole⟩ : one ∣ u := by
    rw [split, one_eq]
    exact Nat.dvd_mul_left_of_dvd steps j
  rw [kept, whole, Nat.mul_comm one, nearestUnits_whole, floorUnits_whole]

/-- From `2 ^ 52` to `2 ^ 53` every double is a whole number. -/
theorem whole_of_large {u : Nat} (grid : OnGrid u) (low : twoPow 52 * one ≤ u) (high : u < twoPow 53 * one) :
    ∃ k, u = k * one ∧ twoPow 52 ≤ k ∧ k < twoPow 53 := by
  obtain ⟨k, split⟩ := grid
  have step : spacing u = one := by
    rw [one_eq, Nat.mul_comm, ← twoPow_add] at low high
    rw [spacing_eq low high, one_eq]
  rw [step, Nat.mul_comm] at split
  rw [split] at low high
  exact ⟨k, split, Nat.le_of_mul_le_mul_right low one_pos, Nat.lt_of_mul_lt_mul_right high⟩

theorem not_overshoots_of_lt {u : Nat} (notLast : u ≠ one / 2 - twoPow 1020) (less : u < twoPow 52 * one) :
    ¬ Overshoots u := by
  rintro (_ | ⟨least, _, _⟩)
  · exact notLast rfl
  · have := Nat.lt_of_mul_lt_mul_right less
    omega

theorem not_overshoots_of_le {u : Nat} (huge : twoPow 53 * one ≤ u) : ¬ Overshoots u := by
  rintro (_ | ⟨_, most, _⟩)
  · have double : one ≤ twoPow 53 * one := Nat.le_mul_of_pos_left one (twoPow_pos 53)
    have pos := one_pos
    omega
  · have := Nat.le_of_mul_le_mul_right huge one_pos
    omega

theorem overshoots_whole_iff {k : Nat} : Overshoots (k * one) ↔ twoPow 52 < k ∧ k < twoPow 53 ∧ k % 2 = 1 := by
  constructor
  · generalize units : k * one = u
    rintro (_ | ⟨least, most, odd⟩)
    · have pos := one_pos
      have half := one_div_two
      have order : twoPow 1020 < twoPow 1073 := twoPow_lt (by decide)
      rcases Nat.eq_zero_or_pos k with rfl | some
      · rw [Nat.zero_mul] at units
        omega
      · have more : one ≤ k * one := Nat.le_mul_of_pos_left one some
        omega
    · rw [Nat.eq_of_mul_eq_mul_right one_pos units]
      exact ⟨least, most, odd⟩
  · rintro ⟨least, most, odd⟩
    exact .odd least most odd

/-- The floor of the rounded sum is the nearest number, except where the sum overshoots. -/
theorem floor_add_half {u : Nat} (grid : OnGrid u) :
    (Overshoots u ∧ floorUnits (roundUnits (u + one / 2) 1) = nearestUnits u + 1) ∨
      ¬ Overshoots u ∧ floorUnits (roundUnits (u + one / 2) 1) = nearestUnits u := by
  by_cases last : u = one / 2 - twoPow 1020
  · refine .inl ⟨last ▸ .belowHalf, ?_⟩
    rw [last]
    decide +kernel
  rcases Nat.lt_or_ge u (twoPow 52 * one) with less | low
  · refine .inr ⟨not_overshoots_of_lt last less, ?_⟩
    rcases Nat.lt_or_ge (nearestUnits u) (twoPow 52) with small | large
    · exact floor_of_small grid last small
    · exact floor_of_last grid less large
  rcases Nat.lt_or_ge u (twoPow 53 * one) with high | huge
  · obtain ⟨k, whole, least, most⟩ := whole_of_large grid low high
    have even : twoPow 52 % 2 = 0 := by decide
    rw [whole, overshoots_whole_iff, roundUnits_between least most, floorUnits_whole, nearestUnits_whole]
    split
    · exact .inr ⟨by omega, rfl⟩
    · exact .inl ⟨by omega, rfl⟩
  · exact .inr ⟨not_overshoots_of_le huge, floor_of_huge grid huge⟩

end Bearer.Double
