import Bearer.Number.Double
import Mathlib.Algebra.Order.Ring.Nat
import Mathlib.Tactic.Ring

/-!
Rounding to doubles. A magnitude is on the grid if it has at most 53 binary digits between its first
and its last one bit: `onGrid_roundUnits` says that rounding leads to the grid, `roundUnits_le` that it
goes no further than any magnitude of the grid, and `abs_add_half_eq` that the half which is added
before a floor is taken keeps a finite double finite.
-/

namespace Bearer.Double

/-! ### Whole quotients -/

theorem divRoundEven_le_succ (n d : Nat) : divRoundEven n d ≤ n / d + 1 := by
  unfold divRoundEven
  dsimp only
  split
  · omega
  split
  · omega
  split <;> omega

theorem divRoundEven_le {n d q : Nat} (hd : 0 < d) (h : n ≤ q * d) : divRoundEven n d ≤ q := by
  obtain hlt | heq := Nat.lt_or_eq_of_le (Nat.div_le_of_le_mul (Nat.mul_comm q d ▸ h))
  · exact Nat.le_trans (divRoundEven_le_succ n d) hlt
  · have hsplit := Nat.div_add_mod n d
    rw [heq, Nat.mul_comm] at hsplit
    have hmod : n % d = 0 := by omega
    simp [divRoundEven, hmod, hd, heq]

theorem divRoundEven_lt {n d q : Nat} (h : 2 * n + d < 2 * (q * d)) : divRoundEven n d < q := by
  have hd : 0 < d := by
    rcases Nat.eq_zero_or_pos d with rfl | hd
    · simp at h
    · exact hd
  have hq : n / d < q := (Nat.div_lt_iff_lt_mul hd).2 (by omega)
  rcases Nat.lt_or_ge (n / d + 1) q with hlt | hge
  · exact Nat.lt_of_le_of_lt (divRoundEven_le_succ n d) hlt
  · have hsplit := Nat.div_add_mod n d
    have hlast : q * d = d * (n / d) + d := by
      rw [show q = n / d + 1 by omega, Nat.mul_comm, Nat.mul_add, Nat.mul_one]
    have hbelow : 2 * (n % d) < d := by omega
    simpa [divRoundEven, hbelow] using hq

/-! ### The grid -/

theorem twoPow_pos (k : Nat) : 0 < twoPow k := Nat.pow_pos (by decide)

theorem twoPow_add (j k : Nat) : twoPow (j + k) = twoPow j * twoPow k := Nat.pow_add 2 j k

theorem twoPow_succ (k : Nat) : twoPow (k + 1) = twoPow k * 2 := Nat.pow_succ 2 k

theorem twoPow_dvd {j k : Nat} (h : j ≤ k) : twoPow j ∣ twoPow k := Nat.pow_dvd_pow 2 h

theorem twoPow_lt {j k : Nat} (h : j < k) : twoPow j < twoPow k := Nat.pow_lt_pow_right (by decide) h

theorem lt_twoPow_iff {u k : Nat} : u < twoPow k ↔ bitLength u ≤ k := by
  unfold bitLength
  split
  next h => simp [h, twoPow_pos]
  next h => exact (Nat.log2_lt h).symm

theorem bitLength_mono {u v : Nat} (h : u ≤ v) : bitLength u ≤ bitLength v :=
  lt_twoPow_iff.1 (Nat.lt_of_le_of_lt h (lt_twoPow_iff.2 (Nat.le_refl _)))

theorem spacing_pos (u : Nat) : 0 < spacing u := twoPow_pos _

theorem spacing_dvd_spacing {u v : Nat} (h : u ≤ v) : spacing u ∣ spacing v :=
  twoPow_dvd (Nat.sub_le_sub_right (bitLength_mono h) 53)

/-- Has a magnitude no more than 53 binary digits that count? -/
def OnGrid (u : Nat) : Prop := spacing u ∣ u

theorem onGrid_twoPow (k : Nat) : OnGrid (twoPow k) := by
  refine twoPow_dvd ?_
  have : bitLength (twoPow k) ≤ k + 1 := lt_twoPow_iff.1 (twoPow_lt (Nat.lt_succ_self k))
  omega

theorem onGrid_of_lt {m k : Nat} (h : m < twoPow 53) : OnGrid (m * twoPow k) := by
  have hlt : m * twoPow k < twoPow (53 + k) := by
    rw [twoPow_add]
    exact Nat.mul_lt_mul_of_pos_right h (twoPow_pos k)
  have hlength := lt_twoPow_iff.1 hlt
  exact Nat.dvd_trans (twoPow_dvd (by omega)) (Nat.dvd_mul_left _ _)

theorem onGrid_roundUnits (n d : Nat) : OnGrid (roundUnits n d) := by
  unfold roundUnits spacing
  dsimp only
  generalize hk : bitLength (n / d) - 53 = k
  have hquotient : n / (d * twoPow k) < twoPow 53 := by
    rw [← Nat.div_div_eq_div_mul]
    refine (Nat.div_lt_iff_lt_mul (twoPow_pos k)).2 ?_
    rw [← twoPow_add]
    exact lt_twoPow_iff.2 (by omega)
  have hm := divRoundEven_le_succ n (d * twoPow k)
  rcases Nat.lt_or_eq_of_le (Nat.le_trans hm hquotient) with hlt | heq
  · exact onGrid_of_lt hlt
  · rw [heq, ← twoPow_add]
    exact onGrid_twoPow _

theorem roundUnits_le {n d u : Nat} (hd : 0 < d) (hu : OnGrid u) (h : n ≤ u * d) :
    roundUnits n d ≤ u := by
  have hquotient : n / d ≤ u := Nat.div_le_of_le_mul (Nat.mul_comm u d ▸ h)
  obtain ⟨k, hk⟩ := Nat.dvd_trans (spacing_dvd_spacing hquotient) hu
  have hpos := spacing_pos (n / d)
  have hle : divRoundEven n (d * spacing (n / d)) ≤ k := by
    refine divRoundEven_le (Nat.mul_pos hd hpos) ?_
    calc n ≤ u * d := h
      _ = spacing (n / d) * k * d := by rw [← hk]
      _ = k * (d * spacing (n / d)) := by ring
  calc roundUnits n d = divRoundEven n (d * spacing (n / d)) * spacing (n / d) := rfl
    _ ≤ k * spacing (n / d) := Nat.mul_le_mul_right _ hle
    _ = u := by rw [Nat.mul_comm, ← hk]

/-! ### The range -/

def topSpacing : Nat := twoPow 2045

theorem topSpacing_pos : 0 < topSpacing := by
  rw [topSpacing]
  exact twoPow_pos 2045

theorem limit_eq : limit = twoPow 53 * topSpacing := by
  rw [limit, topSpacing, ← twoPow_add]

theorem limit_pos : 0 < limit := by
  rw [limit]
  exact twoPow_pos 2098

theorem topSpacing_lt : topSpacing < twoPow 2097 := by
  rw [topSpacing]
  exact twoPow_lt (by decide)

theorem limit_eq_double : limit = twoPow 2097 * 2 := by rw [limit, ← twoPow_succ]

theorem spacing_of_top {u : Nat} (low : twoPow 2097 ≤ u) (high : u < limit) :
    spacing u = topSpacing := by
  have hle : bitLength u ≤ 2098 := lt_twoPow_iff.1 high
  have hgt : ¬ bitLength u ≤ 2097 := fun h => Nat.not_lt.2 low (lt_twoPow_iff.2 h)
  rw [spacing, topSpacing, show bitLength u - 53 = 2045 by omega]

theorem top_le_limit : twoPow 2097 + topSpacing ≤ limit := by
  have htop := topSpacing_lt
  have hlimit := limit_eq_double
  omega

theorem add_topSpacing_le_limit {u : Nat} (hu : OnGrid u) (h : u < limit) : u + topSpacing ≤ limit := by
  rcases Nat.lt_or_ge u (twoPow 2097) with hlow | htop
  · exact Nat.le_trans (Nat.add_le_add_right (Nat.le_of_lt hlow) _) top_le_limit
  · obtain ⟨k, hk⟩ := hu
    rw [spacing_of_top htop h] at hk
    rw [hk, limit_eq, Nat.mul_comm (twoPow 53)] at h ⊢
    have : k < twoPow 53 := Nat.lt_of_mul_lt_mul_left h
    calc topSpacing * k + topSpacing = topSpacing * (k + 1) := by ring
      _ ≤ topSpacing * twoPow 53 := Nat.mul_le_mul_left _ this

/-- Less than half a step beyond the largest finite magnitude is rounded down. -/
theorem roundUnits_lt_limit {n : Nat} (h : 2 * n + topSpacing < 2 * limit) : roundUnits n 1 < limit := by
  have hlt : n < limit := by omega
  rcases Nat.lt_or_ge n (twoPow 2097) with hlow | htop
  · have hle : roundUnits n 1 ≤ twoPow 2097 :=
      roundUnits_le Nat.one_pos (onGrid_twoPow 2097) (by omega)
    refine Nat.lt_of_le_of_lt hle ?_
    rw [limit]
    exact twoPow_lt (by decide)
  · have hspacing : spacing (n / 1) = topSpacing := by rw [Nat.div_one, spacing_of_top htop hlt]
    rw [roundUnits, hspacing, Nat.one_mul, limit_eq]
    refine Nat.mul_lt_mul_of_pos_right (divRoundEven_lt ?_) topSpacing_pos
    rw [← limit_eq]
    exact h

/-! ### Doubles -/

/-- A double whose magnitude, if it is finite, is on the grid and in range; arithmetic gives no
other one. -/
inductive Proper : Double → Prop
  | finite {negative : Bool} {u : Nat} (onGrid : OnGrid u) (inRange : u < limit) :
    Proper (finite negative u)
  | infinite {negative : Bool} : Proper (infinite negative)
  | nan : Proper nan

theorem proper_roundRatio (negative : Bool) (n d : Nat) : (roundRatio negative n d).Proper := by
  rw [roundRatio]
  by_cases h : roundUnits n d < limit
  · rw [if_pos h]
    exact .finite (onGrid_roundUnits n d) h
  · rw [if_neg h]
    exact .infinite

theorem proper_finite_zero (negative : Bool) : (finite negative 0).Proper :=
  .finite (Nat.dvd_zero _) limit_pos

theorem proper_ofInt (n : Int) : (ofInt n).Proper := proper_roundRatio _ _ _

theorem proper_ofDecimal (negative : Bool) (m : Nat) (e : Int) : (ofDecimal negative m e).Proper := by
  unfold ofDecimal
  split
  · exact proper_finite_zero negative
  split
  · exact .infinite
  split
  · exact proper_finite_zero negative
  split <;> exact proper_roundRatio _ _ _

theorem one_div_two : one / 2 = twoPow 1073 := by
  rw [one, twoPow_succ 1073, Nat.mul_div_cancel _ (by decide)]

theorem double_half_lt_topSpacing : 2 * (one / 2) < topSpacing := by
  rw [one_div_two, Nat.mul_comm, ← twoPow_succ, topSpacing]
  exact twoPow_lt (by decide)

theorem finite_add_finite (s t : Bool) (u v : Nat) :
    finite s u + finite t v = ofSigned (s && t) (signed s u + signed t v) := rfl

theorem ofSigned_natCast {zeroNegative : Bool} {n : Nat} (pos : 0 < n)
    (h : roundUnits n 1 < limit) : ofSigned zeroNegative n = finite false (roundUnits n 1) := by
  rw [ofSigned, if_neg (by omega), roundRatio, Int.natAbs_natCast, if_pos h, decide_eq_false (by omega)]

/-- The sum with one half, from which the floor is taken, is never out of range. -/
theorem abs_add_half_eq {negative : Bool} {u : Nat} (hx : (finite negative u).Proper) :
    (finite negative u).abs + half = finite false (roundUnits (u + one / 2) 1) := by
  obtain ⟨hgrid, hlimit⟩ | _ | _ := hx
  have htop := add_topSpacing_le_limit hgrid hlimit
  have hhalf := double_half_lt_topSpacing
  have hpos : 0 < one / 2 := one_div_two ▸ twoPow_pos 1073
  have hlt : roundUnits (u + one / 2) 1 < limit := roundUnits_lt_limit (by omega)
  rw [abs, half, finite_add_finite, ← ofSigned_natCast (by omega) hlt, Int.natCast_add]
  rfl

theorem abs_add_half {negative : Bool} {u : Nat} (hx : (finite negative u).Proper) :
    ∃ sum, (finite negative u).abs + half = finite false sum := ⟨_, abs_add_half_eq hx⟩

/-! ### Time left -/

theorem signed_not (negative : Bool) (u : Nat) : signed (!negative) u = -signed negative u := by
  cases negative <;> simp [signed]

theorem signed_le (negative : Bool) (u : Nat) : signed negative u ≤ u := by
  unfold signed
  split <;> omega

theorem finite_sub_finite (s t : Bool) (u v : Nat) :
    finite s u - finite t v = ofSigned (s && !t) (signed s u - signed t v) := by
  have h : finite s u - finite t v = ofSigned (s && !t) (signed s u + signed (!t) v) := rfl
  rw [h, signed_not, Int.sub_eq_add_neg]

theorem lt_zero_negative (u : Nat) : lt zero (finite true u) = false := by
  simp [lt, zero, signed]

/-- The time from a moment to a later or earlier one, if that is above zero, is never out of range:
the difference is no larger than the later moment, and rounding cannot take it further. -/
theorem max_zero_sub {s t : Bool} {u v : Nat} (hx : (finite s u).Proper) (hnow : 0 ≤ signed t v) :
    ∃ w, max zero (finite s u - finite t v) = finite false w ∧ (finite false w).Proper := by
  obtain ⟨hgrid, hlimit⟩ | _ | _ := hx
  have hle := signed_le s u
  rw [finite_sub_finite]
  generalize hdifference : signed s u - signed t v = n
  rcases Int.lt_trichotomy n 0 with hneg | rfl | hpos
  · refine ⟨0, ?_, proper_finite_zero false⟩
    rw [ofSigned, if_neg (by omega), roundRatio, decide_eq_true hneg]
    split
    · rw [max, lt_zero_negative]
      rfl
    · rfl
  · refine ⟨0, ?_, proper_finite_zero false⟩
    rw [ofSigned, if_pos rfl]
    cases s && !t <;> rfl
  · obtain ⟨m, rfl⟩ := Int.eq_ofNat_of_zero_le (Int.le_of_lt hpos)
    have hround : roundUnits m 1 ≤ u := roundUnits_le Nat.one_pos hgrid (by omega)
    have hfinite : roundUnits m 1 < limit := Nat.lt_of_le_of_lt hround hlimit
    have hgrid' := onGrid_roundUnits m 1
    rw [ofSigned_natCast (by omega) hfinite, max]
    split
    · exact ⟨_, rfl, .finite hgrid' hfinite⟩
    · exact ⟨0, rfl, proper_finite_zero false⟩

end Bearer.Double
