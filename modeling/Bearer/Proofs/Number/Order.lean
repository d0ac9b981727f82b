import Bearer.Proofs.Number.Rounding

/-!
The order of doubles. Rounding is monotone (`roundUnits_mono`) and leaves a magnitude of the grid as it is,
so sums, products and powers of doubles keep the order of what they are made of, as long as none of them
is NaN. A power is rounded once, from its exact value (`powNat?_eq`).
-/

namespace Bearer.Double

/-! ### Monotone rounding -/

theorem le_divRoundEven {n d q : Nat} (hd : 0 < d) (h : q * d ≤ n) : q ≤ divRoundEven n d := by
  have floor : q ≤ n / d := (Nat.le_div_iff_mul_le hd).2 h
  unfold divRoundEven
  dsimp only
  split
  · exact floor
  split
  · omega
  split <;> omega

theorem divRoundEven_mono {n m d : Nat} (hd : 0 < d) (h : n ≤ m) : divRoundEven n d ≤ divRoundEven m d := by
  have floor := Nat.div_le_div_right (c := d) h
  have reached : m / d ≤ divRoundEven m d := le_divRoundEven hd (Nat.div_mul_le_self m d)
  have hn := Nat.div_add_mod n d
  have hm := Nat.div_add_mod m d
  rcases Nat.lt_or_eq_of_le floor with below | same
  · have step := divRoundEven_le_succ n d
    omega
  rcases Nat.lt_trichotomy (2 * (m % d)) d with down | tie | up
  · rw [same] at hn
    have down' : 2 * (n % d) < d := by omega
    simpa [divRoundEven, down', same] using reached
  · -- a tie above is one below or the very same quotient
    rw [same] at hn
    rcases Nat.lt_or_eq_of_le (show n % d ≤ m % d by omega) with less | equal
    · have down : 2 * (n % d) < d := by omega
      simpa [divRoundEven, down, same] using reached
    · obtain rfl : n = m := by omega
      exact Nat.le_refl _
  · have last : divRoundEven m d = m / d + 1 := by
      simp [divRoundEven, up, Nat.not_lt_of_gt up]
    have step := divRoundEven_le_succ n d
    omega

theorem divRoundEven_scale {c : Nat} (hc : 0 < c) (n d : Nat) :
    divRoundEven (n * c) (d * c) = divRoundEven n d := by
  have compare (a b : Nat) : 2 * (a * c) < b * c ↔ 2 * a < b := by
    rw [← Nat.mul_assoc, Nat.mul_lt_mul_right hc]
  have compare' (a b : Nat) : b * c < 2 * (a * c) ↔ b < 2 * a := by
    rw [← Nat.mul_assoc, Nat.mul_lt_mul_right hc]
  unfold divRoundEven
  dsimp only
  rw [Nat.mul_div_mul_right _ _ hc, Nat.mul_mod_mul_right]
  simp only [compare, compare']

theorem roundUnits_scale {c : Nat} (hc : 0 < c) (n d : Nat) :
    roundUnits (n * c) (d * c) = roundUnits n d := by
  unfold roundUnits
  dsimp only
  rw [Nat.mul_div_mul_right _ _ hc, Nat.mul_right_comm, divRoundEven_scale hc]

theorem bitLength_pos {u : Nat} (h : 0 < u) : 0 < bitLength u := by
  simp [bitLength, Nat.ne_of_gt h]

/-- The power of two in front of a magnitude is no further from its neighbours. -/
theorem exists_twoPow {u : Nat} (h : 0 < u) :
    ∃ k, twoPow k ≤ u ∧ bitLength (twoPow k) = bitLength u ∧ ∀ v, bitLength v < bitLength u → v < twoPow k := by
  have pos := bitLength_pos h
  have least : twoPow (bitLength u - 1) ≤ u := by
    by_contra above
    have := lt_twoPow_iff.1 (Nat.lt_of_not_le above)
    omega
  refine ⟨bitLength u - 1, least, ?_, fun v shorter => lt_twoPow_iff.2 (by omega)⟩
  refine Nat.le_antisymm (bitLength_mono least) ?_
  by_contra shorter
  have := lt_twoPow_iff.2 (show bitLength (twoPow (bitLength u - 1)) ≤ bitLength u - 1 by omega)
  omega

theorem le_roundUnits {n d u : Nat} (hd : 0 < d) (hu : OnGrid u) (h : u * d ≤ n) : u ≤ roundUnits n d := by
  have reached {v : Nat} (divides : spacing (n / d) ∣ v) (below : v * d ≤ n) : v ≤ roundUnits n d := by
    obtain ⟨k, rfl⟩ := divides
    have steps : k ≤ divRoundEven n (d * spacing (n / d)) := by
      refine le_divRoundEven (Nat.mul_pos hd (spacing_pos _)) ?_
      calc k * (d * spacing (n / d)) = spacing (n / d) * k * d := by ring
        _ ≤ n := below
    calc spacing (n / d) * k = k * spacing (n / d) := Nat.mul_comm _ _
      _ ≤ roundUnits n d := Nat.mul_le_mul_right _ steps
  have floor : u ≤ n / d := (Nat.le_div_iff_mul_le hd).2 h
  rcases Nat.lt_or_eq_of_le (bitLength_mono floor) with shorter | same
  · -- the grid is coarser at the quotient, but a power of two lies between
    have pos : 0 < n / d := by
      by_contra zero
      rw [Nat.eq_zero_of_not_pos zero] at shorter
      exact Nat.not_lt_zero _ shorter
    obtain ⟨k, below, length, above⟩ := exists_twoPow pos
    refine Nat.le_trans (Nat.le_of_lt (above u shorter)) (reached ?_ ?_)
    · rw [spacing, ← length]
      exact onGrid_twoPow k
    · exact (Nat.le_div_iff_mul_le hd).1 below
  · refine reached ?_ h
    rw [spacing, ← same]
    exact hu

theorem roundUnits_of_onGrid {u d : Nat} (hd : 0 < d) (hu : OnGrid u) : roundUnits (u * d) d = u :=
  Nat.le_antisymm (roundUnits_le hd hu (Nat.le_refl _)) (le_roundUnits hd hu (Nat.le_refl _))

theorem roundUnits_mono_left {n m d : Nat} (hd : 0 < d) (h : n ≤ m) : roundUnits n d ≤ roundUnits m d := by
  have quotient : n / d ≤ m / d := Nat.div_le_div_right h
  rcases Nat.lt_or_eq_of_le (bitLength_mono quotient) with shorter | same
  · -- a power of two lies between the quotients, and so between what they are rounded to
    have pos : 0 < m / d := by
      by_contra zero
      rw [Nat.eq_zero_of_not_pos zero] at shorter
      exact Nat.not_lt_zero _ shorter
    obtain ⟨k, below, -, above⟩ := exists_twoPow pos
    have first : n ≤ twoPow k * d := Nat.le_of_lt ((Nat.div_lt_iff_lt_mul hd).1 (above _ shorter))
    have second : twoPow k * d ≤ m := (Nat.le_div_iff_mul_le hd).1 below
    exact Nat.le_trans (roundUnits_le hd (onGrid_twoPow k) first) (le_roundUnits hd (onGrid_twoPow k) second)
  · have spacings : spacing (n / d) = spacing (m / d) := by rw [spacing, spacing, same]
    unfold roundUnits
    dsimp only
    rw [spacings]
    exact Nat.mul_le_mul_right _ (divRoundEven_mono (Nat.mul_pos hd (spacing_pos _)) h)

/-- A larger quotient is not rounded to a smaller magnitude. -/
theorem roundUnits_mono {n d m e : Nat} (hd : 0 < d) (he : 0 < e) (h : n * e ≤ m * d) :
    roundUnits n d ≤ roundUnits m e := by
  rw [← roundUnits_scale he n d, ← roundUnits_scale hd m e, Nat.mul_comm e d]
  exact roundUnits_mono_left (Nat.mul_pos hd he) h

/-! ### Comparing -/

variable {x y z : Double}

theorem le_trans (h : x.le y = true) (h' : y.le z = true) : x.le z = true := by
  cases x <;> cases y <;> cases z <;> simp_all [le]
  case finite.finite.finite => exact Int.le_trans h h'
  case infinite.infinite.infinite s t r => cases t <;> simp_all

theorem le_refl (number : x ≠ .nan) : x.le x = true := by
  cases x <;> simp_all [le]

theorem ne_nan_of_le (h : x.le y = true) : x ≠ .nan ∧ y ≠ .nan := by
  cases x <;> cases y <;> simp_all [le]

theorem lt_eq_not_le (hx : x ≠ .nan) (hy : y ≠ .nan) : x.lt y = !y.le x := by
  cases x <;> cases y <;> simp_all [lt, le, Bool.and_comm, ← decide_not]

theorem le_total (hx : x ≠ .nan) (hy : y ≠ .nan) : x.le y = true ∨ y.le x = true := by
  cases x with
  | finite s u =>
    cases y with
    | finite t v => simpa [le] using Int.le_total (signed s u) (signed t v)
    | infinite t => cases t <;> simp [le]
    | nan => exact absurd rfl hy
  | infinite s =>
    cases y with
    | finite t v => cases s <;> simp [le]
    | infinite t => cases s <;> cases t <;> simp [le]
    | nan => exact absurd rfl hy
  | nan => exact absurd rfl hx

theorem min_nan (x : Double) : min x .nan = x := by
  cases x <;> rfl

theorem min_le_left (hx : x ≠ .nan) (y : Double) : (min x y).le x = true := by
  by_cases hy : y = .nan
  · rw [hy, min_nan]
    exact le_refl hx
  · unfold min
    split
    next below =>
      rw [lt_eq_not_le hy hx, Bool.not_eq_true'] at below
      exact (le_total hx hy).resolve_left (by simp [below])
    next => exact le_refl hx

theorem le_min (hx : z.le x = true) (hy : z.le y = true) : z.le (min x y) = true := by
  unfold min
  split
  · exact hy
  · exact hx

theorem min_le_right (hx : x ≠ .nan) (hy : y ≠ .nan) : (min x y).le y = true := by
  unfold min
  split
  · exact le_refl hy
  next above =>
    rw [lt_eq_not_le hy hx] at above
    simpa using above

theorem min_mono (hx : x ≠ .nan) (h : y.le z = true) : (min x y).le (min x z) = true := by
  have numbers := ne_nan_of_le h
  exact le_min (min_le_left hx y) (le_trans (min_le_right hx numbers.1) h)

/-! ### Monotone arithmetic -/

theorem le_roundRatio {n m d e : Nat} (hd : 0 < d) (he : 0 < e) (h : n * e ≤ m * d) :
    (roundRatio false n d).le (roundRatio false m e) = true := by
  have units := roundUnits_mono hd he h
  unfold roundRatio
  dsimp only
  split <;> split
  · simpa [le, signed] using units
  · rfl
  next small large => omega
  · rfl

theorem roundRatio_neg_le {n m d e : Nat} (hd : 0 < d) (he : 0 < e) (h : n * e ≤ m * d) :
    (roundRatio true m e).le (roundRatio true n d) = true := by
  have units := roundUnits_mono hd he h
  unfold roundRatio
  dsimp only
  split <;> split
  · simpa [le, signed] using units
  next small large => omega
  · rfl
  · rfl

theorem roundRatio_neg_le_zero (n d : Nat) (s : Bool) : (roundRatio true n d).le (.finite s 0) = true := by
  unfold roundRatio
  dsimp only
  split
  · cases s <;> simp [le, signed]
  · rfl

theorem zero_le_roundRatio (n d : Nat) (s : Bool) : le (.finite s 0) (roundRatio false n d) = true := by
  unfold roundRatio
  dsimp only
  split
  · cases s <;> simp [le, signed]
  · rfl

theorem ofSigned_ne_nan (s : Bool) (n : Int) : ofSigned s n ≠ .nan := by
  unfold ofSigned roundRatio
  dsimp only
  split
  · simp
  · split <;> simp

theorem zero_le_ofSigned {s t : Bool} {n : Int} (h : 0 ≤ n) : le (.finite s 0) (ofSigned t n) = true := by
  unfold ofSigned
  split
  · cases s <;> cases t <;> rfl
  · rw [decide_eq_false (by omega)]
    exact zero_le_roundRatio _ _ _

theorem ofSigned_mono {s t : Bool} {n m : Int} (h : n ≤ m) : (ofSigned s n).le (ofSigned t m) = true := by
  have negative {n : Int} (s t : Bool) (below : n < 0) : (ofSigned s n).le (.finite t 0) = true := by
    rw [ofSigned, if_neg (by omega), decide_eq_true below]
    exact roundRatio_neg_le_zero _ _ _
  rcases Int.lt_or_le n 0 with hn | hn
  · rcases Int.lt_or_le m 0 with hm | hm
    · rw [ofSigned, ofSigned, if_neg (by omega), if_neg (by omega), decide_eq_true hn, decide_eq_true hm]
      exact roundRatio_neg_le Nat.one_pos Nat.one_pos (by omega)
    · exact le_trans (negative s false hn) (zero_le_ofSigned (s := false) hm)
  · rcases Int.lt_or_eq_of_le hn with pos | rfl
    · rw [ofSigned, ofSigned, if_neg (by omega), if_neg (by omega), decide_eq_false (by omega),
        decide_eq_false (by omega)]
      exact le_roundRatio Nat.one_pos Nat.one_pos (by omega)
    · rw [ofSigned, if_pos rfl]
      exact zero_le_ofSigned h

theorem isFinite_of_between (hy : y.isFinite = true) (hz : z.isFinite = true) (h : y.le x = true)
    (h' : x.le z = true) : x.isFinite = true := by
  cases x with
  | finite s u => rfl
  | infinite s =>
    cases y <;> cases z <;> cases s <;> simp_all [le, isFinite]
  | nan => exact absurd rfl (ne_nan_of_le h').1

theorem le_infinite (hx : x ≠ .nan) : x.le (.infinite false) = true := by
  cases x <;> simp_all [le]

theorem infinite_le (hx : x ≠ .nan) : (infinite true).le x = true := by
  cases x <;> simp_all [le]

theorem add_infinite {t : Bool} (h : x + .infinite t ≠ .nan) : x + .infinite t = .infinite t := by
  cases x with
  | finite s u => rfl
  | infinite s =>
    by_cases same : s = t
    · subst same
      exact if_pos rfl
    · exact absurd (if_neg same) h
  | nan => exact absurd rfl h

/-- Adding the same to both sides keeps their order. -/
theorem add_mono_right (h : x.le y = true) (hx : x + z ≠ .nan) (hy : y + z ≠ .nan) :
    (x + z).le (y + z) = true := by
  cases z with
  | finite t w =>
    cases x with
    | finite s u =>
      cases y with
      | finite r v =>
        have order : signed s u ≤ signed r v := by simpa [le] using h
        exact ofSigned_mono (by omega)
      | infinite r =>
        obtain rfl : r = false := by simpa [le] using h
        exact le_infinite hx
      | nan => cases h
    | infinite s =>
      cases s with
      | true => exact infinite_le hy
      | false =>
        cases y with
        | finite r v => cases h
        | infinite r =>
          obtain rfl : r = false := by simpa [le] using h
          rfl
        | nan => cases h
    | nan => cases h
  | infinite t =>
    rw [add_infinite hx, add_infinite hy]
    cases t <;> rfl
  | nan => exact absurd (by cases x <;> rfl) hx

theorem neg_finite (h : x.isFinite = true) : (neg x).isFinite = true := by
  cases x <;> simp_all [isFinite, neg]

theorem add_ne_nan (hx : x ≠ .nan) (hy : y.isFinite = true) : x + y ≠ .nan := by
  cases y with
  | finite t v =>
    cases x with
    | finite s u => exact ofSigned_ne_nan _ _
    | infinite s => rintro ⟨⟩
    | nan => exact absurd rfl hx
  | _ => cases hy

theorem sub_mono_left (h : x.le y = true) (hz : z.isFinite = true) : (x - z).le (y - z) = true := by
  have numbers := ne_nan_of_le h
  exact add_mono_right h (add_ne_nan numbers.1 (neg_finite hz)) (add_ne_nan numbers.2 (neg_finite hz))

theorem sub_self (h : x.isFinite = true) : x - x = zero := by
  cases x with
  | finite s u =>
    show finite s u + neg (finite s u) = zero
    rw [neg, finite_add_finite]
    cases s <;> simp [signed, ofSigned, zero]
  | _ => cases h

theorem proper_ofSigned (s : Bool) (n : Int) : (ofSigned s n).Proper := by
  unfold ofSigned
  split
  · exact proper_finite_zero s
  · exact proper_roundRatio _ _ _

theorem proper_add (x y : Double) : (x + y).Proper := by
  cases x with
  | finite s u =>
    cases y with
    | finite t v => exact proper_ofSigned _ _
    | infinite t => exact .infinite
    | nan => exact .nan
  | infinite s =>
    cases y with
    | finite t v => exact .infinite
    | infinite t =>
      show (if s = t then infinite s else nan).Proper
      split
      · exact .infinite
      · exact .nan
    | nan => exact .nan
  | nan => cases y <;> exact .nan

theorem add_comm (x y : Double) : x + y = y + x := by
  cases x with
  | finite s u =>
    cases y with
    | finite t v => rw [finite_add_finite, finite_add_finite, Bool.and_comm, Int.add_comm]
    | _ => rfl
  | infinite s =>
    cases y with
    | infinite t => cases s <;> cases t <;> rfl
    | _ => rfl
  | nan => cases y <;> rfl

/-- A number that arithmetic can meet is not rounded. -/
theorem ofSigned_signed {s : Bool} {u : Nat} (proper : (finite s u).Proper) (t : Bool) :
    (finite s u).le (ofSigned t (signed s u)) = true := by
  obtain ⟨onGrid, inRange⟩ | _ | _ := proper
  have exact : roundUnits u 1 = u := by
    have rounded := roundUnits_of_onGrid Nat.one_pos onGrid
    rwa [Nat.mul_one] at rounded
  unfold ofSigned
  split
  next none =>
    show decide (signed s u ≤ signed t 0) = true
    rw [none]
    cases t <;> rfl
  next some =>
    have units : (signed s u).natAbs = u := by cases s <;> simp [signed]
    have sign : decide (signed s u < 0) = s := by
      cases s with
      | true =>
        simp only [signed, if_true] at some ⊢
        exact decide_eq_true (by omega)
      | false =>
        simp only [signed, Bool.false_eq_true, if_false]
        exact decide_eq_false (by omega)
    rw [units, sign, roundRatio, exact, if_pos inRange]
    exact le_refl (by rintro ⟨⟩)

/-! ### Numbers that are not negative -/

theorem roundUnits_zero {d : Nat} (hd : 0 < d) : roundUnits 0 d = 0 :=
  Nat.le_zero.1 (roundUnits_le hd (Nat.dvd_zero _) (Nat.zero_le _))

theorem one_pos : 0 < one := twoPow_pos 1074

theorem finite_mul_finite (s t : Bool) (u v : Nat) :
    finite s u * finite t v = roundRatio (s != t) (u * v) one := by
  show mul (finite s u) (finite t v) = _
  rw [mul]

/-- Not below zero, NaN included. -/
def NotNegative (x : Double) : Prop := x = .nan ∨ le .zero x = true

theorem notNegative_finite {s : Bool} {u : Nat} : NotNegative (.finite s u) ↔ (s = true → u = 0) := by
  cases s <;> simp [NotNegative, le, zero, signed]

theorem notNegative_infinite {s : Bool} : NotNegative (.infinite s) ↔ s = false := by
  simp [NotNegative, le, zero]

theorem notNegative_roundRatio {s : Bool} {n d : Nat} (hd : 0 < d) (h : s = true → n = 0) :
    NotNegative (roundRatio s n d) := by
  cases s with
  | false => exact .inr (zero_le_roundRatio n d false)
  | true =>
    rw [h rfl, roundRatio, roundUnits_zero hd, if_pos limit_pos]
    exact .inr rfl

theorem NotNegative.mul (hx : NotNegative x) (hy : NotNegative y) : NotNegative (x * y) := by
  cases x with
  | finite s u =>
    cases y with
    | finite t v =>
      rw [notNegative_finite] at hx hy
      rw [finite_mul_finite]
      refine notNegative_roundRatio one_pos fun differ => ?_
      cases s with
      | true => rw [hx rfl, Nat.zero_mul]
      | false => rw [hy (by simpa using differ), Nat.mul_zero]
    | infinite t =>
      obtain rfl := notNegative_infinite.1 hy
      rw [notNegative_finite] at hx
      show NotNegative (if u = 0 then .nan else .infinite (s != false))
      split
      · exact .inl rfl
      next positive => exact notNegative_infinite.2 (by simpa using fun negative => positive (hx negative))
    | nan => exact .inl rfl
  | infinite s =>
    obtain rfl := notNegative_infinite.1 hx
    cases y with
    | finite t v =>
      rw [notNegative_finite] at hy
      show NotNegative (if v = 0 then .nan else .infinite (false != t))
      split
      · exact .inl rfl
      next positive => exact notNegative_infinite.2 (by simpa using fun negative => positive (hy negative))
    | infinite t =>
      obtain rfl := notNegative_infinite.1 hy
      exact .inr rfl
    | nan => exact .inl rfl
  | nan => exact .inl (by cases y <;> rfl)

theorem NotNegative.add (hx : NotNegative x) (hy : NotNegative y) : NotNegative (x + y) := by
  by_cases number : x + y = .nan
  · exact .inl number
  have hx' : x ≠ .nan := fun same => number (by rw [same]; cases y <;> rfl)
  have hy' : y ≠ .nan := fun same => number (by rw [same]; cases x <;> rfl)
  have below := hx.resolve_left hx'
  cases y with
  | finite t v =>
    have zero_add : NotNegative (zero + .finite t v) := by
      rw [notNegative_finite] at hy
      have sum : 0 ≤ signed false 0 + signed t v := by
        cases t with
        | true => simp [hy rfl, signed]
        | false => simp [signed]
      exact .inr (zero_le_ofSigned sum)
    exact .inr (le_trans (zero_add.resolve_left (ofSigned_ne_nan _ _)) (add_mono_right below (ofSigned_ne_nan _ _) number))
  | infinite t =>
    rw [add_infinite number]
    exact hy
  | nan => exact absurd rfl hy'

theorem NotNegative.add_ne_nan (hx : NotNegative x) (hy : NotNegative y) (hx' : x ≠ .nan) (hy' : y ≠ .nan) :
    x + y ≠ .nan := by
  cases x with
  | finite s u =>
    cases y with
    | finite t v => exact ofSigned_ne_nan _ _
    | infinite t => rintro ⟨⟩
    | nan => exact absurd rfl hy'
  | infinite s =>
    obtain rfl := notNegative_infinite.1 hx
    cases y with
    | finite t v => rintro ⟨⟩
    | infinite t =>
      obtain rfl := notNegative_infinite.1 hy
      rintro ⟨⟩
    | nan => exact absurd rfl hy'
  | nan => exact absurd rfl hx'

structure IsTime (x : Double) : Prop where
  proper : x.Proper
  number : x ≠ .nan
  above : x ≠ .infinite true

theorem isTime_of_finite (proper : x.Proper) (h : x.isFinite = true) : x.IsTime := by
  cases x with
  | finite s u => exact ⟨proper, by rintro ⟨⟩, by rintro ⟨⟩⟩
  | _ => cases h

theorem IsTime.add_ne_nan (hx : x.IsTime) (hy : le .zero y = true) : x + y ≠ .nan := by
  cases y with
  | finite t v => exact Double.add_ne_nan hx.number rfl
  | infinite t =>
    obtain rfl : t = false := by simpa [le, zero] using hy
    cases x with
    | finite s u => rintro ⟨⟩
    | infinite s =>
      cases s with
      | true => exact absurd rfl hx.above
      | false => rintro ⟨⟩
    | nan => exact absurd rfl hx.number
  | nan => cases hy

/-- Time that passes does not lead back. -/
theorem IsTime.le_add (hx : x.IsTime) (hy : le .zero y = true) : x.le (x + y) = true := by
  have own : x.le (zero + x) = true := by
    cases x with
    | finite s u =>
      have whole : zero + finite s u = ofSigned (false && s) (signed s u) := by
        rw [zero, finite_add_finite, signed, if_neg (by decide), Int.natCast_zero, Int.zero_add]
      rw [whole]
      exact ofSigned_signed hx.proper _
    | infinite s => cases s <;> rfl
    | nan => exact absurd rfl hx.number
  have sum := hx.add_ne_nan hy
  rw [add_comm] at sum ⊢
  exact le_trans own (add_mono_right hy (ne_nan_of_le own).2 sum)

theorem IsTime.add (hx : x.IsTime) (hy : le .zero y = true) : (x + y).IsTime := by
  refine ⟨proper_add x y, hx.add_ne_nan hy, fun same => ?_⟩
  have later := hx.le_add hy
  rw [same] at later
  cases x with
  | finite s u => cases later
  | infinite s =>
    cases s with
    | true => exact hx.above rfl
    | false => cases later
  | nan => cases later

theorem mul_ne_nan (hx : x.isFinite = true) (hy : y.isFinite = true) : x * y ≠ .nan := by
  cases x with
  | finite s u =>
    cases y with
    | finite t v =>
      rw [finite_mul_finite, roundRatio]
      split <;> rintro ⟨⟩
    | _ => cases hy
  | _ => cases hx

theorem mul_mono_finite (hz : NotNegative z) (finite : z.isFinite = true) {u v : Nat} (h : u ≤ v) :
    (z * .finite false u).le (z * .finite false v) = true := by
  cases z with
  | finite s w =>
    rw [notNegative_finite] at hz
    rw [finite_mul_finite, finite_mul_finite]
    cases s with
    | false => exact le_roundRatio one_pos one_pos (Nat.mul_le_mul_right _ (Nat.mul_le_mul_left w h))
    | true =>
      rw [hz rfl, Nat.zero_mul, Nat.zero_mul]
      have number := notNegative_roundRatio (s := true) (n := 0) one_pos fun _ => rfl
      refine le_refl fun same => ?_
      rw [roundRatio, roundUnits_zero one_pos, if_pos limit_pos] at same
      cases same
  | _ => cases finite

/-! ### Powers -/

theorem twoPow_mul (j k : Nat) : twoPow (j * k) = twoPow j ^ k := pow_mul 2 j k

theorem twoPow_le {j k : Nat} (h : j ≤ k) : twoPow j ≤ twoPow k := Nat.pow_le_pow_right (by decide) h

theorem strip_eq (fuel n twos : Nat) :
    (oddPart.strip fuel n twos).1 * twoPow (oddPart.strip fuel n twos).2 = n * twoPow twos := by
  induction fuel generalizing n twos with
  | zero => rfl
  | succ fuel ih =>
    unfold oddPart.strip
    split
    next even =>
      rw [ih, twoPow_succ, ← Nat.mul_assoc, Nat.mul_right_comm, Nat.div_mul_cancel (Nat.dvd_of_mod_eq_zero even)]
    next => rfl

theorem oddPart_eq (u : Nat) : (oddPart u).1 * twoPow (oddPart u).2 = u := by
  rw [oddPart, strip_eq]
  exact Nat.mul_one u

theorem roundUnits_congr {n d m e : Nat} (hd : 0 < d) (he : 0 < e) (h : n * e = m * d) :
    roundUnits n d = roundUnits m e :=
  Nat.le_antisymm (roundUnits_mono hd he h.le) (roundUnits_mono he hd h.ge)

def powerUnits (u k : Nat) : Nat := roundUnits (u ^ k * one) (one ^ k)

theorem one_eq : one = twoPow 1074 := rfl

theorem onGrid_one : OnGrid one := by
  rw [one_eq]
  exact onGrid_twoPow 1074

theorem limit_eq_one : limit = twoPow 1024 * one := by rw [limit, one_eq, ← twoPow_add]

/-- A power whose binary logarithm is out of range is so itself. -/
theorem limit_le_powerUnits {m twos k : Nat} (pos : 0 < m)
    (large : (1024 : Int) ≤ ((m.log2 : Int) + ((twos : Int) - 1074)) * k) :
    limit ≤ powerUnits (m * twoPow twos) k := by
  refine le_roundUnits (Nat.pow_pos one_pos) (onGrid_twoPow 2098) ?_
  have floor : twoPow (m.log2 + twos) ≤ m * twoPow twos := by
    rw [twoPow_add]
    exact Nat.mul_le_mul_right _ (Nat.log2_self_le (Nat.ne_of_gt pos))
  have exponents : 1024 + 1074 * k ≤ (m.log2 + twos) * k := by
    have expanded : ((m.log2 : Int) + ((twos : Int) - 1074)) * k =
        ((m.log2 + twos : Nat) : Int) * k - 1074 * k := by
      push_cast
      ring
    rw [expanded] at large
    omega
  calc limit * one ^ k = twoPow (1024 + 1074 * k) * one := by
        rw [limit_eq_one, one_eq, ← twoPow_mul, twoPow_add]
        ring
    _ ≤ twoPow ((m.log2 + twos) * k) * one := Nat.mul_le_mul_right _ (twoPow_le exponents)
    _ ≤ (m * twoPow twos) ^ k * one := by
        rw [twoPow_mul]
        exact Nat.mul_le_mul_right _ (Nat.pow_le_pow_left floor k)

/-- The power of an odd part, brought to its scale, is the power in units. -/
theorem scaled_power (m twos k : Nat) : let scale : Int := ((twos : Int) - 1074) * k + 1074
    (if 0 ≤ scale then roundUnits (Nat.pow m k * twoPow scale.toNat) 1
      else roundUnits (Nat.pow m k) (twoPow (-scale).toNat)) = powerUnits (m * twoPow twos) k := by
  intro scale
  have expanded : scale = (twos * k : Nat) - 1074 * k + 1074 := by
    simp only [scale]
    push_cast
    ring
  have power : Nat.pow m k = m ^ k := rfl
  rw [power, powerUnits, one_eq]
  have pos : 0 < twoPow 1074 ^ k := Nat.pow_pos one_pos
  split
  next up =>
    apply roundUnits_congr Nat.one_pos pos
    calc m ^ k * twoPow scale.toNat * twoPow 1074 ^ k
        = m ^ k * twoPow (scale.toNat + 1074 * k) := by rw [twoPow_add, twoPow_mul, Nat.mul_assoc]
      _ = m ^ k * twoPow (twos * k + 1074) := by rw [show scale.toNat + 1074 * k = twos * k + 1074 by omega]
      _ = (m * twoPow twos) ^ k * twoPow 1074 * 1 := by
        rw [twoPow_add, twoPow_mul]
        ring
  next down =>
    apply roundUnits_congr (twoPow_pos _) pos
    calc m ^ k * twoPow 1074 ^ k = m ^ k * twoPow (1074 * k) := by rw [twoPow_mul]
      _ = m ^ k * twoPow (twos * k + 1074 + (-scale).toNat) := by
        rw [show 1074 * k = twos * k + 1074 + (-scale).toNat by omega]
      _ = (m * twoPow twos) ^ k * twoPow 1074 * twoPow (-scale).toNat := by
        rw [twoPow_add, twoPow_add, twoPow_mul]
        ring

theorem powUnits?_eq {u : Nat} (h : one ≤ u) (k : Nat) :
    powUnits? u k = if powerUnits u k < limit then some (powerUnits u k) else none := by
  have whole := oddPart_eq u
  unfold powUnits?
  cases parts : oddPart u with
  | mk m twos =>
    rw [parts] at whole
    dsimp only at whole ⊢
    subst whole
    have pos : 0 < m := by
      rcases Nat.eq_zero_or_pos m with rfl | pos
      · rw [Nat.zero_mul] at h
        exact absurd h (Nat.not_le_of_gt one_pos)
      · exact pos
    split
    next large => rw [if_neg (Nat.not_lt_of_ge (limit_le_powerUnits pos large))]
    next => rw [scaled_power]

/-- A power of a number that is at least one is rounded once, and has no value out of range. -/
theorem powNat?_eq {u : Nat} (h : one ≤ u) (k : Nat) : powNat? (.finite false u) k =
    if powerUnits u k < limit then some (.finite false (powerUnits u k)) else none := by
  cases k with
  | zero =>
    have same : powerUnits u 0 = one := by
      calc powerUnits u 0 = roundUnits (one * 1) 1 := by
            rw [powerUnits, Nat.pow_zero, Nat.pow_zero, Nat.one_mul, Nat.mul_one]
        _ = one := roundUnits_of_onGrid Nat.one_pos onGrid_one
    have small : one < limit := by
      rw [one_eq, limit]
      exact twoPow_lt (by decide)
    rw [same, if_pos small]
    rfl
  | succ k =>
    show (powUnits? u (k + 1)).map (finite false) = _
    rw [powUnits?_eq h]
    split <;> rfl

theorem powerUnits_mono {u : Nat} (h : one ≤ u) (k : Nat) : powerUnits u k ≤ powerUnits u (k + 1) := by
  apply roundUnits_mono (Nat.pow_pos one_pos) (Nat.pow_pos one_pos)
  calc u ^ k * one * one ^ (k + 1) = u ^ k * one * one ^ k * one := by ring
    _ ≤ u ^ k * one * one ^ k * u := Nat.mul_le_mul_left _ h
    _ = u ^ (k + 1) * one * one ^ k := by
      rw [Nat.pow_succ]
      ring

end Bearer.Double
