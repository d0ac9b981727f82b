import Bearer.Proofs.Json.Grammar
import Bearer.Proofs.Number.Nearest
import Bearer.Proofs.TokenInfo.Grammar

/-!
The seconds that an answer leaves a token. `roundHalfAway_nearestUnits` compares what a finite number is rounded to
with the nearest whole number, `toParser_of_writes` follows it through a whole body, and `expiry_nearest_iff`
says for which numbers the body is taken for the nearest one.
-/

namespace Bearer

open Double (Nearest Overshoots nearestUnits)

/-! ### Rounding -/

theorem roundHalfAway_finite {negative : Bool} {u : Nat} (proper : (Double.finite negative u).Proper) :
    roundHalfAway (.finite negative u) =
      signedInt negative (Double.floorUnits (Double.roundUnits (u + Double.one / 2) 1)) := by
  rw [roundHalfAway, Double.abs_add_half_eq proper]
  rfl

/-- What overshoots is rounded to the next number, seen from zero, and all else to the nearest one. -/
theorem roundHalfAway_nearestUnits {negative : Bool} {u : Nat} (proper : (Double.finite negative u).Proper) :
    (Overshoots u ∧ roundHalfAway (.finite negative u) = signedInt negative (nearestUnits u + 1)) ∨
      ¬ Overshoots u ∧ roundHalfAway (.finite negative u) = signedInt negative (nearestUnits u) := by
  have onGrid : Double.OnGrid u := by
    obtain ⟨onGrid, -⟩ | _ | _ := proper
    exact onGrid
  rw [roundHalfAway_finite proper]
  obtain ⟨overshoots, next⟩ | ⟨exact, same⟩ := Double.floor_add_half onGrid
  · exact .inl ⟨overshoots, by rw [next]⟩
  · exact .inr ⟨exact, by rw [same]⟩

theorem ofInt_natCast {k : Nat} (small : k < twoPow 53) :
    Double.ofInt k = .finite false (k * Double.one) := by
  have onGrid : Double.OnGrid (k * Double.one) := by
    rw [Double.one_eq]
    exact Double.onGrid_of_lt small
  have kept := Double.roundUnits_of_onGrid Nat.one_pos onGrid
  rw [Nat.mul_one] at kept
  have inRange : k * Double.one < Double.limit := by
    have order : twoPow 53 < twoPow 1024 := Double.twoPow_lt (by decide)
    rw [Double.limit_eq_one]
    exact Nat.mul_lt_mul_of_pos_right (Nat.lt_trans small order) Double.one_pos
  rw [Double.ofInt, Int.natAbs_natCast, Double.roundRatio, kept, if_pos inRange, decide_eq_false (by omega)]

namespace FieldParser

open Json (Members Value Holds lookup?_eq_some_iff)

variable {p : FieldParser} {depth : Nat} {field : RawText} {v : Value} {t : TokenInfo} {body : List UInt8}
  {now : Double}

/-- A body in UTF-8 that writes a JSON object with a value in the expiry's field; all its other members are
those of an active token `t`. -/
inductive WritesExpiry (p : FieldParser) (depth : Nat) (field : RawText) (v : Value) (t : TokenInfo) :
    List UInt8 → Prop
  | intro {text : List Char} {data : Members} (object : Json.read depth text = .ok (.obj data))
    (named : p.expiresInField = some field) (holds : Holds data field v) (active : p.HasActive data true)
    (hasUserId : p.HasUserId data t.userId) (hasScope : p.HasScope data t.scope)
    (hasClientId : p.HasClientId data t.clientId) : WritesExpiry p depth field v t (Utf8.encode text)

/-! ### Bodies -/

theorem expiresIn_of_relative (now : Double) {data : Members} {x : Double} (named : p.expiresInField = some field)
    (relative : p.expiresIsTimestamp = false) (holds : Holds data field v) (numeral : Numeral v x)
    (finite : x.isFinite = true) :
    p.expiresIn now data = if roundHalfAway x < 0 then .error (.expiryNegative field (roundHalfAway x))
      else .ok (some (roundHalfAway x).toNat) := by
  have seconds : expirySeconds field v = .ok x := expirySeconds_eq_ok_iff.2 ⟨numeral, finite⟩
  simp [expiresIn, named, lookup?_eq_some_iff.2 holds, seconds, relative]

theorem ofMembers_of_active {data : Members} (active : p.HasActive data true)
    (hasUserId : p.HasUserId data t.userId) (hasScope : p.HasScope data t.scope)
    (hasClientId : p.HasClientId data t.clientId) :
    p.ofMembers now data = (p.expiresIn now data).map fun e => { t with active := true, expiresIn := e } := by
  simp only [ofMembers, bind, Except.bind, pure, Except.pure, active_eq_ok_iff.2 active,
    userId_eq_ok_iff.2 hasUserId, scope_eq_ok_iff.2 hasScope, clientId_eq_ok_iff.2 hasClientId]
  cases p.expiresIn now data <;> rfl

/-- The rounded number decides on the body, and is its expiry. -/
theorem toParser_of_writes {negative : Bool} {u : Nat} (writes : p.WritesExpiry depth field v t body)
    (relative : p.expiresIsTimestamp = false) (numeral : Numeral v (.finite negative u)) (now : Double) :
    (Double.finite negative u).Proper ∧
      p.toParser depth now body =
        if roundHalfAway (.finite negative u) < 0 then
          .error (ParseError.expiryNegative field (roundHalfAway (.finite negative u))).toFailure
        else
          .ok { t with active := true, expiresIn := some (roundHalfAway (.finite negative u)).toNat } := by
  obtain ⟨object, named, holds, active, hasUserId, hasScope, hasClientId⟩ := writes
  refine ⟨proper_of_numeral (properDoubles_of_read object) holds numeral, ?_⟩
  have expiry := expiresIn_of_relative now named relative holds numeral rfl
  generalize roundHalfAway (.finite negative u) = n at expiry ⊢
  rw [toParser, parse, members_eq_ok_iff.2 ⟨_, rfl, object⟩]
  show (p.ofMembers now _).mapError _ = _
  rw [ofMembers_of_active active hasUserId hasScope hasClientId, expiry]
  split <;> rfl

/-! ### Numbers in a text -/

theorem numeral_natCast {k : Nat} (small : k < twoPow 53) :
    Numeral (.int k) (.finite false (k * Double.one)) := by
  rw [← ofInt_natCast small]
  exact .int k

theorem planB_writes {text : List Char} (number : Json.WritesNumber text v) :
    planB.WritesExpiry 1000 "expires_in" v { userId := some "u" }
      (Utf8.encode ("\x7b\"uid\":\"u\",\"expires_in\":".toList ++ text ++ ['\x7d'])) := by
  have none : Json.Blanks [] := List.all_eq_true.1 rfl
  have plain (s : String) (all : s.toList.all Json.isPlain = true) : Json.Writes s.toList s.toList :=
    Json.writes_plain all
  have user : Json.WritesValue 999 "\"u\"".toList (.str "u") :=
    Json.writesValue_of_flat 999 (Json.flat_of_writes (plain "u" (by decide)))
  have first := Json.writesMember_of_writes (plain "uid" (by decide)) none none user
  have second := Json.writesMember_of_writes (plain "expires_in" (by decide)) none none
    (Json.writesValue_of_flat 999 (.number number))
  have members := Json.Separated.more none first none (.one none second none)
  have denotes : Json.Denotes 1000 _ (.obj [("uid", .str "u"), ("expires_in", v)]) :=
    .intro none (.members members) none
  have read := Json.read_of_denotes denotes
  simp only [List.nil_append, List.append_nil] at read
  exact .intro read rfl (lookup?_eq_some_iff.1 rfl) (.unnamed rfl)
    (.text rfl (lookup?_eq_some_iff.1 rfl)) (.missing rfl (Json.lookup?_eq_none_iff.1 rfl)) (.unnamed rfl)

/-! ### The nearest number of seconds -/

structure Expires (t : TokenInfo) (n : Int) (outcome : Except Failure TokenInfo) : Prop where
  refused : n < 0 → ∃ failure, outcome = .error failure ∧ failure.kind = .tokenInfoParse
  taken : 0 ≤ n → outcome = .ok { t with active := true, expiresIn := some n.toNat }

theorem expires_toParser {negative : Bool} {u : Nat} (writes : p.WritesExpiry depth field v t body)
    (relative : p.expiresIsTimestamp = false) (numeral : Numeral v (.finite negative u)) (now : Double) :
    Expires t (roundHalfAway (.finite negative u)) (p.toParser depth now body) := by
  rw [(toParser_of_writes writes relative numeral now).2]
  generalize roundHalfAway (.finite negative u) = n
  constructor
  · intro below
    exact ⟨_, if_pos below, rfl⟩
  · intro nonnegative
    exact if_neg (Int.not_lt.2 nonnegative)

/-- A body expires in one way only, but all negative numbers are refused alike. -/
theorem Expires.eq {m n : Int} {outcome : Except Failure TokenInfo} (hm : Expires t m outcome)
    (hn : Expires t n outcome) : m = n ∨ m < 0 ∧ n < 0 := by
  rcases Int.lt_or_le m 0 with below | least
  · obtain ⟨failure, refused, -⟩ := hm.refused below
    refine .inr ⟨below, Int.not_le.1 fun least => ?_⟩
    cases refused.symm.trans (hn.taken least)
  rcases Int.lt_or_le n 0 with below' | least'
  · obtain ⟨failure, refused, -⟩ := hn.refused below'
    cases refused.symm.trans (hm.taken least)
  · have same := Except.ok.inj ((hm.taken least).symm.trans (hn.taken least'))
    have seconds : m.toNat = n.toNat := Option.some.inj (congrArg TokenInfo.expiresIn same)
    exact .inl (by omega)

theorem expires_of_neg {m n : Int} {outcome : Except Failure TokenInfo} (h : Expires t m outcome)
    (hm : m < 0) (hn : n < 0) : Expires t n outcome :=
  ⟨fun _ => h.refused hm, fun nonnegative => absurd hn (Int.not_lt.2 nonnegative)⟩

/-- The expiry is the nearest whole number of seconds, halves away from zero, except where the number
overshoots and is not below zero when rounded: then it is one second further from zero. So an integer below
`2 ^ 53` comes back as it is unless it is odd and above `2 ^ 52`. -/
theorem expiry_nearest_iff {negative : Bool} {u : Nat} (writes : p.WritesExpiry depth field v t body)
    (relative : p.expiresIsTimestamp = false) (numeral : Numeral v (.finite negative u)) (now : Double) :
    ∃ m, Nearest negative u (signedInt negative m) ∧
      (Expires t (signedInt negative m) (p.toParser depth now body) ↔
        ¬ (Overshoots u ∧ 0 ≤ signedInt negative m)) ∧
      (Overshoots u → Expires t (signedInt negative (m + 1)) (p.toParser depth now body)) ∧
      ∀ k : Nat, v = .int k → k < twoPow 53 →
        p.toParser depth now body = .ok { t with
          active := true, expiresIn := some (if twoPow 52 < k ∧ k % 2 = 1 then k + 1 else k) } := by
  obtain ⟨proper, -⟩ := toParser_of_writes writes relative numeral now
  have expires := expires_toParser writes relative numeral now
  have rounded := roundHalfAway_nearestUnits proper
  refine ⟨nearestUnits u, Double.nearest_nearestUnits negative u, ?_, ?_, ?_⟩
  · obtain ⟨overshoots, next⟩ | ⟨exact, same⟩ := rounded
    · rw [next] at expires
      generalize nearestUnits u = m at expires ⊢
      constructor
      · rintro nearest ⟨-, nonnegative⟩
        rcases expires.eq nearest with same | ⟨-, below⟩
        · cases negative <;> simp [signedInt] at same
        · omega
      · intro below
        have below : signedInt negative m < 0 := Int.not_le.1 fun least => below ⟨overshoots, least⟩
        refine expires_of_neg expires ?_ below
        cases negative <;> simp [signedInt] at below ⊢ <;> omega
    · rw [same] at expires
      exact ⟨fun _ beyond => exact beyond.1, fun _ => expires⟩
  · intro overshoots
    obtain ⟨-, next⟩ | ⟨exact, -⟩ := rounded
    · rw [next] at expires
      exact expires
    · exact absurd overshoots exact
  · rintro k rfl small
    generalize value : Double.finite negative u = x at numeral
    cases numeral
    rw [ofInt_natCast small] at value
    obtain ⟨rfl, whole⟩ := Double.finite.inj value
    rw [whole, Double.overshoots_whole_iff, Double.nearestUnits_whole] at rounded
    rw [whole] at expires
    obtain ⟨⟨large, -, odd⟩, next⟩ | ⟨exact, same⟩ := rounded
    · rw [next] at expires
      rw [if_pos ⟨large, odd⟩]
      exact expires.taken (Int.natCast_nonneg _)
    · rw [same] at expires
      rw [if_neg fun beyond => exact ⟨beyond.1, small, beyond.2⟩]
      exact expires.taken (Int.natCast_nonneg _)

theorem expiry_nearest_half :
    let body := Utf8.encode ("\x7b\"uid\":\"u\",\"expires_in\":".toList ++ "10.5".toList ++ ['\x7d'])
    let v := Value.double (.finite false (21 * (Double.one / 2)))
    planB.WritesExpiry 1000 "expires_in" v { userId := some "u" } body ∧ planB.expiresIsTimestamp = false ∧
      Numeral v (.finite false (21 * (Double.one / 2))) ∧
      Expires { userId := some "u" } 11 (planB.toParser 1000 .zero body) := by
  intro body v
  have half : Json.FractionMark ".5".toList ['5'] := .some (List.cons_ne_nil _ _) (List.all_eq_true.1 rfl)
  have ten : Json.WholeDigits "10".toList := .digits (by decide) (List.all_eq_true.1 rfl)
  have value : Double.ofDecimal false (ofDigits ("10".toList ++ ['5'])) ((none : Option Int).getD 0 - 1) =
      .finite false (21 * (Double.one / 2)) := by decide +kernel
  have number : Json.WritesNumber "10.5".toList v := by
    have number := Json.WritesNumber.decimal false ten half .none (.inl (List.cons_ne_nil _ _))
    rw [show ((['5'].length : Nat) : Int) = 1 from rfl, value] at number
    exact number
  have writes := planB_writes number
  obtain ⟨m, nearest, exact, -⟩ := expiry_nearest_iff writes rfl (.double _) .zero
  have eleven : signedInt false m = 11 := (Double.nearest_iff.1 nearest).trans (by decide +kernel)
  have small : ¬ Overshoots (21 * (Double.one / 2)) :=
    Double.not_overshoots_of_lt (by decide +kernel) (by decide +kernel)
  rw [eleven] at exact
  exact ⟨writes, rfl, .double _, exact.2 fun beyond => small beyond.1⟩

/-- The literal `4503599627370497` is `2 ^ 52 + 1`, and comes back as the even number above it. -/
theorem not_every_expiry_nearest :
    ¬ ∀ (p : FieldParser) (depth : Nat) (field : RawText) (v : Value) (t : TokenInfo) (body : List UInt8)
      (negative : Bool) (u : Nat) (now : Double), p.WritesExpiry depth field v t body → p.expiresIsTimestamp = false →
      Numeral v (.finite negative u) → ∃ n, Nearest negative u n ∧ Expires t n (p.toParser depth now body) := by
  intro always
  have digits : Json.WholeDigits "4503599627370497".toList := .digits (by decide) (List.all_eq_true.1 rfl)
  have number : Json.WritesNumber "4503599627370497".toList (.int (4503599627370497 : Nat)) :=
    .integer false digits (by decide)
  have writes := planB_writes number
  have small : 4503599627370497 < twoPow 53 := by decide
  have numeral := numeral_natCast small
  obtain ⟨n, nearest, expires⟩ := always planB _ _ _ _ _ _ _ .zero writes rfl numeral
  obtain ⟨proper, -⟩ := toParser_of_writes writes rfl numeral .zero
  have rounded := roundHalfAway_nearestUnits proper
  rw [Double.overshoots_whole_iff, Double.nearestUnits_whole] at rounded
  obtain ⟨-, next⟩ | ⟨exact, -⟩ := rounded
  · rw [Double.nearest_iff.1 nearest, Double.nearestUnits_whole] at expires
    rcases (expires_toParser writes rfl numeral .zero).eq expires with same | ⟨-, below⟩
    · rw [next] at same
      cases same
    · cases below
  · exact exact (by decide)

end FieldParser

end Bearer
