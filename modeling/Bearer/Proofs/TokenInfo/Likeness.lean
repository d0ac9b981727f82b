import Bearer.Proofs.Json.Likeness
import Bearer.Proofs.Text.Utf8
import Bearer.TokenInfo.Parser

/-!
What a field parser makes of answers of one shape. It names the kinds of what it refuses and never what a
string says, so two answers that differ in their strings, but not in what says whether the token is
active, are refused for one reason or bring token information that is alike (`parse_alike`).
-/

namespace Bearer

open Json (Members Value SameShape shapes memberShapes lookup?)

/-! ### Members -/

namespace Json

theorem lookup?_memberShapes (data : Members) (name : RawText) :
    lookup? (memberShapes data) name = (lookup? data name).map Value.shape := by
  unfold lookup?
  rw [memberShapes_eq_map, ← List.map_reverse, List.find?_map, Option.map_map, Option.map_map]
  rfl

variable {data data' : Members}

theorem lookup?_sameShape (same : memberShapes data' = memberShapes data) (name : RawText) :
    Option.Rel SameShape (lookup? data name) (lookup? data' name) := by
  have found : (lookup? data' name).map Value.shape = (lookup? data name).map Value.shape := by
    rw [← lookup?_memberShapes, ← lookup?_memberShapes, same]
  generalize lookup? data name = v, lookup? data' name = v' at found ⊢
  cases v with
  | none =>
    obtain rfl := Option.map_eq_none_iff.1 found
    exact .none
  | some v =>
    obtain ⟨w, rfl, shape⟩ := Option.map_eq_some_iff.1 found
    exact .some shape

/-- Values of one shape are the same, but for strings and for what holds them. -/
theorem sameShape_cases {v v' : Value} (same : SameShape v v') : v' = v ∨
    (∃ s s', v = .str s ∧ v' = .str s') ∨
    (∃ vs vs', v = .arr vs ∧ v' = .arr vs' ∧ shapes vs' = shapes vs) ∨
    ∃ ms ms', v = .obj ms ∧ v' = .obj ms' ∧ memberShapes ms' = memberShapes ms := by
  unfold SameShape at same
  cases v with
  | str s =>
    cases v' with
    | str s' => exact .inr (.inl ⟨s, s', rfl, rfl⟩)
    | _ => cases same
  | arr vs =>
    cases v' with
    | arr vs' => exact .inr (.inr (.inl ⟨vs, vs', rfl, rfl, Value.arr.inj same⟩))
    | _ => cases same
  | obj ms =>
    cases v' with
    | obj ms' => exact .inr (.inr (.inr ⟨ms, ms', rfl, rfl, Value.obj.inj same⟩))
    | _ => cases same
  | _ =>
    cases v' <;> cases same
    exact .inl rfl

/-- What holds of two members of one name, if it holds of the same value, of two strings, of two arrays and
of two objects. -/
@[elab_as_elim]
theorem member_cases {M : Option Value → Option Value → Prop} (same : memberShapes data' = memberShapes data)
    (name : RawText) (equal : ∀ v, M v v) (str : ∀ s s', M (some (.str s)) (some (.str s')))
    (arr : ∀ vs vs', shapes vs' = shapes vs → M (some (.arr vs)) (some (.arr vs')))
    (obj : ∀ ms ms', M (some (.obj ms)) (some (.obj ms'))) : M (lookup? data name) (lookup? data' name) := by
  have member := lookup?_sameShape same name
  generalize lookup? data name = v, lookup? data' name = v' at member ⊢
  cases member with
  | none => exact equal none
  | some shape =>
    obtain rfl | ⟨s, s', rfl, rfl⟩ | ⟨vs, vs', rfl, rfl, items⟩ | ⟨ms, ms', rfl, rfl, -⟩ := sameShape_cases shape
    · exact equal _
    · exact str s s'
    · exact arr vs vs' items
    · exact obj ms ms'

end Json

/-! ### Fields -/

namespace FieldParser

variable {p : FieldParser} {now : Double} {data data' : Members}

theorem text?_shape (v : Value) : (text? v.shape).isNone = (text? v).isNone := by
  cases v <;> rfl

theorem found_shape (v : Value) : found (some v.shape) = found (some v) := by
  cases v <;> rfl

theorem scopeItems_alike {vs vs' : List Value} (same : shapes vs' = shapes vs) (field : RawText) :
    OutcomeAlike (fun _ _ => True) (scopeItems field vs) (scopeItems field vs') := by
  -- the first item that is no string has one kind in both
  have first (vs : List Value) : ((shapes vs).find? fun v => (text? v).isNone) =
      (vs.find? fun v => (text? v).isNone).map Value.shape := by
    have shown : (fun v => (text? v).isNone) ∘ Value.shape = fun v => (text? v).isNone := funext text?_shape
    rw [Json.shapes_eq_map, List.find?_map, shown]
  have firsts := same ▸ first vs'
  rw [first vs] at firsts
  unfold scopeItems
  generalize vs.find? _ = v, vs'.find? _ = v' at firsts ⊢
  cases v with
  | none =>
    obtain rfl := Option.map_eq_none_iff.1 firsts.symm
    exact .ok trivial
  | some v =>
    obtain ⟨w, rfl, shape⟩ := Option.map_eq_some_iff.1 firsts.symm
    dsimp only
    rw [← found_shape v, ← found_shape w, shape]
    exact .error _

section

variable (same : memberShapes data' = memberShapes data)
include same

theorem userId_alike :
    OutcomeAlike (fun u u' => u'.isSome = u.isSome) (p.userId data) (p.userId data') := by
  unfold userId
  cases p.userIdField with
  | none => exact .ok rfl
  | some field =>
    dsimp only
    refine Json.member_cases same field (fun v => ?_) (fun s s' => ?_) (fun vs vs' _ => ?_) fun ms ms' => ?_
    · refine outcomeAlike_refl ?_ _
      exact fun _ => rfl
    · exact .ok rfl
    · exact .error _
    · exact .error _

theorem scope_alike : OutcomeAlike (fun _ _ => True) (p.scope data) (p.scope data') := by
  unfold scope
  cases p.scopeField with
  | none => exact .ok trivial
  | some field =>
    dsimp only
    refine Json.member_cases same field (fun v => ?_) (fun s s' => ?_) (fun vs vs' items => ?_) fun ms ms' => ?_
    · exact outcomeAlike_refl (fun _ => trivial) _
    · exact .ok trivial
    · exact scopeItems_alike items field
    · exact .error _

theorem clientId_alike : OutcomeAlike (fun _ _ => True) (p.clientId data) (p.clientId data') := by
  unfold clientId
  cases p.clientIdField with
  | none => exact .ok trivial
  | some field =>
    dsimp only
    refine Json.member_cases same field (fun v => ?_) (fun s s' => ?_) (fun vs vs' _ => ?_) fun ms ms' => ?_
    · exact outcomeAlike_refl (fun _ => trivial) _
    · exact .ok trivial
    · exact .error _
    · exact .error _

/-- An expiry is a number or is refused by its kind. -/
theorem expiresIn_eq : p.expiresIn now data' = p.expiresIn now data := by
  unfold expiresIn
  cases p.expiresInField with
  | none => rfl
  | some field =>
    dsimp only
    refine Json.member_cases same field (fun v => ?_) (fun s s' => ?_) (fun vs vs' _ => ?_) fun ms ms' => ?_ <;>
      rfl

end

end FieldParser

/-! ### Answers -/

structure TokenInfo.Alike (t t' : TokenInfo) : Prop where
  active : t'.active = t.active
  expiresIn : t'.expiresIn = t.expiresIn
  named : t'.userId.isSome = t.userId.isSome

theorem TokenInfo.alike_refl (t : TokenInfo) : TokenInfo.Alike t t := ⟨rfl, rfl, rfl⟩

theorem TokenInfo.Alike.toUser {t t' : TokenInfo} (h : TokenInfo.Alike t t') :
    OutcomeAlike (fun _ _ => True) t.toUser t'.toUser := by
  have named := h.named
  unfold TokenInfo.toUser
  rw [h.active]
  split
  · exact .error _
  · generalize t.userId = u, t'.userId = u' at named ⊢
    cases u <;> cases u' <;> cases named
    · exact .error _
    · exact .ok trivial

namespace FieldParser

variable {p : FieldParser} {data data' : Members}

theorem ofMembers_alike (same : memberShapes data' = memberShapes data)
    (active : ∀ field, p.activeField = some field → lookup? data' field = lookup? data field) (now : Double) :
    OutcomeAlike TokenInfo.Alike (p.ofMembers now data) (p.ofMembers now data') := by
  have flag : p.active data' = p.active data := by
    unfold FieldParser.active
    cases named : p.activeField with
    | none => rfl
    | some field =>
      dsimp only
      rw [active field named]
  unfold ofMembers
  rw [flag, expiresIn_eq same]
  refine (outcomeAlike_eq.2 rfl).bind fun b b' equal => ?_
  cases equal
  cases b with
  | false => exact .ok (TokenInfo.alike_refl _)
  | true =>
    refine (userId_alike same).bind fun u u' named => ?_
    refine (scope_alike same).bind fun s s' _ => ?_
    refine (outcomeAlike_eq.2 rfl).bind fun e e' left => ?_
    refine (clientId_alike same).bind fun c c' _ => ?_
    exact .ok ⟨rfl, left.symm, named⟩

/-- Texts of answers that differ in what strings say, but not in the member that says whether the token is
active; the first one is well-formed, hence both are. -/
structure TextsAlike (p : FieldParser) (depth : Nat) (text text' : List Char) : Prop where
  alike : Json.Alike text text'
  wellFormed : Json.WellFormed depth text
  active : ∀ field data data', p.activeField = some field → Json.read depth text = .ok (.obj data) →
    Json.read depth text' = .ok (.obj data') → lookup? data' field = lookup? data field

/-- Two answers that differ in their strings only bring alike token information or are refused alike. -/
theorem parse_alike {depth : Nat} {text text' : List Char} (h : TextsAlike p depth text text') (now : Double) :
    OutcomeAlike TokenInfo.Alike (p.parse depth now (Utf8.encode text))
      (p.parse depth now (Utf8.encode text')) := by
  have active := h.active
  have values := Json.read_alike h.alike h.wellFormed
  unfold parse members
  rw [Utf8.decode_iff.2 rfl, Utf8.decode_iff.2 rfl]
  dsimp only
  generalize Json.read depth text = first, Json.read depth text' = second at values active ⊢
  cases values with
  | error e => exact .error _
  | ok shape =>
    obtain rfl | ⟨s, s', rfl, rfl⟩ | ⟨vs, vs', rfl, rfl, -⟩ | ⟨data, data', rfl, rfl, same⟩ :=
      Json.sameShape_cases shape
    · exact outcomeAlike_refl TokenInfo.alike_refl _
    · exact .error _
    · exact .error _
    · exact ofMembers_alike same (fun field named => active field _ _ named rfl rfl) now

end FieldParser

end Bearer
