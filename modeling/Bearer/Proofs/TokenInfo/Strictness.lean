import Bearer.Proofs.TokenInfo.Grammar

/-!
Strict and lenient parsing. A strict parser asks for the user id and the expiry if they have a name, and nothing
else tells it from a lenient one with the same names: field by field it finds the same values, as long as the two
are there (`userId_strictly_iff`, `expiresIn_strictly_iff`). So whatever it accepts a lenient one accepts as the
same token information, and `strict_iff_lenient` says what of the rest it accepts.
-/

namespace Bearer.FieldParser

open Json (Members lookup?)

def strictly (p : FieldParser) : FieldParser := { p with strict := true }

def leniently (p : FieldParser) : FieldParser := { p with strict := false }

/-- Token information with a user id and an expiry, as far as a parser has names for them. -/
structure Fills (p : FieldParser) (t : TokenInfo) : Prop where
  userId : p.userIdField.isSome → t.userId.isSome
  expiresIn : p.expiresInField.isSome → t.expiresIn.isSome

variable {p : FieldParser} {now : Double} {data : Members}

/-! ### Fields -/

theorem userId_strictly_iff {u : Option RawText} : p.strictly.userId data = .ok u ↔
    p.leniently.userId data = .ok u ∧ (p.userIdField.isSome → u.isSome) := by
  have strict : p.strictly.HasUserId data u ↔
      p.leniently.HasUserId data u ∧ (p.userIdField.isSome → u.isSome) := by
    constructor
    · rintro (unnamed | ⟨named, holds⟩ | ⟨-, lenient, -⟩)
      · have unnamed : p.userIdField = none := unnamed
        exact ⟨.unnamed unnamed, by simp [unnamed]⟩
      · exact ⟨.text named holds, fun _ => rfl⟩
      · cases lenient
    · rintro ⟨unnamed | ⟨named, holds⟩ | ⟨named, -, -⟩, filled⟩
      · exact .unnamed unnamed
      · exact .text named holds
      · have named : p.userIdField = some _ := named
        cases filled (by simp [named])
  rw [userId_eq_ok_iff, userId_eq_ok_iff, strict]

theorem isSome_of_expiresIn {field : RawText} {v : Json.Value} {x : Option Nat}
    (named : p.expiresInField = some field) (there : lookup? data field = some v)
    (taken : p.expiresIn now data = .ok x) : x.isSome := by
  simp only [expiresIn, named, there] at taken
  split at taken
  · cases taken
  · split at taken
    · obtain rfl := Except.ok.inj taken
      rfl
    · split at taken
      · cases taken
      · obtain rfl := Except.ok.inj taken
        rfl

theorem expiresIn_strictly_iff {x : Option Nat} : p.strictly.expiresIn now data = .ok x ↔
    p.leniently.expiresIn now data = .ok x ∧ (p.expiresInField.isSome → x.isSome) := by
  cases named : p.expiresInField with
  | none => simp [expiresIn, strictly, leniently, named]
  | some field =>
    cases there : lookup? data field with
    | none =>
      have refused : p.strictly.expiresIn now data = .error (.noExpiry field) := by
        simp [expiresIn, strictly, named, there]
      have nothing : p.leniently.expiresIn now data = .ok none := by
        simp [expiresIn, leniently, named, there]
      rw [refused, nothing]
      constructor
      · intro accepted
        cases accepted
      · rintro ⟨taken, filled⟩
        obtain rfl := Except.ok.inj taken
        cases filled rfl
    | some v =>
      have same : p.strictly.expiresIn now data = p.leniently.expiresIn now data := by
        simp only [expiresIn, strictly, leniently, named, there]
      rw [same]
      have lenient : p.leniently.expiresInField = some field := named
      exact (and_iff_left_of_imp fun taken _ => isSome_of_expiresIn lenient there taken).symm

/-! ### Members -/

/-- Members make token information if the flag is off, or if each field is read as its part of it. -/
theorem ofMembers_eq_ok_iff_fields {t : TokenInfo} : p.ofMembers now data = .ok t ↔
    (p.active data = .ok false ∧ t = { active := false }) ∨
      (p.active data = .ok true ∧ t.active = true ∧ p.userId data = .ok t.userId ∧
        p.scope data = .ok t.scope ∧ p.expiresIn now data = .ok t.expiresIn ∧
        p.clientId data = .ok t.clientId) := by
  constructor
  · intro h
    obtain ⟨flag, active, h⟩ := bind_eq_ok_iff.1 h
    cases flag with
    | false => exact .inl ⟨active, (Except.ok.inj h).symm⟩
    | true =>
      obtain ⟨userId, user, h⟩ := bind_eq_ok_iff.1 h
      obtain ⟨scope, scopes, h⟩ := bind_eq_ok_iff.1 h
      obtain ⟨expiry, expires, h⟩ := bind_eq_ok_iff.1 h
      obtain ⟨clientId, client, h⟩ := bind_eq_ok_iff.1 h
      obtain rfl := Except.ok.inj h
      exact .inr ⟨active, rfl, user, scopes, expires, client⟩
  · rintro (⟨active, rfl⟩ | ⟨active, on, user, scopes, expires, client⟩)
    · exact bind_eq_ok_iff.2 ⟨false, active, rfl⟩
    · refine bind_eq_ok_iff.2 ⟨true, active, bind_eq_ok_iff.2 ⟨t.userId, user, ?_⟩⟩
      refine bind_eq_ok_iff.2 ⟨t.scope, scopes, bind_eq_ok_iff.2 ⟨t.expiresIn, expires, ?_⟩⟩
      refine bind_eq_ok_iff.2 ⟨t.clientId, client, ?_⟩
      rw [← on]
      rfl

theorem ofMembers_strictly_iff {t : TokenInfo} : p.strictly.ofMembers now data = .ok t ↔
    p.leniently.ofMembers now data = .ok t ∧ (t.active = false ∨ p.Fills t) := by
  -- the flag, the scopes and the client id are read without regard to strictness
  have active : p.strictly.active data = p.leniently.active data := rfl
  have scope : p.strictly.scope data = p.leniently.scope data := rfl
  have clientId : p.strictly.clientId data = p.leniently.clientId data := rfl
  rw [ofMembers_eq_ok_iff_fields, ofMembers_eq_ok_iff_fields, active, scope, clientId, userId_strictly_iff,
    expiresIn_strictly_iff]
  constructor
  · rintro (⟨off, rfl⟩ | ⟨flag, on, ⟨user, hasUser⟩, scopes, ⟨expires, hasExpiry⟩, client⟩)
    · exact ⟨.inl ⟨off, rfl⟩, .inl rfl⟩
    · exact ⟨.inr ⟨flag, on, user, scopes, expires, client⟩, .inr ⟨hasUser, hasExpiry⟩⟩
  · rintro ⟨⟨off, rfl⟩ | ⟨flag, on, user, scopes, expires, client⟩, filled⟩
    · exact .inl ⟨off, rfl⟩
    · rcases filled with off | filled
      · cases on.symm.trans off
      · exact .inr ⟨flag, on, ⟨user, filled.userId⟩, scopes, ⟨expires, filled.expiresIn⟩, client⟩

/-! ### Bodies -/

/-- A strict parser accepts what a lenient one with the same names accepts, as the same token information, unless
the token is active and a named user id or expiry is not there. What a lenient parser refuses a strict one refuses
too. -/
theorem strict_iff_lenient (p : FieldParser) (depth : Nat) (now : Double) (body : List UInt8) :
    (∀ t, p.strictly.toParser depth now body = .ok t ↔
      p.leniently.toParser depth now body = .ok t ∧ (t.active = false ∨ p.Fills t)) ∧
    ∀ f, p.leniently.toParser depth now body = .error f → ∃ g, p.strictly.toParser depth now body = .error g := by
  have accepted (t : TokenInfo) : p.strictly.toParser depth now body = .ok t ↔
      p.leniently.toParser depth now body = .ok t ∧ (t.active = false ∨ p.Fills t) := by
    simp only [toParser_eq_ok_iff, parse, bind_eq_ok_iff, ofMembers_strictly_iff]
    constructor
    · rintro ⟨data, object, read, filled⟩
      exact ⟨⟨data, object, read⟩, filled⟩
    · rintro ⟨⟨data, object, read⟩, filled⟩
      exact ⟨data, object, read, filled⟩
  refine ⟨accepted, fun f refused => ?_⟩
  cases strict : p.strictly.toParser depth now body with
  | error g => exact ⟨g, rfl⟩
  | ok t =>
    obtain ⟨lenient, -⟩ := (accepted t).1 strict
    cases refused.symm.trans lenient

/-- Without a user id a token is strictly refused, but with `null` for a client id it is not. -/
theorem strict_iff_lenient_googleV3 :
    let body := Utf8.encode "\x7b\"user_id\": \"mjw\", \"expires_in\": 1, \"aud\": null\x7d".toList
    let nameless := Utf8.encode "\x7b\"user_id\": null, \"expires_in\": 1\x7d".toList
    let t : TokenInfo := { userId := some "mjw", expiresIn := some 1 }
    googleV3.strictly.toParser 1000 .zero body = .ok t ∧
      googleV3.leniently.toParser 1000 .zero nameless = .ok { t with userId := none } ∧
      googleV3.strictly.toParser 1000 .zero nameless ≠ .ok { t with userId := none } ∧
      ∃ g, googleV3.strictly.toParser 1000 .zero [] = .error g := by
  intro body nameless t
  have lenient : googleV3.leniently.toParser 1000 .zero body = .ok t := by decide +kernel
  have lenientNameless : googleV3.leniently.toParser 1000 .zero nameless = .ok { t with userId := none } := by
    decide +kernel
  obtain ⟨accepted, -⟩ := strict_iff_lenient googleV3 1000 .zero body
  obtain ⟨acceptedNameless, -⟩ := strict_iff_lenient googleV3 1000 .zero nameless
  obtain ⟨-, refused⟩ := strict_iff_lenient googleV3 1000 .zero []
  refine ⟨(accepted t).2 ⟨lenient, .inr ⟨fun _ => rfl, fun _ => rfl⟩⟩, lenientNameless, fun strict => ?_, ?_⟩
  · rcases ((acceptedNameless _).1 strict).2 with off | filled
    · cases off
    · cases filled.userId rfl
  · cases empty : googleV3.leniently.toParser 1000 .zero [] with
    | error f => exact refused f empty
    | ok t =>
      have never : (googleV3.leniently.toParser 1000 .zero []).isOk = false := by decide +kernel
      rw [empty] at never
      cases never

end Bearer.FieldParser
