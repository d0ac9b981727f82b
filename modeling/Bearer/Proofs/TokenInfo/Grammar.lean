import Bearer.Proofs.Except
import Bearer.Proofs.Json
import Bearer.Proofs.Text.Utf8
import Bearer.TokenInfo.Parser

/-!
The grammar of token information. `Describes` says field by field what the members of an object must
hold, and `Accepts` what a body must write. `toParser_exact` shows that a field parser accepts exactly
this grammar and refuses all else as no token information, but for a text that nests its containers
too deeply: such a text exhausts the reader.
-/

namespace Bearer.FieldParser

open Json (Members Value Holds Lacks lookup?_eq_some_iff lookup?_eq_none_iff)

/-! ### Fields -/

inductive HasActive (p : FieldParser) (data : Members) : Bool → Prop
  | unnamed (unnamed : p.activeField = none) : HasActive p data true
  | flag {field : RawText} {b : Bool} (named : p.activeField = some field)
    (holds : Holds data field (.bool b)) : HasActive p data b
  | word {field : RawText} {b : Bool} (named : p.activeField = some field)
    (holds : Holds data field (.str (.whole (if b then "true" else "false")))) : HasActive p data b

inductive HasUserId (p : FieldParser) (data : Members) : Option RawText → Prop
  | unnamed (unnamed : p.userIdField = none) : HasUserId p data none
  | text {field s : RawText} (named : p.userIdField = some field)
    (holds : Holds data field (.str s)) : HasUserId p data (some s)
  | nothing {field : RawText} (named : p.userIdField = some field) (lenient : p.strict = false)
    (nothing : Lacks data field ∨ Holds data field .null) : HasUserId p data none

inductive HasScope (p : FieldParser) (data : Members) : List RawText → Prop
  | unnamed (unnamed : p.scopeField = none) : HasScope p data []
  | missing {field : RawText} (named : p.scopeField = some field) (lacks : Lacks data field) :
    HasScope p data []
  | words {field s : RawText} (named : p.scopeField = some field)
    (holds : Holds data field (.str s)) : HasScope p data s.words
  | items {field : RawText} {ss : List RawText} (named : p.scopeField = some field)
    (holds : Holds data field (.arr (ss.map .str))) : HasScope p data ss

/-- The double that a number stands for; a truth value is no number. -/
inductive Numeral : Value → Double → Prop
  | int (n : Int) : Numeral (.int n) (Double.ofInt n)
  | double (x : Double) : Numeral (.double x) x

/-- Half away from zero: the floor of the magnitude plus one half, if that sum is in range, with the
sign of the number. -/
def Rounds (x : Double) (n : Int) : Prop :=
  ∃ negative u sum, x = .finite negative u ∧ x.abs + Double.half = .finite false sum ∧
    n = signedInt negative (Double.floorUnits sum)

inductive HasExpiry (p : FieldParser) (now : Double) (data : Members) : Option Nat → Prop
  | unnamed (unnamed : p.expiresInField = none) : HasExpiry p now data none
  | missing {field : RawText} (named : p.expiresInField = some field) (lenient : p.strict = false)
    (lacks : Lacks data field) : HasExpiry p now data none
  | seconds {field : RawText} {v : Value} {x : Double} {n : Nat}
    (named : p.expiresInField = some field) (relative : p.expiresIsTimestamp = false)
    (holds : Holds data field v) (numeral : Numeral v x) (rounds : Rounds x n) :
    HasExpiry p now data (some n)
  | timestamp {field : RawText} {v : Value} {x : Double} {n : Nat}
    (named : p.expiresInField = some field) (absolute : p.expiresIsTimestamp = true)
    (holds : Holds data field v) (numeral : Numeral v x) (finite : x.isFinite)
    (rounds : Rounds (Double.max .zero (x - now)) n) : HasExpiry p now data (some n)

inductive HasClientId (p : FieldParser) (data : Members) : Option RawText → Prop
  | unnamed (unnamed : p.clientIdField = none) : HasClientId p data none
  | text {field s : RawText} (named : p.clientIdField = some field)
    (holds : Holds data field (.str s)) : HasClientId p data (some s)
  | nothing {field : RawText} (named : p.clientIdField = some field)
    (nothing : Lacks data field ∨ Holds data field .null) : HasClientId p data none

/-- The token information that the members of an object write. Nothing but the flag counts if the
token is not active. -/
inductive Describes (p : FieldParser) (now : Double) (data : Members) : TokenInfo → Prop
  | inactive (active : p.HasActive data false) : Describes p now data { active := false }
  | active {userId clientId : Option RawText} {scope : List RawText} {expiresIn : Option Nat}
    (active : p.HasActive data true) (hasUserId : p.HasUserId data userId)
    (hasScope : p.HasScope data scope) (hasExpiry : p.HasExpiry now data expiresIn)
    (hasClientId : p.HasClientId data clientId) :
    Describes p now data { active := true, userId, scope, expiresIn, clientId }

def Accepts (p : FieldParser) (depth : Nat) (now : Double) (body : List UInt8) (t : TokenInfo) : Prop :=
  ∃ text data, body = Utf8.encode text ∧ Json.read depth text = .ok (.obj data) ∧ p.Describes now data t

/-- A body in UTF-8 with more containers inside one another than the JSON reader follows. -/
def TooDeep (depth : Nat) (body : List UInt8) : Prop :=
  ∃ text container, body = Utf8.encode text ∧ Json.read depth text = .error (.tooDeep container)

/-! ### Decoders -/

variable {p : FieldParser} {depth : Nat} {now : Double} {data : Members}

theorem active_eq_ok_iff {b : Bool} : p.active data = .ok b ↔ p.HasActive data b := by
  constructor
  · intro h
    unfold active at h
    split at h
    next unnamed =>
      obtain rfl := Except.ok.inj h
      exact .unnamed unnamed
    next field named =>
      split at h
      next holds =>
        obtain rfl := Except.ok.inj h
        exact .flag named (lookup?_eq_some_iff.1 holds)
      next holds =>
        obtain rfl := Except.ok.inj h
        exact .word named (lookup?_eq_some_iff.1 holds)
      next holds =>
        obtain rfl := Except.ok.inj h
        exact .word named (lookup?_eq_some_iff.1 holds)
      next => cases h
  · rintro (unnamed | ⟨named, holds⟩ | ⟨named, holds⟩)
    · rw [active, unnamed]
    · simp only [active, named, lookup?_eq_some_iff.2 holds]
    · cases b <;> simp [active, named, lookup?_eq_some_iff.2 holds]

theorem userId_eq_ok_iff {u : Option RawText} : p.userId data = .ok u ↔ p.HasUserId data u := by
  constructor
  · intro h
    unfold userId at h
    split at h
    next unnamed =>
      obtain rfl := Except.ok.inj h
      exact .unnamed unnamed
    next field named =>
      split at h
      next holds =>
        obtain rfl := Except.ok.inj h
        exact .text named (lookup?_eq_some_iff.1 holds)
      next lacks =>
        split at h
        next => cases h
        next lenient =>
          obtain rfl := Except.ok.inj h
          exact .nothing named (Bool.not_eq_true _ ▸ lenient) (.inl (lookup?_eq_none_iff.1 lacks))
      next holds =>
        split at h
        next => cases h
        next lenient =>
          obtain rfl := Except.ok.inj h
          exact .nothing named (Bool.not_eq_true _ ▸ lenient) (.inr (lookup?_eq_some_iff.1 holds))
      next => cases h
  · rintro (unnamed | ⟨named, holds⟩ | ⟨named, lenient, lacks | holds⟩)
    · rw [userId, unnamed]
    · simp only [userId, named, lookup?_eq_some_iff.2 holds]
    · simp [userId, named, lenient, lookup?_eq_none_iff.2 lacks]
    · simp [userId, named, lenient, lookup?_eq_some_iff.2 holds]

theorem map_str_filterMap {vs : List Value} (texts : ∀ v ∈ vs, (text? v).isSome) :
    (vs.filterMap text?).map Value.str = vs := by
  induction vs with
  | nil => rfl
  | cons v vs ih =>
    have rest := ih fun w hw => texts w (List.mem_cons_of_mem _ hw)
    have first := texts v List.mem_cons_self
    cases v with
    | str s => simpa [text?] using rest
    | _ => cases first

theorem scopeItems_eq_ok_iff {field : RawText} {vs : List Value} {ss : List RawText} :
    scopeItems field vs = .ok ss ↔ vs = ss.map .str := by
  constructor
  · intro h
    unfold scopeItems at h
    split at h
    · cases h
    next found =>
      obtain rfl := Except.ok.inj h
      refine (map_str_filterMap fun v hv => ?_).symm
      simpa [Option.isSome_iff_ne_none] using List.find?_eq_none.1 found v hv
  · rintro rfl
    have none : (ss.map Value.str).find? (fun v => (text? v).isNone) = none := by
      simp [List.find?_eq_none, text?]
    rw [scopeItems, none]
    simp [List.filterMap_map, Function.comp_def, text?]

theorem scope_eq_ok_iff {ss : List RawText} : p.scope data = .ok ss ↔ p.HasScope data ss := by
  constructor
  · intro h
    unfold scope at h
    split at h
    next unnamed =>
      obtain rfl := Except.ok.inj h
      exact .unnamed unnamed
    next field named =>
      split at h
      next lacks =>
        obtain rfl := Except.ok.inj h
        exact .missing named (lookup?_eq_none_iff.1 lacks)
      next holds =>
        obtain rfl := Except.ok.inj h
        exact .words named (lookup?_eq_some_iff.1 holds)
      next holds =>
        obtain rfl := scopeItems_eq_ok_iff.1 h
        exact .items named (lookup?_eq_some_iff.1 holds)
      next => cases h
  · rintro (unnamed | ⟨named, lacks⟩ | ⟨named, holds⟩ | ⟨named, holds⟩)
    · rw [scope, unnamed]
    · simp only [scope, named, lookup?_eq_none_iff.2 lacks]
    · simp only [scope, named, lookup?_eq_some_iff.2 holds]
    · simp only [scope, named, lookup?_eq_some_iff.2 holds]
      exact scopeItems_eq_ok_iff.2 rfl

theorem clientId_eq_ok_iff {c : Option RawText} : p.clientId data = .ok c ↔ p.HasClientId data c := by
  constructor
  · intro h
    unfold clientId at h
    split at h
    next unnamed =>
      obtain rfl := Except.ok.inj h
      exact .unnamed unnamed
    next field named =>
      split at h
      next holds =>
        obtain rfl := Except.ok.inj h
        exact .text named (lookup?_eq_some_iff.1 holds)
      next lacks =>
        obtain rfl := Except.ok.inj h
        exact .nothing named (.inl (lookup?_eq_none_iff.1 lacks))
      next holds =>
        obtain rfl := Except.ok.inj h
        exact .nothing named (.inr (lookup?_eq_some_iff.1 holds))
      next => cases h
  · rintro (unnamed | ⟨named, holds⟩ | ⟨named, lacks | holds⟩)
    · rw [clientId, unnamed]
    · simp only [clientId, named, lookup?_eq_some_iff.2 holds]
    · simp only [clientId, named, lookup?_eq_none_iff.2 lacks]
    · simp only [clientId, named, lookup?_eq_some_iff.2 holds]

/-! ### The expiry -/

theorem roundHalfAway_eq {x : Double} {n : Int} (rounds : Rounds x n) : roundHalfAway x = n := by
  obtain ⟨negative, u, sum, rfl, inRange, rfl⟩ := rounds
  rw [roundHalfAway, inRange]
  rfl

/-- Every finite double that arithmetic can meet has a rounded value. -/
theorem rounds_roundHalfAway {negative : Bool} {u : Nat} (proper : (Double.finite negative u).Proper) :
    Rounds (.finite negative u) (roundHalfAway (.finite negative u)) := by
  obtain ⟨sum, half⟩ := Double.abs_add_half proper
  have rounds : Rounds (.finite negative u) (signedInt negative (Double.floorUnits sum)) :=
    ⟨negative, u, sum, rfl, half, rfl⟩
  rwa [roundHalfAway_eq rounds]

/-- A point in time leaves a whole number of seconds, however far away it is. -/
theorem rounds_secondsLeft {negative : Bool} {u : Nat} (proper : (Double.finite negative u).Proper)
    (clock : ∃ negative u, now = .finite negative u ∧ 0 ≤ Double.signed negative u) :
    Rounds (Double.max .zero (.finite negative u - now)) (secondsLeft now (.finite negative u)) := by
  obtain ⟨s, v, rfl, nonneg⟩ := clock
  obtain ⟨w, left, leftProper⟩ := Double.max_zero_sub proper nonneg
  have rounds := rounds_roundHalfAway leftProper
  have nonnegative : 0 ≤ roundHalfAway (.finite false w) := by
    obtain ⟨_, _, _, same, _, value⟩ := rounds
    obtain ⟨rfl, -⟩ := Double.finite.inj same
    rw [value]
    exact Int.natCast_nonneg _
  rwa [secondsLeft, left, Int.toNat_of_nonneg nonnegative]

theorem expirySeconds_eq_ok_iff {field : RawText} {v : Value} {x : Double} :
    expirySeconds field v = .ok x ↔ Numeral v x ∧ x.isFinite := by
  constructor
  · intro h
    unfold expirySeconds at h
    split at h
    · dsimp only at h
      split at h
      next finite =>
        obtain rfl := Except.ok.inj h
        exact ⟨.int _, finite⟩
      next => cases h
    · dsimp only at h
      split at h
      next finite =>
        obtain rfl := Except.ok.inj h
        exact ⟨.double _, finite⟩
      next => cases h
    · cases h
  · rintro ⟨_ | _, finite⟩ <;> simp [expirySeconds, finite]

def ProperDoubles (data : Members) : Prop := ∀ name x, (name, Value.double x) ∈ data → x.Proper

theorem proper_of_numeral (doubles : ProperDoubles data) {field : RawText} {v : Value} {x : Double}
    (holds : Holds data field v) (numeral : Numeral v x) : x.Proper := by
  cases numeral with
  | int n => exact Double.proper_ofInt n
  | double x =>
    obtain ⟨front, back, rfl, -⟩ := holds
    exact doubles field x (by simp)

theorem expiresIn_eq_ok_iff
    (clock : ∃ negative u, now = .finite negative u ∧ 0 ≤ Double.signed negative u)
    (doubles : ProperDoubles data) {e : Option Nat} :
    p.expiresIn now data = .ok e ↔ p.HasExpiry now data e := by
  constructor
  · intro h
    unfold expiresIn at h
    split at h
    next unnamed =>
      obtain rfl := Except.ok.inj h
      exact .unnamed unnamed
    next field named =>
      split at h
      next lacks =>
        split at h
        next => cases h
        next lenient =>
          obtain rfl := Except.ok.inj h
          exact .missing named (Bool.not_eq_true _ ▸ lenient) (lookup?_eq_none_iff.1 lacks)
      next v found =>
        have holds := lookup?_eq_some_iff.1 found
        split at h
        next => cases h
        next x seconds =>
          obtain ⟨numeral, finite⟩ := expirySeconds_eq_ok_iff.1 seconds
          have proper := proper_of_numeral doubles holds numeral
          obtain ⟨negative, u, rfl⟩ : ∃ negative u, x = .finite negative u := by
            cases x with
            | finite negative u => exact ⟨negative, u, rfl⟩
            | _ => cases finite
          split at h
          next absolute =>
            obtain rfl := Except.ok.inj h
            exact .timestamp named absolute holds numeral finite (rounds_secondsLeft proper clock)
          next relative =>
            dsimp only at h
            split at h
            next => cases h
            next nonnegative =>
              obtain rfl := Except.ok.inj h
              refine .seconds named (Bool.not_eq_true _ ▸ relative) holds numeral ?_
              rw [Int.toNat_of_nonneg (Int.not_lt.1 nonnegative)]
              exact rounds_roundHalfAway proper
  · rintro (unnamed | ⟨named, lenient, lacks⟩ | ⟨named, relative, holds, numeral, rounds⟩ |
      ⟨named, absolute, holds, numeral, finite, rounds⟩)
    · rw [expiresIn, unnamed]
    · simp [expiresIn, named, lookup?_eq_none_iff.2 lacks, lenient]
    · rename_i field v x n
      have finite : x.isFinite := by
        obtain ⟨_, _, _, rfl, _⟩ := rounds
        rfl
      have seconds : expirySeconds field v = .ok x := expirySeconds_eq_ok_iff.2 ⟨numeral, finite⟩
      simp [expiresIn, named, lookup?_eq_some_iff.2 holds, seconds, relative, roundHalfAway_eq rounds]
    · rename_i field v x n
      have seconds : expirySeconds field v = .ok x := expirySeconds_eq_ok_iff.2 ⟨numeral, finite⟩
      simp [expiresIn, named, lookup?_eq_some_iff.2 holds, seconds, absolute, secondsLeft,
        roundHalfAway_eq rounds]

/-! ### Bodies -/

theorem properDoubles_of_read {text : List Char} (h : Json.read depth text = .ok (.obj data)) :
    ProperDoubles data :=
  fun _ _ member => Json.proper_of_read h member

theorem ofMembers_eq_ok_iff
    (clock : ∃ negative u, now = .finite negative u ∧ 0 ≤ Double.signed negative u)
    (doubles : ProperDoubles data) {t : TokenInfo} :
    p.ofMembers now data = .ok t ↔ p.Describes now data t := by
  constructor
  · intro h
    obtain ⟨b, active, h⟩ := bind_eq_ok_iff.1 h
    have hasActive := active_eq_ok_iff.1 active
    cases b with
    | false =>
      obtain rfl : { active := false } = t := Except.ok.inj h
      exact .inactive hasActive
    | true =>
      obtain ⟨userId, userIdRead, h⟩ := bind_eq_ok_iff.1 h
      obtain ⟨scope, scopeRead, h⟩ := bind_eq_ok_iff.1 h
      obtain ⟨expiresIn, expiryRead, h⟩ := bind_eq_ok_iff.1 h
      obtain ⟨clientId, clientIdRead, h⟩ := bind_eq_ok_iff.1 h
      obtain rfl : { active := true, userId, scope, expiresIn, clientId } = t := Except.ok.inj h
      exact .active hasActive (userId_eq_ok_iff.1 userIdRead) (scope_eq_ok_iff.1 scopeRead)
        ((expiresIn_eq_ok_iff clock doubles).1 expiryRead) (clientId_eq_ok_iff.1 clientIdRead)
  · rintro (active | ⟨active, hasUserId, hasScope, hasExpiry, hasClientId⟩)
    · simp [ofMembers, active_eq_ok_iff.2 active, bind, Except.bind, pure, Except.pure]
    · simp [ofMembers, active_eq_ok_iff.2 active, userId_eq_ok_iff.2 hasUserId,
        scope_eq_ok_iff.2 hasScope, (expiresIn_eq_ok_iff clock doubles).2 hasExpiry,
        clientId_eq_ok_iff.2 hasClientId, bind, Except.bind, pure, Except.pure]

theorem members_eq_ok_iff {body : List UInt8} :
    members depth body = .ok data ↔ ∃ text, body = Utf8.encode text ∧ Json.read depth text = .ok (.obj data) := by
  unfold members
  constructor
  · intro h
    split at h
    next => cases h
    next text decoded =>
      split at h
      next => cases h
      next object =>
        obtain rfl := Except.ok.inj h
        exact ⟨text, Utf8.decode_iff.1 decoded, object⟩
      next => cases h
  · rintro ⟨text, rfl, object⟩
    simp only [Utf8.decode_iff.2 rfl, object]

theorem parse_eq_ok_iff
    (clock : ∃ negative u, now = .finite negative u ∧ 0 ≤ Double.signed negative u)
    {body : List UInt8} {t : TokenInfo} : p.parse depth now body = .ok t ↔ p.Accepts depth now body t := by
  rw [parse, bind_eq_ok_iff]
  constructor
  · rintro ⟨data, read, described⟩
    obtain ⟨text, rfl, object⟩ := members_eq_ok_iff.1 read
    have doubles := properDoubles_of_read object
    exact ⟨text, data, rfl, object, (ofMembers_eq_ok_iff clock doubles).1 described⟩
  · rintro ⟨text, data, rfl, object, describes⟩
    exact ⟨data, members_eq_ok_iff.2 ⟨text, rfl, object⟩,
      (ofMembers_eq_ok_iff clock (properDoubles_of_read object)).2 describes⟩

/-! ### Refusals -/

theorem kind_of_active {e : ParseError} (h : p.active data = .error e) : e.kind = .tokenInfoParse := by
  unfold active at h
  split at h
  · cases h
  · split at h <;> cases h
    rfl

theorem kind_of_userId {e : ParseError} (h : p.userId data = .error e) : e.kind = .tokenInfoParse := by
  unfold userId at h
  split at h
  · cases h
  · split at h
    · cases h
    · split at h <;> cases h
      rfl
    · split at h <;> cases h
      rfl
    · cases h
      rfl

theorem kind_of_scope {e : ParseError} (h : p.scope data = .error e) : e.kind = .tokenInfoParse := by
  unfold scope at h
  split at h
  · cases h
  · split at h
    · cases h
    · cases h
    · unfold scopeItems at h
      split at h <;> cases h
      rfl
    · cases h
      rfl

theorem kind_of_expirySeconds {field : RawText} {v : Value} {e : ParseError}
    (h : expirySeconds field v = .error e) : e.kind = .tokenInfoParse := by
  unfold expirySeconds at h
  split at h
  · dsimp only at h
    split at h <;> cases h
    rfl
  · dsimp only at h
    split at h <;> cases h
    rfl
  · cases h
    rfl

theorem kind_of_expiresIn {e : ParseError} (h : p.expiresIn now data = .error e) :
    e.kind = .tokenInfoParse := by
  unfold expiresIn at h
  split at h
  · cases h
  · split at h
    · split at h <;> cases h
      rfl
    · split at h
      next seconds =>
        obtain rfl := Except.error.inj h
        exact kind_of_expirySeconds seconds
      next =>
        split at h
        · cases h
        · dsimp only at h
          split at h <;> cases h
          rfl

theorem kind_of_clientId {e : ParseError} (h : p.clientId data = .error e) :
    e.kind = .tokenInfoParse := by
  unfold clientId at h
  split at h
  · cases h
  · split at h <;> cases h
    rfl

theorem kind_of_ofMembers {e : ParseError} (h : p.ofMembers now data = .error e) :
    e.kind = .tokenInfoParse := by
  obtain h | ⟨b, -, h⟩ := bind_eq_error_iff.1 h
  · exact kind_of_active h
  cases b with
  | false => cases h
  | true =>
    obtain h | ⟨_, -, h⟩ := bind_eq_error_iff.1 h
    · exact kind_of_userId h
    obtain h | ⟨_, -, h⟩ := bind_eq_error_iff.1 h
    · exact kind_of_scope h
    obtain h | ⟨_, -, h⟩ := bind_eq_error_iff.1 h
    · exact kind_of_expiresIn h
    obtain h | ⟨_, -, h⟩ := bind_eq_error_iff.1 h
    · exact kind_of_clientId h
    cases h

theorem not_tooDeep {text : List Char}
    (h : ∀ container, Json.read depth text ≠ .error (.tooDeep container)) : ¬ TooDeep depth (Utf8.encode text) := by
  rintro ⟨other, container, same, deep⟩
  obtain rfl := Utf8.encode_injective same
  exact h container deep

/-- Nothing but the depth of a body makes a refusal of another kind. -/
theorem kind_of_members {body : List UInt8} {e : ParseError} (h : members depth body = .error e) :
    (TooDeep depth body ∧ e.kind = .foreign "RecursionError") ∨
      (¬ TooDeep depth body ∧ e.kind = .tokenInfoParse) := by
  unfold members at h
  split at h
  next notUtf8 =>
    obtain rfl := Except.error.inj h
    refine .inr ⟨?_, rfl⟩
    rintro ⟨text, _, rfl, -⟩
    cases notUtf8.symm.trans (Utf8.decode_iff.2 rfl)
  next text decoded =>
    obtain rfl := Utf8.decode_iff.1 decoded
    split at h
    next stopped notJson =>
      obtain rfl := Except.error.inj h
      cases stopped with
      | tooDeep container => exact .inl ⟨⟨text, container, rfl, notJson⟩, rfl⟩
      | malformed => exact .inr ⟨not_tooDeep fun container => by simp [notJson], rfl⟩
      | tooManyDigits => exact .inr ⟨not_tooDeep fun container => by simp [notJson], rfl⟩
    next => cases h
    next value =>
      obtain rfl := Except.error.inj h
      exact .inr ⟨not_tooDeep fun container => by simp [value], rfl⟩

theorem kind_of_parse {body : List UInt8} {e : ParseError} (h : p.parse depth now body = .error e) :
    (TooDeep depth body ∧ e.kind = .foreign "RecursionError") ∨
      (¬ TooDeep depth body ∧ e.kind = .tokenInfoParse) := by
  obtain h | ⟨data, object, h⟩ := bind_eq_error_iff.1 h
  · exact kind_of_members h
  · have kind := kind_of_ofMembers h
    obtain ⟨text, rfl, written⟩ := members_eq_ok_iff.1 object
    exact .inr ⟨not_tooDeep fun container => by simp [written], kind⟩

theorem toParser_eq_ok_iff {body : List UInt8} {t : TokenInfo} :
    p.toParser depth now body = .ok t ↔ p.parse depth now body = .ok t := mapError_eq_ok_iff

/-! ### The time of day -/

theorem exists_expiresIn {x : Option Nat} (h : p.expiresIn now data = .ok x) (later : Double) :
    ∃ y, p.expiresIn later data = .ok y := by
  unfold expiresIn at h ⊢
  cases field : p.expiresInField with
  | none => exact ⟨none, rfl⟩
  | some field' =>
    rw [field] at h
    dsimp only at h ⊢
    cases written : Json.lookup? data field' with
    | none =>
      rw [written] at h
      exact ⟨x, h⟩
    | some v =>
      rw [written] at h
      dsimp only at h ⊢
      cases seconds : expirySeconds field' v with
      | error e =>
        rw [seconds] at h
        cases h
      | ok s =>
        rw [seconds] at h
        dsimp only at h ⊢
        cases timestamp : p.expiresIsTimestamp with
        | true => exact ⟨_, rfl⟩
        | false =>
          rw [timestamp] at h
          exact ⟨x, h⟩

/-- When a body is parsed decides on the lifetime of the token, but not on whether it is accepted. -/
theorem exists_parse {body : List UInt8} {t : TokenInfo} (h : p.parse depth now body = .ok t) (later : Double) :
    ∃ t', p.parse depth later body = .ok t' := by
  obtain ⟨data, object, h⟩ := bind_eq_ok_iff.1 h
  obtain ⟨active, flag, h⟩ := bind_eq_ok_iff.1 h
  suffices ∃ t', p.ofMembers later data = .ok t' by
    obtain ⟨t', same⟩ := this
    exact ⟨t', bind_eq_ok_iff.2 ⟨data, object, same⟩⟩
  cases active with
  | false => exact ⟨_, bind_eq_ok_iff.2 ⟨false, flag, rfl⟩⟩
  | true =>
    obtain ⟨userId, user, h⟩ := bind_eq_ok_iff.1 h
    obtain ⟨scope, scopes, h⟩ := bind_eq_ok_iff.1 h
    obtain ⟨expiry, expires, h⟩ := bind_eq_ok_iff.1 h
    obtain ⟨clientId, client, -⟩ := bind_eq_ok_iff.1 h
    obtain ⟨expiry', expires'⟩ := exists_expiresIn expires later
    refine ⟨⟨true, userId, scope, expiry', clientId⟩, bind_eq_ok_iff.2 ⟨true, flag, ?_⟩⟩
    refine bind_eq_ok_iff.2 ⟨userId, user, bind_eq_ok_iff.2 ⟨scope, scopes, ?_⟩⟩
    exact bind_eq_ok_iff.2 ⟨expiry', expires', bind_eq_ok_iff.2 ⟨clientId, client, rfl⟩⟩

/-! ### The grammar is exact -/

/-- A field parser accepts what the grammar describes and refuses everything else; a refusal is of
another kind only if the body nests its containers deeper than the reader goes. -/
theorem toParser_exact (p : FieldParser) (depth : Nat) (now : Double) (finite : now.isFinite = true)
    (nonnegative : Double.le .zero now = true) (body : List UInt8) :
    (∀ t, p.toParser depth now body = .ok t ↔ p.Accepts depth now body t) ∧
      ((∀ t, ¬ p.Accepts depth now body t) → ∃ failure, p.toParser depth now body = .error failure ∧
        (failure.kind = .tokenInfoParse ↔ ¬ TooDeep depth body) ∧
        (TooDeep depth body → failure.kind = .foreign "RecursionError")) := by
  have clock : ∃ negative u, now = .finite negative u ∧ 0 ≤ Double.signed negative u := by
    cases now with
    | finite negative u =>
      exact ⟨negative, u, rfl, by simpa [Double.le, Double.zero, Double.signed] using nonnegative⟩
    | _ => cases finite
  refine ⟨fun t => toParser_eq_ok_iff.trans (parse_eq_ok_iff clock), fun outside => ?_⟩
  cases parsed : p.parse depth now body with
  | ok t => exact absurd ((parse_eq_ok_iff clock).1 parsed) (outside t)
  | error e =>
    refine ⟨e.toFailure, by rw [toParser, parsed]; rfl, ?_⟩
    obtain ⟨deep, kind⟩ | ⟨shallow, kind⟩ := kind_of_parse parsed
    · have foreign : e.toFailure.kind = .foreign "RecursionError" := kind
      simp [foreign, deep]
    · have own : e.toFailure.kind = .tokenInfoParse := kind
      simp [own, shallow]

theorem toParser_exact_planB :
    planB.Accepts 1000 .zero (Utf8.encode "\x7b\"uid\": \"mjw\", \"expires_in\": 1\x7d".toList)
      { userId := some "mjw", expiresIn := some 1 } :=
  ((toParser_exact planB 1000 .zero rfl rfl _).1 _).1 (by decide +kernel)

/-! ### Depth -/

theorem not_accepts_of_tooDeep {body : List UInt8} (deep : TooDeep depth body) (t : TokenInfo) :
    ¬ p.Accepts depth now body t := by
  rintro ⟨text, data, rfl, object, -⟩
  exact not_tooDeep (fun container => by simp [object]) deep

theorem toParser_of_tooDeep {body : List UInt8} (deep : TooDeep depth body) :
    ∃ failure, p.toParser depth now body = .error failure ∧ failure.kind = .foreign "RecursionError" := by
  obtain ⟨text, container, rfl, deep⟩ := deep
  have stopped : members depth (Utf8.encode text) = .error (.notJson (.tooDeep container)) := by
    simp only [members, Utf8.decode_iff.2 rfl, deep]
  refine ⟨(ParseError.notJson (.tooDeep container)).toFailure, ?_, rfl⟩
  rw [toParser, parse, stopped]
  rfl

theorem tooDeep_brackets {n : Nat} (h : depth < n) (rest : List Char) :
    TooDeep depth (Utf8.encode (List.replicate n '[' ++ rest)) :=
  ⟨_, .array, rfl, Json.read_brackets h rest⟩

theorem encode_brackets (n : Nat) : Utf8.encode (List.replicate n '[') = List.replicate n 0x5b := by
  induction n with
  | zero => rfl
  | succ n ih => rw [List.replicate_succ, Utf8.encode_cons, ih]; rfl

/-- Enough brackets and nothing else are no token information, but are not refused as such. -/
theorem toParser_brackets :
    ¬ ∀ (p : FieldParser) (now : Double) (body : List UInt8),
      now.isFinite = true → Double.le .zero now = true →
      (∀ t, p.toParser 1000 now body = .ok t ↔ p.Accepts 1000 now body t) ∧
        ((∀ t, ¬ p.Accepts 1000 now body t) →
          ∃ failure, p.toParser 1000 now body = .error failure ∧ failure.kind = .tokenInfoParse) := by
  intro always
  have deep : TooDeep 1000 (List.replicate 5000 0x5b) := by
    have deep := tooDeep_brackets (show 1000 < 5000 by decide) []
    rwa [List.append_nil, encode_brackets] at deep
  obtain ⟨failure, refused, kind⟩ :=
    (always planB .zero (List.replicate 5000 0x5b) rfl rfl).2 (not_accepts_of_tooDeep deep)
  obtain ⟨other, refused', foreign⟩ : ∃ failure,
      planB.toParser 1000 .zero (List.replicate 5000 0x5b) = .error failure ∧
        failure.kind = .foreign "RecursionError" := toParser_of_tooDeep deep
  obtain rfl := Except.error.inj (refused.symm.trans refused')
  cases kind.symm.trans foreign

end Bearer.FieldParser
