import Bearer.Proofs.Json.Grammar
import Bearer.Proofs.TokenInfo.Grammar

/-!
Decoding undoes encoding. Whoever writes the fields of a token as members of a JSON object, among others,
in any order and any spelling, has the token back from a field parser with the same names
(`toParser_encodes`). A strict parser wants a user id, so a token without one is not had back from it.
-/

namespace Bearer

/-! ### Words -/

namespace Text

inductive Spread {α : Type} (p : α → Bool) : List α → List (List α) → Prop
  | blank {blanks : List α} (blank : ∀ c ∈ blanks, p c = true) : Spread p blanks []
  | word {front word rest : List α} {words : List (List α)} (before : ∀ c ∈ front, p c = true)
    (some : word ≠ []) (inside : ∀ c ∈ word, p c = false) (apart : ∀ c ∈ rest.head?, p c = true)
    (later : Spread p rest words) : Spread p (front ++ (word ++ rest)) (word :: words)

variable {α : Type} {p : α → Bool}

def scanWords (p : α → Bool) (cs : List α) : List α × List (List α) :=
  cs.foldr (fun c (w, ws) => if p c then ([], consWord w ws) else (c :: w, ws)) ([], [])

theorem wordsBy_eq (cs : List α) : wordsBy p cs = consWord (scanWords p cs).1 (scanWords p cs).2 := rfl

theorem scanWords_blank {c : α} (blank : p c = true) (cs : List α) :
    scanWords p (c :: cs) = ([], wordsBy p cs) := if_pos blank

theorem scanWords_inside {c : α} (inside : p c = false) (cs : List α) :
    scanWords p (c :: cs) = (c :: (scanWords p cs).1, (scanWords p cs).2) :=
  if_neg (Bool.not_eq_true _ ▸ inside)

theorem wordsBy_append_of_blank {front : List α} (blank : ∀ c ∈ front, p c = true) (rest : List α) :
    wordsBy p (front ++ rest) = wordsBy p rest := by
  induction front with
  | nil => rfl
  | cons c front ih =>
    obtain ⟨first, later⟩ := List.forall_mem_cons.1 blank
    rw [List.cons_append, wordsBy_eq, scanWords_blank first]
    exact ih later

theorem wordsBy_append_of_inside {word rest : List α} (some : word ≠ []) (inside : ∀ c ∈ word, p c = false)
    (apart : ∀ c ∈ rest.head?, p c = true) : wordsBy p (word ++ rest) = word :: wordsBy p rest := by
  have stopped : scanWords p rest = ([], wordsBy p rest) := by
    cases rest with
    | nil => rfl
    | cons c rest =>
      have blank := apart c rfl
      rw [wordsBy_eq, scanWords_blank blank]
      rfl
  have scanned : scanWords p (word ++ rest) = (word, wordsBy p rest) := by
    clear some
    induction word with
    | nil => exact stopped
    | cons c word ih =>
      obtain ⟨first, later⟩ := List.forall_mem_cons.1 inside
      rw [List.cons_append, scanWords_inside first, ih later]
  rw [wordsBy_eq, scanned, consWord, List.isEmpty_eq_false_iff.2 some]
  rfl

theorem wordsBy_of_spread {cs : List α} {words : List (List α)} (spread : Spread p cs words) :
    wordsBy p cs = words := by
  induction spread with
  | @blank blanks blank =>
    have empty := wordsBy_append_of_blank blank []
    rwa [List.append_nil] at empty
  | word before some inside apart _ ih =>
    rw [wordsBy_append_of_blank before, wordsBy_append_of_inside some inside apart, ih]

end Text

theorem RawText.words_of_spread {t : RawText} {words : List RawText}
    (spread : Text.Spread CodePoint.isBlank t.points (words.map points)) : t.words = words := by
  rw [RawText.words, Text.wordsBy_of_spread spread, List.map_map]
  simp [Function.comp_def]

namespace FieldParser

open Json (Members Value Holds Lacks Denotes)

/-! ### Encodings -/

inductive HoldsText (data : Members) (field : RawText) : Option RawText → Prop
  | text {s : RawText} (holds : Holds data field (.str s)) : HoldsText data field (some s)
  | null (holds : Holds data field .null) : HoldsText data field none
  | missing (lacks : Lacks data field) : HoldsText data field none

inductive HoldsScope (data : Members) (field : RawText) : List RawText → Prop
  | array {scope : List RawText} (holds : Holds data field (.arr (scope.map .str))) : HoldsScope data field scope
  | words {s : RawText} {scope : List RawText} (holds : Holds data field (.str s))
    (spread : Text.Spread CodePoint.isBlank s.points (scope.map RawText.points)) : HoldsScope data field scope
  | missing (lacks : Lacks data field) : HoldsScope data field []

/-- The members of an object that say under the names of a parser what a token is. Whatever they say under
other names does not matter. -/
structure Encodes (p : FieldParser) (t : TokenInfo) (data : Members) : Prop where
  active : ∀ field ∈ p.activeField, Holds data field (.bool t.active)
  userId : ∀ field ∈ p.userIdField, HoldsText data field t.userId
  scope : ∀ field ∈ p.scopeField, HoldsScope data field t.scope
  expiresIn : ∀ field ∈ p.expiresInField, Lacks data field
  clientId : ∀ field ∈ p.clientIdField, HoldsText data field t.clientId

/-- A token all of which a parser has names for, but for what is as it is by default. -/
structure Covers (p : FieldParser) (t : TokenInfo) : Prop where
  active : p.activeField = none → t.active = true
  userId : p.userIdField = none → t.userId = none
  scope : p.scopeField = none → t.scope = []
  expiresIn : t.expiresIn = none
  clientId : p.clientIdField = none → t.clientId = none

def names (p : FieldParser) : List RawText :=
  [p.activeField, p.userIdField, p.scopeField, p.expiresInField, p.clientIdField].filterMap id

/-! ### Fields -/

section

variable {p : FieldParser} {t : TokenInfo} {data : Members} (covers : p.Covers t) (encodes : p.Encodes t data)
include covers encodes

theorem hasActive_of_encodes : p.HasActive data t.active := by
  cases named : p.activeField with
  | none =>
    rw [covers.active named]
    exact .unnamed named
  | some field => exact .flag named (encodes.active field named)

theorem hasUserId_of_encodes (identified : p.strict = true → p.userIdField ≠ none → t.userId ≠ none) :
    p.HasUserId data t.userId := by
  cases named : p.userIdField with
  | none =>
    rw [covers.userId named]
    exact .unnamed named
  | some field =>
    have holds := encodes.userId field named
    have lenient (unknown : t.userId = none) : p.strict = false :=
      Bool.not_eq_true _ ▸ fun strict => identified strict (named ▸ Option.some_ne_none field) unknown
    generalize t.userId = u at holds lenient ⊢
    cases holds with
    | text holds => exact .text named holds
    | null holds => exact .nothing named (lenient rfl) (.inr holds)
    | missing lacks => exact .nothing named (lenient rfl) (.inl lacks)

theorem hasScope_of_encodes : p.HasScope data t.scope := by
  cases named : p.scopeField with
  | none =>
    rw [covers.scope named]
    exact .unnamed named
  | some field =>
    have holds := encodes.scope field named
    generalize t.scope = scope at holds ⊢
    cases holds with
    | array holds => exact .items named holds
    | words holds spread => exact RawText.words_of_spread spread ▸ .words named holds
    | missing lacks => exact .missing named lacks

theorem hasClientId_of_encodes : p.HasClientId data t.clientId := by
  cases named : p.clientIdField with
  | none =>
    rw [covers.clientId named]
    exact .unnamed named
  | some field =>
    have holds := encodes.clientId field named
    generalize t.clientId = c at holds ⊢
    cases holds with
    | text holds => exact .text named holds
    | null holds => exact .nothing named (.inr holds)
    | missing lacks => exact .nothing named (.inl lacks)

end

/-! ### Round trip -/

theorem expiresIn_of_encodes {p : FieldParser} {t : TokenInfo} {data : Members} (encodes : p.Encodes t data)
    (optional : p.expiresInField = none ∨ p.strict = false) (now : Double) :
    p.expiresIn now data = .ok none := by
  unfold expiresIn
  cases named : p.expiresInField with
  | none => rfl
  | some field =>
    have lenient : p.strict = false := optional.resolve_left (named ▸ Option.some_ne_none field)
    have lacks := Json.lookup?_eq_none_iff.2 (encodes.expiresIn field named)
    simp only [lacks, lenient, Bool.false_eq_true, if_false]

/-- A token that a text writes under the names of a parser is what the parser makes of the text. Of a token
that is not active it only says so. The parser must not insist on an expiry, nor on a user id that an active
token does not have. -/
theorem toParser_encodes {p : FieldParser} {depth : Nat} {t : TokenInfo} {text : List Char} {data : Members}
    (covers : p.Covers t) (optional : p.expiresInField = none ∨ p.strict = false)
    (identified : t.active = true → p.strict = true → p.userIdField ≠ none → t.userId ≠ none)
    (encodes : p.Encodes t data) (denotes : Denotes depth text (.obj data)) (now : Double) :
    p.toParser depth now (Utf8.encode text) = .ok (if t.active then t else { active := false }) := by
  rw [toParser_eq_ok_iff, parse, bind_eq_ok_iff]
  refine ⟨data, members_eq_ok_iff.2 ⟨text, rfl, Json.read_of_denotes denotes⟩, ?_⟩
  have flag := active_eq_ok_iff.2 (hasActive_of_encodes covers encodes)
  cases active : t.active with
  | false =>
    rw [active] at flag
    exact bind_eq_ok_iff.2 ⟨false, flag, rfl⟩
  | true =>
    rw [active] at flag
    have user := userId_eq_ok_iff.2 (hasUserId_of_encodes covers encodes (identified active))
    have scopes := scope_eq_ok_iff.2 (hasScope_of_encodes covers encodes)
    have client := clientId_eq_ok_iff.2 (hasClientId_of_encodes covers encodes)
    have whole : t = { active := true, userId := t.userId, scope := t.scope, clientId := t.clientId } := by
      obtain ⟨_, _, _, _, _⟩ := t
      obtain rfl := active
      obtain rfl := covers.expiresIn
      rfl
    refine bind_eq_ok_iff.2 ⟨true, flag, bind_eq_ok_iff.2 ⟨_, user, bind_eq_ok_iff.2 ⟨_, scopes, ?_⟩⟩⟩
    refine bind_eq_ok_iff.2 ⟨none, expiresIn_of_encodes encodes optional now, ?_⟩
    exact bind_eq_ok_iff.2 ⟨_, client, congrArg Except.ok whole.symm⟩

/-- The user id has an escape in it, there are two blanks between the scopes, and a further member
holds a number. -/
theorem toParser_encodes_spelled :
    let p : FieldParser := { userIdField := some "uid", scopeField := some "scope" }
    let t : TokenInfo := { userId := some "\u00e9", scope := ["a", "b"] }
    let text := "\x7b\"scope\":\" a  b\", \"uid\" :\"\\u00e9\",\"n\":[-0.5E1]\x7d".toList
    ∃ data, p.Covers t ∧ p.expiresInField = none ∧ t.userId ≠ none ∧ p.Encodes t data ∧
      Denotes 1000 text (.obj data) ∧ p.toParser 1000 .zero (Utf8.encode text) = .ok t := by
  intro p t text
  have none : Json.Blanks [] := List.all_eq_true.1 rfl
  have one : Json.Blanks [' '] := List.all_eq_true.1 rfl
  obtain ⟨x, number⟩ : ∃ x, Json.WritesNumber "-0.5E1".toList x := by
    have half : Json.FractionMark ".5".toList ['5'] :=
      .some (List.cons_ne_nil _ _) (List.all_eq_true.1 rfl)
    have tenfold : Json.ExponentMark "E1".toList (some 1) :=
      .some (.inr rfl) .none (List.cons_ne_nil _ _) (List.all_eq_true.1 rfl)
    exact ⟨_, .decimal true .zero half tenfold (.inl (List.cons_ne_nil _ _))⟩
  have array : Json.Holding (Json.WritesValue 998) "[-0.5E1]".toList (.arr [x]) :=
    .items (.one none (Json.writesValue_of_flat 998 (.number number)) none)
  have plain (s : String) (all : s.toList.all Json.isPlain = true) : Json.Writes s.toList s.toList :=
    Json.writes_plain all
  have user : Json.Writes "\\u00e9".toList ['\u00e9'] := .unit rfl rfl rfl .nil
  have spelled {body text : List Char} (writes : Json.Writes body text) :
      Json.WritesValue 999 ('"' :: (body ++ ['"'])) (.str (String.ofList text)) :=
    Json.writesValue_of_flat 999 (Json.flat_of_writes writes)
  have first := Json.writesMember_of_writes (plain "scope" (by decide)) none none
    (spelled (plain " a  b" (by decide)))
  have second := Json.writesMember_of_writes (plain "uid" (by decide)) one none (spelled user)
  have third : Json.WritesMember (Json.WritesValue 999) _ _ :=
    Json.writesMember_of_writes (plain "n" (by decide)) none none array
  have members := Json.Separated.more none first none (.more one second none (.one none third none))
  let data : Members := [("scope", .str " a  b"), ("uid", .str "\u00e9"), ("n", .arr [x])]
  have object : Json.WritesValue 1000 _ _ := .members members
  have denotes : Denotes 1000 text (.obj data) := .intro none object none
  have covers : p.Covers t := ⟨fun _ => rfl, nofun, nofun, rfl, fun _ => rfl⟩
  have spread : Text.Spread CodePoint.isBlank (RawText.whole " a  b").points
      ([RawText.whole "a", .whole "b"].map RawText.points) := by
    have blanks (k : Nat) : ∀ p ∈ List.replicate k (CodePoint.char ' '), p.isBlank = true := by
      intro p member
      rw [List.eq_of_mem_replicate member]
      rfl
    have letter {p : CodePoint} (letter : p.isBlank = false) : ∀ q ∈ [p], q.isBlank = false :=
      List.forall_mem_singleton.2 letter
    have last : Text.Spread CodePoint.isBlank (List.replicate 2 (.char ' ') ++ ([.char 'b'] ++ []))
        [[.char 'b']] :=
      .word (blanks 2) (List.cons_ne_nil _ _) (letter rfl) nofun (.blank (blanks 0))
    exact .word (blanks 1) (List.cons_ne_nil _ _) (letter rfl) (fun c first => Option.some.inj first ▸ rfl) last
  have encodes : p.Encodes t data := by
    refine ⟨nofun, ?_, ?_, nofun, nofun⟩
    · rintro field ⟨⟩
      exact .text (Json.lookup?_eq_some_iff.1 rfl)
    · rintro field ⟨⟩
      exact .words (Json.lookup?_eq_some_iff.1 rfl) spread
  have known : t.userId ≠ Option.none := nofun
  exact ⟨data, covers, rfl, known, encodes, denotes,
    toParser_encodes covers (.inl rfl) (fun _ _ _ => known) encodes denotes .zero⟩

/-- A strict parser refuses a token without a user id, although the text writes it. -/
theorem not_every_encoding_parsed :
    ¬ ∀ (p : FieldParser) (depth : Nat) (t : TokenInfo) (text : List Char) (data : Members) (now : Double),
      p.names.Nodup → p.Covers t → p.expiresInField = none ∨ p.strict = false → p.Encodes t data →
      Denotes depth text (.obj data) →
      p.toParser depth now (Utf8.encode text) = .ok (if t.active then t else { active := false }) := by
  intro always
  let p : FieldParser := { userIdField := some "uid" }
  have none : Json.Blanks [] := List.all_eq_true.1 rfl
  have name : Json.Writes "uid".toList "uid".toList := Json.writes_plain (by decide)
  have member : Json.WritesMember (Json.WritesValue 999) "\"uid\":null".toList (.whole "uid", .null) :=
    Json.writesMember_of_writes name none none (Json.writesValue_of_flat 999 (.word List.mem_cons_self))
  have object : Json.WritesValue 1000 _ _ := .members (.one none member none)
  have denotes : Denotes 1000 "\x7b\"uid\":null\x7d".toList (.obj [("uid", .null)]) :=
    .intro none object none
  have encodes : p.Encodes {} [("uid", .null)] := by
    refine ⟨nofun, ?_, nofun, nofun, nofun⟩
    rintro field ⟨⟩
    exact .null (Json.lookup?_eq_some_iff.1 rfl)
  have covers : p.Covers {} := ⟨fun _ => rfl, fun _ => rfl, fun _ => rfl, rfl, fun _ => rfl⟩
  have parsed := always p 1000 {} _ _ .zero (by decide) covers (.inl rfl) encodes denotes
  have read := members_eq_ok_iff.2 ⟨_, rfl, Json.read_of_denotes denotes⟩
  rw [toParser, parse, read] at parsed
  cases parsed

end FieldParser

end Bearer
