import Bearer.GivenToken
import Bearer.Proofs.Text.CodePoint

/-!
Which given tokens are sent. They are the texts that are not blank and have an encoding, and they are sent without
the white space around them (`GivenToken.accept_eq_ok_iff`). What is left of a token is trimmed for good
(`GivenToken.trimmed_of_normalize`), and it is this that has to have an encoding.
-/

namespace Bearer

theorem RawText.isEmpty_iff {t : RawText} : t.isEmpty = true ↔ t.points = [] := List.isEmpty_iff

theorem RawText.isEmpty_strip_iff {t : RawText} :
    t.strip.isEmpty = true ↔ ∀ p ∈ t.points, p.isBlank = true := by
  rw [isEmpty_iff, points_strip, Text.trimBy_eq_nil_iff]

namespace GivenToken

variable {given : GivenToken} {t : RawText}

theorem normalize_eq_ok_iff : given.normalize = .ok t ↔ ∃ u, given = .text u ∧ u.strip = t ∧ t.points ≠ [] := by
  cases given with
  | other =>
    refine ⟨nofun, ?_⟩
    rintro ⟨u, same, -⟩
    cases same
  | text u =>
    rw [normalize]
    by_cases empty : u.strip.isEmpty = true
    · rw [if_pos empty]
      refine ⟨nofun, ?_⟩
      rintro ⟨_, same, rfl, some⟩
      obtain rfl := text.inj same
      exact absurd (RawText.isEmpty_iff.1 empty) some
    · rw [if_neg empty, Except.ok.injEq]
      rw [RawText.isEmpty_iff] at empty
      constructor
      · rintro rfl
        exact ⟨u, rfl, rfl, empty⟩
      · rintro ⟨_, same, stripped, -⟩
        obtain rfl := text.inj same
        exact stripped

theorem encode_eq_ok_iff {token : String} : encode t = .ok token ↔ t = .whole token := by
  cases t with
  | whole s => rw [encode, Except.ok.injEq, RawText.whole.injEq]
  | broken t => exact ⟨nofun, nofun⟩

/-- A text with an encoding that is not blank. -/
def Spells (given : GivenToken) (s : String) : Prop :=
  given = .text (.whole s) ∧ ∃ c ∈ s.toList, Text.isBlank c = false

theorem accept_eq (given : GivenToken) : given.accept = given.normalize.bind encode := rfl

theorem strip_eq_whole_iff {token : String} : t.strip = .whole token ↔ ∃ s, t = .whole s ∧ token = Text.strip s := by
  cases t with
  | whole s =>
    rw [RawText.strip_whole, RawText.whole.injEq]
    constructor
    · rintro rfl
      exact ⟨s, rfl, rfl⟩
    · rintro ⟨_, same, rfl⟩
      obtain rfl := RawText.whole.inj same
      rfl
  | broken b =>
    refine ⟨fun same => ?_, by rintro ⟨s, whole, -⟩; cases whole⟩
    have broken := RawText.string?_strip (.broken b)
    rw [same] at broken
    cases broken

theorem accept_eq_ok_iff {token : String} :
    given.accept = .ok token ↔ ∃ s, given.Spells s ∧ token = Text.strip s := by
  have visible (s : String) : (RawText.whole (Text.strip s)).points ≠ [] ↔
      ∃ c ∈ s.toList, Text.isBlank c = false := by
    rw [← RawText.strip_whole, RawText.points_strip, Ne, Text.trimBy_eq_nil_iff]
    simp [RawText.points, CodePoint.isBlank]
  rw [accept_eq]
  constructor
  · intro accepted
    cases normalized : given.normalize with
    | error f =>
      rw [normalized] at accepted
      cases accepted
    | ok t =>
      rw [normalized] at accepted
      obtain rfl := encode_eq_ok_iff.1 accepted
      obtain ⟨u, rfl, stripped, some⟩ := normalize_eq_ok_iff.1 normalized
      obtain ⟨s, rfl, rfl⟩ := strip_eq_whole_iff.1 stripped
      exact ⟨s, ⟨rfl, (visible s).1 some⟩, rfl⟩
  · rintro ⟨s, ⟨rfl, some⟩, rfl⟩
    rw [normalize_eq_ok_iff.2 ⟨_, rfl, RawText.strip_whole s, (visible s).2 some⟩]
    rfl

theorem accept_ne_empty {token : String} (accepted : given.accept = .ok token) : token ≠ "" := by
  obtain ⟨s, ⟨-, c, member, visible⟩, rfl⟩ := accept_eq_ok_iff.1 accepted
  rw [Text.strip, Ne, String.ofList_eq_empty_iff, Text.trimBy_eq_nil_iff]
  intro blank
  exact absurd (visible.symm.trans (blank c member)) Bool.false_ne_true

/-! ### What is left of a token -/

/-- A trimmed token is not empty, starts and ends with what is no white space, and is trimmed for good. -/
structure Trimmed (t : RawText) : Prop where
  nonempty : t.points ≠ []
  first : ∃ p ∈ t.points.head?, p.isBlank = false
  last : ∃ p ∈ t.points.getLast?, p.isBlank = false
  again : (text t).normalize = .ok t

theorem strip_strip (t : RawText) : t.strip.strip = t.strip := by
  rw [← RawText.points_inj, RawText.points_strip, RawText.points_strip, Text.trimBy_trimBy]

theorem trimmed_of_normalize (normalized : given.normalize = .ok t) : Trimmed t := by
  obtain ⟨u, rfl, rfl, some⟩ := normalize_eq_ok_iff.1 normalized
  rw [RawText.points_strip] at some
  obtain ⟨first, last⟩ := Text.ends_trimBy some
  rw [← RawText.points_strip] at some first last
  exact ⟨some, first, last, normalize_eq_ok_iff.2 ⟨_, rfl, strip_strip u, some⟩⟩

end GivenToken

end Bearer
