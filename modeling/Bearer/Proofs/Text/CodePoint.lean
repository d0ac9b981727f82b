import Bearer.Proofs.Text.Blank
import Bearer.Text.CodePoint

/-!
Texts of code points. A text is told by its code points (`RawText.points_inj`), and trimming, which takes away
nothing but characters, leaves a broken text broken (`CodePoint.chars?_strip`).
-/

namespace Bearer

namespace CodePoint

variable {ps : List CodePoint} {cs : List Char}

@[simp] theorem chars?_map (cs : List Char) : chars? (cs.map .char) = some cs := by
  induction cs with
  | nil => rfl
  | cons c cs ih =>
    rw [List.map_cons, chars?, ih]
    rfl

theorem chars?_eq_some_iff : chars? ps = some cs ↔ ps = cs.map .char := by
  constructor
  · intro whole
    induction ps generalizing cs with
    | nil =>
      obtain rfl := Option.some.inj whole
      rfl
    | cons p ps ih =>
      obtain ⟨c, first, whole⟩ := Option.bind_eq_some_iff.1 whole
      obtain ⟨ds, rest, whole⟩ := Option.bind_eq_some_iff.1 whole
      obtain rfl := Option.some.inj whole
      cases p with
      | char d =>
        obtain rfl := Option.some.inj first
        rw [ih rest, List.map_cons]
      | half n => cases first
  · rintro rfl
    exact chars?_map cs

theorem exists_map_iff : (∃ cs : List Char, ps = cs.map .char) ↔ ∀ p ∈ ps, ∃ c, p = .char c := by
  constructor
  · rintro ⟨cs, rfl⟩ p member
    obtain ⟨c, -, same⟩ := List.mem_map.1 member
    exact ⟨c, same.symm⟩
  · intro chars
    induction ps with
    | nil => exact ⟨[], rfl⟩
    | cons p ps ih =>
      obtain ⟨⟨c, rfl⟩, later⟩ := List.forall_mem_cons.1 chars
      obtain ⟨cs, rfl⟩ := ih later
      exact ⟨c :: cs, rfl⟩

theorem exists_char_of_isBlank {p : CodePoint} (blank : p.isBlank = true) : ∃ c, p = .char c := by
  cases p with
  | char c => exact ⟨c, rfl⟩
  | half n => cases blank

theorem trimBy_chars (cs : List Char) :
    Text.trimBy isBlank (cs.map .char) = (Text.trimBy Text.isBlank cs).map .char :=
  Text.trimBy_map _ cs

/-- White space has an encoding, so a text has one exactly if what is left of it has. -/
theorem chars?_trimBy (ps : List CodePoint) :
    chars? (Text.trimBy isBlank ps) = (chars? ps).map (Text.trimBy Text.isBlank) := by
  cases whole : chars? ps with
  | some cs =>
    obtain rfl := chars?_eq_some_iff.1 whole
    rw [trimBy_chars, chars?_map]
    rfl
  | none =>
    cases left : chars? (Text.trimBy isBlank ps) with
    | none => rfl
    | some cs =>
      obtain ⟨front, back, split, before, behind⟩ := Text.exists_trimBy isBlank ps
      have stripped := exists_map_iff.1 ⟨cs, chars?_eq_some_iff.1 left⟩
      obtain ⟨ds, encoded⟩ := exists_map_iff.2 fun p (member : p ∈ ps) => by
        rw [split] at member
        simp only [List.mem_append] at member
        rcases member with (inFront | inside) | inBack
        · exact exists_char_of_isBlank (before p inFront)
        · exact stripped p inside
        · exact exists_char_of_isBlank (behind p inBack)
      rw [encoded, chars?_map] at whole
      cases whole

end CodePoint

namespace RawText

open CodePoint (chars?)

theorem ofPoints_of_chars {ps : List CodePoint} {cs : List Char} (chars : chars? ps = some cs) :
    ofPoints ps = .whole (String.ofList cs) := by
  unfold ofPoints
  split
  next found => rw [Option.some.inj (found.symm.trans chars)]
  next found => cases found.symm.trans chars

theorem ofPoints_of_broken {ps : List CodePoint} (broken : chars? ps = none) :
    ofPoints ps = .broken ⟨ps, broken⟩ := by
  unfold ofPoints
  split
  next found => cases found.symm.trans broken
  next => rfl

@[simp] theorem ofPoints_chars (cs : List Char) : ofPoints (cs.map .char) = .whole (String.ofList cs) :=
  ofPoints_of_chars (CodePoint.chars?_map cs)

@[simp] theorem points_ofPoints (ps : List CodePoint) : (ofPoints ps).points = ps := by
  cases chars : chars? ps with
  | some cs =>
    rw [ofPoints_of_chars chars, points, String.toList_ofList, CodePoint.chars?_eq_some_iff.1 chars]
  | none =>
    rw [ofPoints_of_broken chars]
    rfl

@[simp] theorem ofPoints_points (t : RawText) : ofPoints t.points = t := by
  cases t with
  | whole s => rw [points, ofPoints_chars, String.ofList_toList]
  | broken t => exact ofPoints_of_broken t.broken

theorem points_inj {t u : RawText} : t.points = u.points ↔ t = u := by
  refine ⟨fun same => ?_, congrArg points⟩
  rw [← ofPoints_points t, same, ofPoints_points]

@[simp] theorem strip_whole (s : String) : (whole s).strip = .whole (Text.strip s) := by
  rw [strip, points, CodePoint.trimBy_chars, ofPoints_chars]
  rfl

@[simp] theorem points_strip (t : RawText) : t.strip.points = Text.trimBy CodePoint.isBlank t.points :=
  points_ofPoints _

theorem string?_strip (t : RawText) : t.strip.string? = t.string?.map Text.strip := by
  cases t with
  | whole s =>
    rw [strip_whole]
    rfl
  | broken t =>
    have broken : chars? (Text.trimBy CodePoint.isBlank t.points) = none := by
      rw [CodePoint.chars?_trimBy, t.broken]
      rfl
    rw [strip, points, ofPoints_of_broken broken]
    rfl

@[simp] theorem upper_whole (s : String) : (whole s).upper = .whole (Text.upper s) := by
  have each : (s.toList.map CodePoint.char).flatMap CodePoint.upper =
      (s.toList.flatMap Text.upperChar).map CodePoint.char := by
    rw [List.flatMap_map, List.map_flatMap]
    rfl
  rw [upper, points, each, ofPoints_chars]
  rfl

end RawText

end Bearer
