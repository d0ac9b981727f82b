import Bearer.Text.Pieces
import Mathlib.Data.List.TakeWhile

/-!
Cutting a text into pieces. `pieces_append` says that a cut anywhere cuts the pieces apart, and
`pieces_flatMap` that a text may be rewritten piece by piece as long as the cuts stay where they are.
-/

namespace Bearer.Text

variable {p : Char → Bool}

/-! ### Up to a character -/

theorem takeWhile_append_stop {cs : List Char} {c : Char} (tail : List Char)
    (stop : p c = false) : (cs ++ c :: tail).takeWhile p = cs.takeWhile p := by
  rw [List.takeWhile_append]
  split
  next whole =>
    rw [List.takeWhile_cons_of_neg (by simp [stop]), List.append_nil,
      (List.takeWhile_prefix p).eq_of_length whole]
  next => rfl

theorem takeWhile_append_of_mem {cs : List Char} {c : Char} (member : c ∈ cs)
    (stop : p c = false) (tail : List Char) : (cs ++ tail).takeWhile p = cs.takeWhile p := by
  obtain ⟨front, back, rfl⟩ := List.append_of_mem member
  rw [List.append_assoc, List.cons_append, takeWhile_append_stop _ stop, takeWhile_append_stop _ stop]

theorem dropWhile_append_of_takeWhile {cs tail : List Char}
    (same : (cs ++ tail).takeWhile p = cs.takeWhile p) :
    (cs ++ tail).dropWhile p = cs.dropWhile p ++ tail := by
  have whole : (cs ++ tail).takeWhile p ++ (cs ++ tail).dropWhile p = cs ++ tail :=
    List.takeWhile_append_dropWhile
  have front : cs.takeWhile p ++ cs.dropWhile p = cs := List.takeWhile_append_dropWhile
  rw [same] at whole
  apply List.append_cancel_left
  rw [whole, ← List.append_assoc, front]

theorem ne_of_not_mem {c : Char} {cs : List Char} (absent : c ∉ cs) : ∀ d ∈ cs, (d != c) = true := by
  intro d member
  refine bne_iff_ne.2 ?_
  rintro rfl
  exact absent member

theorem takeWhile_ne_of_not_mem {c : Char} {cs : List Char} (absent : c ∉ cs) :
    cs.takeWhile (· != c) = cs := List.takeWhile_eq_self_iff.2 (ne_of_not_mem absent)

theorem dropWhile_ne_of_not_mem {c : Char} {cs : List Char} (absent : c ∉ cs) :
    cs.dropWhile (· != c) = [] := List.dropWhile_eq_nil_iff.2 (ne_of_not_mem absent)

theorem takeWhile_ne_append {c : Char} {cs : List Char} (absent : c ∉ cs) (tail : List Char) :
    (cs ++ tail).takeWhile (· != c) = cs ++ tail.takeWhile (· != c) :=
  List.takeWhile_append_of_pos (ne_of_not_mem absent)

theorem dropWhile_ne_append {c : Char} {cs : List Char} (absent : c ∉ cs) (tail : List Char) :
    (cs ++ tail).dropWhile (· != c) = tail.dropWhile (· != c) :=
  List.dropWhile_append_of_pos (ne_of_not_mem absent)

theorem exists_last {cs : List Char} {c : Char} (member : c ∈ cs) :
    ∃ front back, cs = front ++ c :: back ∧ c ∉ back := by
  obtain ⟨back, front, reversed, other⟩ := List.eq_append_cons_of_mem (List.mem_reverse.2 member)
  refine ⟨front.reverse, back.reverse, ?_, by simpa using other⟩
  rw [← List.reverse_reverse cs, reversed]
  simp

theorem takeWhile_flatMap {f : Char → List Char} (stops : ∀ c, p c = false → f c = [c])
    (others : ∀ c, p c = true → ∀ d ∈ f c, p d = true) (cs : List Char) :
    (cs.flatMap f).takeWhile p = (cs.takeWhile p).flatMap f := by
  induction cs with
  | nil => rfl
  | cons c cs ih =>
    rw [List.flatMap_cons]
    cases inside : p c with
    | false => simp [stops c inside, inside]
    | true =>
      rw [List.takeWhile_append_of_pos (others c inside), ih, List.takeWhile_cons_of_pos inside,
        List.flatMap_cons]

theorem dropWhile_flatMap {f : Char → List Char} (stops : ∀ c, p c = false → f c = [c])
    (others : ∀ c, p c = true → ∀ d ∈ f c, p d = true) (cs : List Char) :
    (cs.flatMap f).dropWhile p = (cs.dropWhile p).flatMap f := by
  induction cs with
  | nil => rfl
  | cons c cs ih =>
    rw [List.flatMap_cons]
    cases inside : p c with
    | false => simp [stops c inside, inside]
    | true =>
      rw [List.dropWhile_append_of_pos (others c inside), ih, List.dropWhile_cons_of_pos inside]

/-! ### Pieces -/

theorem pieces_cons_cut {c : Char} (cut : p c = true) (cs : List Char) :
    pieces p (c :: cs) = [] :: pieces p cs := by
  simp [pieces, cut]

theorem pieces_cons {c : Char} (inside : p c = false) {cs first : List Char}
    {rest : List (List Char)} (h : pieces p cs = first :: rest) :
    pieces p (c :: cs) = (c :: first) :: rest := by
  simp only [pieces, List.cons.injEq] at h
  simp [pieces, inside, h]

theorem exists_pieces (p : Char → Bool) (cs : List Char) :
    ∃ first rest, pieces p cs = first :: rest := ⟨_, _, rfl⟩

theorem pieces_append {c : Char} (cut : p c = true) (front back : List Char) :
    pieces p (front ++ c :: back) = pieces p front ++ pieces p back := by
  induction front with
  | nil => exact pieces_cons_cut cut back
  | cons d front ih =>
    cases inside : p d with
    | true => rw [List.cons_append, pieces_cons_cut inside, pieces_cons_cut inside, ih, List.cons_append]
    | false =>
      obtain ⟨first, rest, h⟩ := exists_pieces p front
      rw [h, List.cons_append] at ih
      rw [List.cons_append, pieces_cons inside ih, pieces_cons inside h, List.cons_append]

theorem sublist_of_mem_pieces {piece cs : List Char} (member : piece ∈ pieces p cs) :
    piece.Sublist cs := by
  induction cs generalizing piece with
  | nil =>
    obtain rfl := List.mem_singleton.1 member
    exact List.Sublist.refl []
  | cons c cs ih =>
    cases cut : p c with
    | true =>
      rw [pieces_cons_cut cut] at member
      rcases List.mem_cons.1 member with rfl | member
      · exact List.nil_sublist _
      · exact (ih member).cons c
    | false =>
      obtain ⟨first, rest, h⟩ := exists_pieces p cs
      rw [pieces_cons cut h] at member
      rw [h] at ih
      rcases List.mem_cons.1 member with rfl | member
      · exact (ih List.mem_cons_self).cons_cons c
      · exact (ih (List.mem_cons_of_mem _ member)).cons c

theorem pieces_eq_singleton {cs : List Char} (whole : ∀ c ∈ cs, p c = false) : pieces p cs = [cs] := by
  induction cs with
  | nil => rfl
  | cons c cs ih =>
    exact pieces_cons (whole c List.mem_cons_self) (ih fun d hd => whole d (List.mem_cons_of_mem _ hd))

theorem pieces_append_inside {front : List Char} (inside : ∀ c ∈ front, p c = false)
    {cs first : List Char} {rest : List (List Char)} (h : pieces p cs = first :: rest) :
    pieces p (front ++ cs) = (front ++ first) :: rest := by
  induction front with
  | nil => exact h
  | cons c front ih =>
    exact pieces_cons (inside c List.mem_cons_self)
      (ih fun d hd => inside d (List.mem_cons_of_mem _ hd))

/-- A character at the end belongs to the last piece. -/
theorem pieces_concat {c : Char} (inside : p c = false) (cs : List Char) :
    ∃ front last, pieces p cs = front ++ [last] ∧ pieces p (cs ++ [c]) = front ++ [last ++ [c]] := by
  induction cs with
  | nil => exact ⟨[], [], rfl, pieces_eq_singleton (by simpa using inside)⟩
  | cons d cs ih =>
    obtain ⟨front, last, before, after⟩ := ih
    cases cut : p d with
    | true =>
      refine ⟨[] :: front, last, ?_, ?_⟩
      · rw [pieces_cons_cut cut, before, List.cons_append]
      · rw [List.cons_append, pieces_cons_cut cut, after, List.cons_append]
    | false =>
      cases front with
      | nil => exact ⟨[], d :: last, pieces_cons cut before, pieces_cons cut after⟩
      | cons first front =>
        exact ⟨(d :: first) :: front, last, pieces_cons cut before, pieces_cons cut after⟩

theorem pieces_flatMap {f : Char → List Char} (cuts : ∀ c, p c = true → f c = [c])
    (others : ∀ c, p c = false → ∀ d ∈ f c, p d = false) (cs : List Char) :
    pieces p (cs.flatMap f) = (pieces p cs).map (List.flatMap f) := by
  induction cs with
  | nil => rfl
  | cons c cs ih =>
    cases cut : p c with
    | true =>
      rw [List.flatMap_cons, cuts c cut, List.singleton_append, pieces_cons_cut cut,
        pieces_cons_cut cut, ih]
      rfl
    | false =>
      obtain ⟨first, rest, h⟩ := exists_pieces p cs
      rw [h, List.map_cons] at ih
      rw [List.flatMap_cons, pieces_append_inside (others c cut) ih, pieces_cons cut h, List.map_cons,
        List.flatMap_cons]

theorem join_concat (c : Char) {ps : List (List Char)} (some : ps ≠ []) (last : List Char) :
    join c (ps ++ [last]) = join c ps ++ c :: last := by
  induction ps with
  | nil => exact absurd rfl some
  | cons first ps ih =>
    cases ps with
    | nil => simp [join, List.intercalate_cons_cons]
    | cons second ps =>
      have inner := ih (by simp)
      simp only [join, List.cons_append, List.intercalate_cons_cons] at inner ⊢
      simp only [inner, List.append_assoc]

end Bearer.Text
