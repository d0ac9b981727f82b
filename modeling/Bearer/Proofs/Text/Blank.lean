import Bearer.Text.Blank
import Mathlib.Data.List.TakeWhile

/-!
Trimming. It takes away white space at the ends of a text (`exists_trimBy`) and stops in front of something
else (`ends_trimBy`), so trimming what was trimmed changes nothing (`strip_strip`).
-/

namespace Bearer.Text

variable {α : Type} {p : α → Bool}

theorem exists_trimBy (p : α → Bool) (cs : List α) : ∃ front back,
    cs = front ++ trimBy p cs ++ back ∧ (∀ c ∈ front, p c = true) ∧ ∀ c ∈ back, p c = true := by
  refine ⟨cs.takeWhile p, ((cs.dropWhile p).reverse.takeWhile p).reverse, ?_, fun c => List.mem_takeWhile_imp,
    fun c member => List.mem_takeWhile_imp (List.mem_reverse.1 member)⟩
  rw [trimBy, List.append_assoc, ← List.reverse_append, List.takeWhile_append_dropWhile,
    List.reverse_reverse, List.takeWhile_append_dropWhile]

/-- White space around a text that neither starts nor ends with any is what trimming takes away. -/
theorem trimBy_append {front body back : List α} (before : ∀ c ∈ front, p c = true)
    (behind : ∀ c ∈ back, p c = true) (first : ∃ c ∈ body.head?, p c = false)
    (last : ∃ c ∈ body.getLast?, p c = false) : trimBy p (front ++ body ++ back) = body := by
  obtain ⟨c, start, firstInside⟩ := first
  obtain ⟨d, stop, lastInside⟩ := last
  obtain ⟨later, rfl⟩ := List.head?_eq_some_iff.1 start
  obtain ⟨earlier, same⟩ := List.getLast?_eq_some_iff.1 stop
  have kept : (front ++ (c :: later) ++ back).dropWhile p = (c :: later) ++ back := by
    rw [List.append_assoc, List.dropWhile_append_of_pos before, List.cons_append,
      List.dropWhile_cons_of_neg (by simp [firstInside])]
  rw [trimBy, kept, List.reverse_append,
    List.dropWhile_append_of_pos fun c member => behind c (List.mem_reverse.1 member), same,
    List.reverse_append, List.reverse_singleton, List.singleton_append,
    List.dropWhile_cons_of_neg (by simp [lastInside]), List.reverse_cons, List.reverse_reverse]

theorem first_of_dropWhile {cs later : List α} {c : α} (start : cs.dropWhile p = c :: later) :
    p c = false := by
  simpa [start] using List.head?_dropWhile_not p cs

theorem trimBy_eq_nil_iff {cs : List α} : trimBy p cs = [] ↔ ∀ c ∈ cs, p c = true := by
  rw [trimBy, List.reverse_eq_nil_iff, List.dropWhile_eq_nil_iff]
  constructor
  · intro trimmed
    cases rest : cs.dropWhile p with
    | nil => exact List.dropWhile_eq_nil_iff.1 rest
    | cons c later =>
      have blank := trimmed c (by simp [rest])
      exact absurd ((first_of_dropWhile rest).symm.trans blank) Bool.false_ne_true
  · intro blank
    rw [List.dropWhile_eq_nil_iff.2 blank]
    exact fun c member => nomatch member

/-- What is left of a text starts and ends with something that is no white space. -/
theorem ends_trimBy {cs : List α} (some : trimBy p cs ≠ []) :
    (∃ c ∈ (trimBy p cs).head?, p c = false) ∧ ∃ c ∈ (trimBy p cs).getLast?, p c = false := by
  constructor
  · obtain ⟨c, later, start⟩ := List.exists_cons_of_ne_nil some
    have whole : cs.dropWhile p = trimBy p cs ++ ((cs.dropWhile p).reverse.takeWhile p).reverse := by
      rw [trimBy, ← List.reverse_append, List.takeWhile_append_dropWhile, List.reverse_reverse]
    rw [start, List.cons_append] at whole
    exact ⟨c, by rw [start]; rfl, first_of_dropWhile whole⟩
  · cases rest : (cs.dropWhile p).reverse.dropWhile p with
    | nil => exact absurd (by rw [trimBy, rest]; rfl) some
    | cons c later => exact ⟨c, by rw [trimBy, rest]; simp, first_of_dropWhile rest⟩

theorem trimBy_trimBy (cs : List α) : trimBy p (trimBy p cs) = trimBy p cs := by
  by_cases empty : trimBy p cs = []
  · rw [empty]
    rfl
  · obtain ⟨first, last⟩ := ends_trimBy empty
    have nothing : ∀ c ∈ ([] : List α), p c = true := fun _ member => nomatch member
    simpa using trimBy_append nothing nothing first last

theorem trimBy_map (f : β → α) (cs : List β) : trimBy p (cs.map f) = (trimBy (p ∘ f) cs).map f := by
  rw [trimBy, trimBy, List.dropWhile_map, ← List.map_reverse, List.dropWhile_map, ← List.map_reverse]

/-- More white space at the ends of a text goes with what is there. -/
theorem trimBy_padded {front back : List α} (before : ∀ c ∈ front, p c = true)
    (behind : ∀ c ∈ back, p c = true) (cs : List α) : trimBy p (front ++ cs ++ back) = trimBy p cs := by
  by_cases empty : trimBy p cs = []
  · rw [empty, trimBy_eq_nil_iff]
    simp only [List.mem_append]
    rintro c ((inFront | inside) | inBack)
    · exact before c inFront
    · exact trimBy_eq_nil_iff.1 empty c inside
    · exact behind c inBack
  · obtain ⟨first, last⟩ := ends_trimBy empty
    obtain ⟨start, stop, whole, started, stopped⟩ := exists_trimBy p cs
    have split : front ++ cs ++ back = (front ++ start) ++ trimBy p cs ++ (stop ++ back) := calc
      front ++ cs ++ back = front ++ (start ++ trimBy p cs ++ stop) ++ back := by rw [← whole]
      _ = (front ++ start) ++ trimBy p cs ++ (stop ++ back) := by simp only [List.append_assoc]
    rw [split]
    exact trimBy_append (List.forall_mem_append.2 ⟨before, started⟩) (List.forall_mem_append.2 ⟨stopped, behind⟩)
      first last

theorem strip_strip (s : String) : strip (strip s) = strip s := by
  rw [strip, strip, String.toList_ofList, trimBy_trimBy]

theorem strip_padded {front back : String} (before : ∀ c ∈ front.toList, isBlank c = true)
    (behind : ∀ c ∈ back.toList, isBlank c = true) (s : String) : strip (front ++ s ++ back) = strip s := by
  rw [strip, strip, String.toList_append, String.toList_append, trimBy_padded before behind]

end Bearer.Text
