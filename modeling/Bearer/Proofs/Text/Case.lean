import Bearer.Text.Case

/-!
Letter case. The letters of ASCII at the front of a text are lowered one by one, whatever follows
(`startsWith_lower`).
-/

namespace Bearer.Text

theorem prefix_lowerFrom (before done cs : List Char) : done.reverse <+: lowerFrom before done cs := by
  induction cs generalizing before done with
  | nil => exact List.prefix_rfl
  | cons c cs ih =>
    have longer := ih (c :: before) ((lowerChar before c cs).reverse ++ done)
    rw [List.reverse_append, List.reverse_reverse] at longer
    exact (List.prefix_append _ _).trans longer

/-- An ASCII front of a text is lowered letter by letter, whatever follows. -/
theorem map_toLower_prefix {front : List Char} (ascii : ∀ c ∈ front, c.toNat < 0x80)
    (before done more : List Char) :
    done.reverse ++ front.map Char.toLower <+: lowerFrom before done (front ++ more) := by
  induction front generalizing before done with
  | nil => simpa using prefix_lowerFrom before done more
  | cons c front ih =>
    have lowered : lowerChar before c (front ++ more) = [c.toLower] :=
      if_pos (ascii c List.mem_cons_self)
    have later : ∀ d ∈ front, d.toNat < 0x80 := fun d member => ascii d (List.mem_cons_of_mem _ member)
    have rest := ih later (c :: before) (c.toLower :: done)
    rw [List.cons_append, lowerFrom, lowered]
    simpa using rest

/-- Only a letter of ASCII becomes one. -/
theorem ascii_of_toLower {c : Char} (ascii : c.toLower.toNat < 0x80) : c.toNat < 0x80 := by
  unfold Char.toLower at ascii
  split at ascii
  next capital =>
    have bound := capital.2
    simp only [UInt32.le_iff_toNat_le] at bound
    exact Nat.lt_of_le_of_lt bound (by decide)
  next => exact ascii

theorem startsWith_lower {s : String} {front more : List Char} (whole : s.toList = front ++ more)
    (ascii : ∀ c ∈ front.map Char.toLower, c.toNat < 0x80) :
    (lower s).startsWith (String.ofList (front.map Char.toLower)) = true := by
  have plain : ∀ c ∈ front, c.toNat < 0x80 := fun c member =>
    ascii_of_toLower (ascii c.toLower (List.mem_map_of_mem member))
  have lowered := map_toLower_prefix plain [] [] more
  rw [List.reverse_nil, List.nil_append, ← whole] at lowered
  rw [String.startsWith_string_iff, lower, String.toList_ofList, String.toList_ofList]
  exact lowered

end Bearer.Text
