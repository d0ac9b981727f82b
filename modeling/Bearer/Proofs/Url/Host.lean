import Bearer.Proofs.Url.Percent
import Bearer.Proofs.Url.Reader

/-!
Authorities that are made of unreserved characters and percent signs, as a quoted text is. All of such an
authority is a host, and if it can be read then not as an empty one.
-/

namespace Bearer.Url

theorem plain_of_all {cs : List Char} (all : cs.all Percent.isUnreserved = true) :
    ∀ c ∈ cs, c = '%' ∨ Percent.isUnreserved c = true :=
  fun c member => .inr (List.all_eq_true.1 all c member)

variable {host scheme : List Char} (plain : ∀ c ∈ host, c = '%' ∨ Percent.isUnreserved c = true)
include plain

theorem not_mem_of_plain (mark : Char) (marked : Percent.isUnreserved mark = false) (other : mark ≠ '%') :
    mark ∉ host := by
  intro member
  rcases plain mark member with same | unreserved
  · exact other same
  · rw [marked] at unreserved
    cases unreserved

theorem encodeHost_of_plain (some : host ≠ []) {encoded : List Char}
    (h : encodeHost host = .ok encoded) : encoded ≠ [] := by
  have ascii : host.all (·.toNat < 0x80) = true := by
    refine List.all_eq_true.2 fun c member => decide_eq_true ?_
    rcases plain c member with rfl | unreserved
    · decide
    · exact Percent.ascii_of_isUnreserved unreserved
  have noBracket : host.head? ≠ Option.some '[' := fun bracket =>
    not_mem_of_plain plain '[' rfl (by decide) (List.mem_of_mem_head? bracket)
  rw [encodeHost, if_neg (by simpa using some)] at h
  by_cases four : Address.isFourRuns host = true
  · rw [if_pos four] at h
    split at h
    · rw [← Except.ok.inj h]
      exact some
    · cases h
  · rw [if_neg four, if_neg (fun both => noBracket both.1), if_pos ascii] at h
    rw [← Except.ok.inj h]
    exact Percent.encode_ne_nil (mt List.map_eq_nil_iff.1 some)

theorem readAuthority_of_plain (scheme : List Char) :
    readAuthority scheme host = (encodeHost host).map fun encoded => ⟨[], encoded, none⟩ := by
  have absent (mark : Char) (marked : Percent.isUnreserved mark = false) (other : mark ≠ '%') :=
    not_mem_of_plain plain mark marked other
  have user : takeUserinfo host = ([], host) := if_neg (by simpa using absent '@' rfl (by decide))
  have noBracket : ¬ (host.head? = some '[' ∧ host.contains ']' = true) := fun both =>
    absent '[' rfl (by decide) (List.mem_of_mem_head? both.1)
  have all : takeHost host = (host, []) := by
    have colon := absent ':' rfl (by decide)
    rw [takeHost, if_neg noBracket, Text.takeWhile_ne_of_not_mem colon, Text.dropWhile_ne_of_not_mem colon]
  simp only [readAuthority, user, all]
  cases encodeHost host <;> rfl

theorem of_read_plain (valid : IsScheme scheme) {u : Url}
    (h : read (scheme ++ [':', '/', '/'] ++ host) = .ok u) :
    u.userinfo = [] ∧ encodeHost host = .ok u.host := by
  have whole : host.takeWhile (!endsAuthority ·) = host := by
    refine List.takeWhile_eq_self_iff.2 fun c member => ?_
    simp only [Bool.not_eq_true', Bool.eq_false_iff]
    intro ends
    rcases endsAuthority_iff.1 ends with rfl | rfl | rfl
    · exact not_mem_of_plain plain '/' rfl (by decide) member
    · exact not_mem_of_plain plain '?' rfl (by decide) member
    · exact not_mem_of_plain plain '#' rfl (by decide) member
  obtain ⟨a, authority, -, rfl⟩ := ofParts_eq_ok_iff.1 (read_eq_ok_iff.1 h).2.2
  rw [ofChars_absolute valid] at authority
  simp only [whole, readAuthority_of_plain plain] at authority
  obtain ⟨encoded, written, rfl⟩ := map_eq_ok_iff.1 authority
  exact ⟨rfl, written⟩

theorem host_of_plain (valid : IsScheme scheme) (some : host ≠ []) {u : Url}
    (h : read (scheme ++ [':', '/', '/'] ++ host) = .ok u) : u.host ≠ [] :=
  encodeHost_of_plain plain some (of_read_plain plain valid h).2

end Bearer.Url
