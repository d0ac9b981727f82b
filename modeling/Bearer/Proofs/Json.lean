import Bearer.Json.Reader
import Bearer.Proofs.Number.Rounding
import Mathlib.Data.List.Basic

/-!
What a read JSON value looks like. Of several members of one name the last one counts
(`lookup?_eq_some_iff`), a double is always one that arithmetic can meet (`proper_of_read`), and the
reader gives up in front of more containers than it holds open (`read_brackets`).
-/

namespace Bearer.Json

/-! ### Members -/

/-- The member of a name that counts: no later one has the name. -/
def Holds (data : Members) (name : RawText) (v : Value) : Prop :=
  ∃ front back, data = front ++ (name, v) :: back ∧ ∀ w, (name, w) ∉ back

def Lacks (data : Members) (name : RawText) : Prop := ∀ w, (name, w) ∉ data

theorem lookup?_nil (name : RawText) : lookup? [] name = none := rfl

theorem lookup?_append (front back : Members) (name : RawText) :
    lookup? (front ++ back) name = (lookup? back name).or (lookup? front name) := by
  simp only [lookup?, List.reverse_append, List.find?_append]
  cases List.find? (·.1 == name) back.reverse <;> rfl

theorem lookup?_cons (name other : RawText) (v : Value) (back : Members) :
    lookup? ((other, v) :: back) name =
      (lookup? back name).or (if other = name then some v else none) := by
  rw [← List.singleton_append, lookup?_append]
  by_cases h : other = name <;> simp [lookup?, h]

theorem lookup?_eq_none_iff {data : Members} {name : RawText} :
    lookup? data name = none ↔ Lacks data name := by
  simp only [lookup?, Lacks, Option.map_eq_none_iff, List.find?_eq_none, List.mem_reverse, beq_iff_eq,
    Prod.forall]
  constructor
  · exact fun h w hw => h name w hw rfl
  · rintro h _ w hw rfl
    exact h w hw

theorem lookup?_eq_some_iff {data : Members} {name : RawText} {v : Value} :
    lookup? data name = some v ↔ Holds data name v := by
  constructor
  · induction data with
    | nil => simp [lookup?_nil]
    | cons member back ih =>
      obtain ⟨other, w⟩ := member
      rw [lookup?_cons]
      cases hback : lookup? back name with
      | some u =>
        intro h
        obtain ⟨front, rest, rfl, hrest⟩ := ih (hback.trans h)
        exact ⟨(other, w) :: front, rest, rfl, hrest⟩
      | none =>
        intro h
        obtain ⟨rfl, rfl⟩ : other = name ∧ w = v := by simpa using h
        exact ⟨[], back, rfl, lookup?_eq_none_iff.1 hback⟩
  · rintro ⟨front, back, rfl, hback⟩
    simp [lookup?_append, lookup?_cons, lookup?_eq_none_iff.2 hback]

/-! ### Doubles -/

theorem of_number {cs rest : List Char} {v : Value} (h : number? cs = some (.ok v, rest)) :
    (∃ n, v = .int n) ∨ ∃ negative m e, v = .double (Double.ofDecimal negative m e) := by
  simp only [number?, Option.bind_eq_bind, Option.bind_eq_some_iff] at h
  obtain ⟨_, _, h⟩ := h
  split at h
  · split at h
    · cases h
    · obtain ⟨rfl, -⟩ : _ = v ∧ _ := by simpa using h
      exact .inl ⟨_, rfl⟩
  · obtain ⟨rfl, -⟩ : _ = v ∧ _ := by simpa using h
    exact .inr ⟨_, _, _, rfl⟩

theorem of_scalarFrom {cs : List Char} {v : Value} {rest} (h : scalarFrom cs = .ok (v, rest)) :
    (∃ word, (word, v) ∈ namedValues) ∨ (∃ n, v = .int n) ∨
      ∃ negative m e, v = .double (Double.ofDecimal negative m e) := by
  unfold scalarFrom at h
  split at h
  · cases h
  next hscalar =>
    obtain ⟨rfl, -⟩ : _ = v ∧ _ := by simpa using h
    unfold scalar at hscalar
    split at hscalar
    next found hfound =>
      obtain ⟨⟨word, w⟩, hmem, hw⟩ := List.exists_of_findSome?_eq_some hfound
      obtain ⟨after, -, rfl⟩ := Option.map_eq_some_iff.1 hw
      obtain ⟨rfl, -⟩ := Prod.mk.inj (Except.ok.inj hscalar)
      exact .inl ⟨word, hmem⟩
    next =>
      split at hscalar
      next hnumber =>
        obtain ⟨rfl, rfl⟩ := Prod.mk.inj (Except.ok.inj hscalar)
        exact .inr (of_number hnumber)
      all_goals cases hscalar

theorem proper_of_scalarFrom {cs : List Char} {x : Double} {rest}
    (h : scalarFrom cs = .ok (.double x, rest)) : x.Proper := by
  obtain ⟨word, hword⟩ | ⟨n, hn⟩ | ⟨negative, m, e, hx⟩ := of_scalarFrom h
  · simp only [namedValues, List.mem_cons, Prod.mk.injEq, reduceCtorEq, and_false,
      Value.double.injEq, List.not_mem_nil, or_false, false_or] at hword
    rcases hword with ⟨-, rfl⟩ | ⟨-, rfl⟩ | ⟨-, rfl⟩
    · exact .nan
    · exact .infinite
    · exact .infinite
  · cases hn
  · obtain rfl := Value.double.inj hx
    exact Double.proper_ofDecimal ..

theorem scalarFrom_ne_obj {cs : List Char} {data : Members} {rest} :
    scalarFrom cs ≠ .ok (.obj data, rest) := by
  intro h
  obtain ⟨word, hword⟩ | ⟨n, hn⟩ | ⟨negative, m, e, hx⟩ := of_scalarFrom h
  · simp [namedValues] at hword
  · cases hn
  · cases hx

/-- Only a text that starts with no bracket and no quote writes a number. -/
theorem proper_of_valueFrom {depth : Nat} {cs : List Char} {x : Double} {rest}
    (h : valueFrom depth cs = .ok (.double x, rest)) : x.Proper := by
  unfold valueFrom at h
  split at h
  · split at h <;> cases h
  · split at h
    · cases h
    · split at h
      · cases h
      · dsimp only at h
        split at h <;> cases h
  · split at h
    · cases h
    · split at h
      · cases h
      · dsimp only at h
        split at h <;> cases h
  · exact proper_of_scalarFrom h

theorem mem_of_itemsFrom {α : Type} {close : Char} {item : (cs : List Char) → From cs α}
    {start : List Char} {done : List α} {cs : List Char} {hlength : cs.length < start.length}
    {xs : List α} {rest} (h : itemsFrom close item start done cs hlength = .ok (xs, rest)) {x : α}
    (hx : x ∈ xs) : x ∈ done ∨ ∃ from' after, item from' = .ok (x, after) := by
  fun_induction itemsFrom close item start done cs hlength with
  | case1 => cases h
  | case2 => cases h
  | case3 done cs _ y _ _ hitem =>
    obtain ⟨rfl, -⟩ : _ ∧ _ := by simpa using h
    rw [List.mem_append, List.mem_reverse, List.mem_singleton] at hx
    rcases hx with hx | rfl
    · exact .inl hx
    · exact .inr ⟨_, _, hitem⟩
  | case4 done cs _ y _ _ hitem _ _ _ _ _ ih =>
    rcases ih h with hdone | hitem'
    · rcases List.mem_cons.1 hdone with rfl | hdone
      · exact .inr ⟨_, _, hitem⟩
      · exact .inl hdone
    · exact .inr hitem'
  | case5 => cases h

theorem of_memberFrom {item : (cs : List Char) → From cs Value} {cs : List Char}
    {name : RawText} {v : Value} {rest} (h : memberFrom item cs = .ok ((name, v), rest)) :
    ∃ from' after, item from' = .ok (v, after) := by
  unfold memberFrom at h
  split at h
  · split at h
    · cases h
    · split at h
      · dsimp only at h
        split at h
        · cases h
        next hitem =>
          obtain ⟨⟨rfl, rfl⟩, -⟩ : (_ ∧ _) ∧ _ := by simpa using h
          exact ⟨_, _, hitem⟩
      · cases h
  · cases h

theorem proper_of_object {depth : Nat} {cs : List Char} {data : Members} {rest}
    (h : valueFrom depth cs = .ok (.obj data, rest)) {name : RawText} {x : Double}
    (hx : (name, .double x) ∈ data) : x.Proper := by
  unfold valueFrom at h
  split at h
  · split at h <;> cases h
  · split at h
    · cases h
    · split at h
      · cases h
      · dsimp only at h
        split at h <;> cases h
  · split at h
    · cases h
    · split at h
      · obtain ⟨rfl, -⟩ : _ ∧ _ := by simpa using h
        cases hx
      · dsimp only at h
        split at h
        · cases h
        next members _ hitems =>
          obtain ⟨rfl, -⟩ : members = data ∧ _ := by simpa using h
          obtain hnone | ⟨_, _, hmember⟩ := mem_of_itemsFrom hitems hx
          · cases hnone
          · obtain ⟨_, _, hvalue⟩ := of_memberFrom hmember
            exact proper_of_valueFrom hvalue
  · exact absurd h scalarFrom_ne_obj

/-- A double among the members of an object is one that arithmetic can meet. -/
theorem proper_of_read {depth : Nat} {text : List Char} {data : Members} (h : read depth text = .ok (.obj data))
    {name : RawText} {x : Double} (hx : (name, .double x) ∈ data) : x.Proper := by
  unfold read at h
  split at h
  · cases h
  · split at h
    · cases h
    next hvalue =>
      split at h
      · cases h
        exact proper_of_object hvalue hx
      · cases h

/-! ### Depth -/

theorem itemsFrom_error {α : Type} {close : Char} {item : (cs : List Char) → From cs α}
    {start : List Char} {done : List α} {cs : List Char} {hlength : cs.length < start.length}
    {e : Stop} (h : item cs = .error e) : itemsFrom close item start done cs hlength = .error e := by
  rw [itemsFrom, h]

theorem valueFrom_brackets {depth n : Nat} (h : depth < n) (rest : List Char) :
    valueFrom depth (List.replicate n '[' ++ rest) = .error (.tooDeep .array) := by
  induction depth generalizing n with
  | zero =>
    obtain ⟨n, rfl⟩ : ∃ m, n = m + 1 := ⟨n - 1, by omega⟩
    rw [List.replicate_succ, List.cons_append, valueFrom]
  | succ depth ih =>
    obtain ⟨n, rfl⟩ : ∃ m, n = m + 2 := ⟨n - 2, by omega⟩
    have hinner := ih (show depth < n + 1 by omega)
    rw [List.replicate_succ, List.cons_append] at hinner ⊢
    have hskip : skipBlanks (List.replicate (n + 1) '[' ++ rest) =
        '[' :: (List.replicate n '[' ++ rest) := rfl
    have hitem : valueFrom depth (skipBlanks (List.replicate (n + 1) '[' ++ rest)) =
        .error (.tooDeep .array) := hskip ▸ hinner
    rw [valueFrom]
    dsimp only
    split
    next hs => cases hs.symm.trans hskip
    next => rw [itemsFrom_error hitem]

/-- The reader gives up in front of more open brackets than it nests, whatever follows them. -/
theorem read_brackets {depth n : Nat} (h : depth < n) (rest : List Char) :
    read depth (List.replicate n '[' ++ rest) = .error (.tooDeep .array) := by
  obtain ⟨n, rfl⟩ : ∃ m, n = m + 1 := ⟨n - 1, by omega⟩
  have hskip : skipBlanks (List.replicate (n + 1) '[' ++ rest) =
      List.replicate (n + 1) '[' ++ rest := rfl
  have hvalue : valueFrom depth (skipBlanks (List.replicate (n + 1) '[' ++ rest)) =
      .error (.tooDeep .array) := by
    rw [hskip]
    exact valueFrom_brackets h rest
  rw [read, hvalue]
  · rfl
  · intro tail htail
    cases htail

end Bearer.Json
