/-!
Steps that may fail, one after another: what it takes for all of them to succeed, and where the first
failure may come from. Two outcomes side by side are alike if both are the same failure or both are
results that are alike (`OutcomeAlike`).
-/

namespace Bearer

theorem bind_eq_ok_iff {ε α β : Type} {x : Except ε α} {f : α → Except ε β} {b : β} :
    x >>= f = .ok b ↔ ∃ a, x = .ok a ∧ f a = .ok b := by
  cases x with
  | error e => simp [bind, Except.bind]
  | ok a => simp [bind, Except.bind]

theorem bind_eq_error_iff {ε α β : Type} {x : Except ε α} {f : α → Except ε β} {e : ε} :
    x >>= f = .error e ↔ x = .error e ∨ ∃ a, x = .ok a ∧ f a = .error e := by
  cases x with
  | error e => simp [bind, Except.bind]
  | ok a => simp [bind, Except.bind]

@[simp] theorem mapError_ok {ε δ α : Type} (f : ε → δ) (a : α) :
    (Except.ok a : Except ε α).mapError f = .ok a := rfl

@[simp] theorem mapError_error {ε δ α : Type} (f : ε → δ) (e : ε) :
    (Except.error e : Except ε α).mapError f = .error (f e) := rfl

theorem mapError_eq_ok_iff {ε δ α : Type} {f : ε → δ} {x : Except ε α} {a : α} :
    x.mapError f = .ok a ↔ x = .ok a := by
  cases x <;> simp

theorem mapError_eq_error_iff {ε δ α : Type} {f : ε → δ} {x : Except ε α} {d : δ} :
    x.mapError f = .error d ↔ ∃ e, x = .error e ∧ f e = d := by
  cases x <;> simp

theorem map_eq_ok_iff {ε α β : Type} {f : α → β} {x : Except ε α} {b : β} :
    x.map f = .ok b ↔ ∃ a, x = .ok a ∧ f a = b := by
  cases x <;> simp [Except.map]

theorem map_eq_error_iff {ε α β : Type} {f : α → β} {x : Except ε α} {e : ε} :
    x.map f = .error e ↔ x = .error e := by
  cases x <;> simp [Except.map]

theorem ite_ok_eq_ok_iff {ε α : Type} {p : Prop} [Decidable p] {x y : α} {e : ε} :
    (if p then Except.ok x else .error e) = .ok y ↔ x = y ∧ p := by
  by_cases kept : p <;> simp [kept]

theorem of_forM {ε α : Type} {f : α → Except ε Unit} {xs : List α} (h : xs.forM f = .ok ()) {x : α}
    (member : x ∈ xs) : f x = .ok () := by
  induction xs with
  | nil => cases member
  | cons y ys ih =>
    obtain ⟨_, first, rest⟩ := bind_eq_ok_iff.1 h
    rcases List.mem_cons.1 member with rfl | member
    · exact first
    · exact ih rest member

/-! ### Side by side -/

inductive OutcomeAlike (T : α → β → Prop) : Except ε α → Except ε β → Prop
  | ok {x : α} {y : β} (alike : T x y) : OutcomeAlike T (.ok x) (.ok y)
  | error (e : ε) : OutcomeAlike T (.error e) (.error e)

theorem outcomeAlike_refl {T : α → α → Prop} (refl : ∀ x, T x x) (outcome : Except ε α) :
    OutcomeAlike T outcome outcome := by
  cases outcome with
  | ok x => exact .ok (refl x)
  | error e => exact .error e

theorem outcomeAlike_eq {x y : Except ε α} : OutcomeAlike Eq x y ↔ x = y := by
  constructor
  · rintro (rfl | e) <;> rfl
  · rintro rfl
    exact outcomeAlike_refl (fun _ => rfl) x

theorem OutcomeAlike.strengthen {T U : α → β → Prop} {x : Except ε α} {y : Except ε β}
    (h : OutcomeAlike T x y) (both : ∀ a b, x = .ok a → y = .ok b → T a b → U a b) : OutcomeAlike U x y := by
  cases h with
  | ok alike => exact .ok (both _ _ rfl rfl alike)
  | error e => exact .error e

theorem OutcomeAlike.map {T : α → β → Prop} {U : γ → δ → Prop} {x : Except ε α} {y : Except ε β}
    {f : α → γ} {g : β → δ} (h : OutcomeAlike T x y) (alike : ∀ x y, T x y → U (f x) (g y)) :
    OutcomeAlike U (x.map f) (y.map g) := by
  cases h with
  | ok same => exact .ok (alike _ _ same)
  | error e => exact .error e

theorem OutcomeAlike.mapError {T : α → β → Prop} {x : Except ε α} {y : Except ε β} (h : OutcomeAlike T x y)
    (f : ε → δ) : OutcomeAlike T (x.mapError f) (y.mapError f) := by
  cases h with
  | ok same => exact .ok same
  | error e => exact .error (f e)

theorem OutcomeAlike.bind {T : α → β → Prop} {U : γ → δ → Prop} {x : Except ε α} {y : Except ε β}
    {f : α → Except ε γ} {g : β → Except ε δ} (h : OutcomeAlike T x y)
    (later : ∀ a b, T a b → OutcomeAlike U (f a) (g b)) : OutcomeAlike U (x >>= f) (y >>= g) := by
  cases h with
  | ok same => exact later _ _ same
  | error e => exact .error e

end Bearer
