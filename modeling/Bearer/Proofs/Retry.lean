import Bearer.Retry

/-!
One round of the retry loop. A round announces an attempt and makes it; then the loop ends with what came
of it (`attemptFrom_ends`), or it waits and goes on (`attemptFrom_again`). There is no third way, so what
holds of a last round and is kept by a round in front holds of every loop (`attemptFrom_induction`).
-/

namespace Bearer

theorem Action.clock_apply (n : Network) : Action.clock n = ⟨n.clock, [], n⟩ := rfl

namespace RetryPolicy

/-- Does an attempt that ran like this end a loop, whatever attempts are left? -/
def Ends (budget : Budget) (started : Double) (run : Step (Except Failure α)) : Prop :=
  ∀ f, run.result = .error f →
    f.isRetryable = false ∨ budget.seconds.le (run.network.clock - started) = true

variable {p : RetryPolicy} {budget : Budget} {body : Nat → Action (Except Failure α)}
  {started : Double} {left k : Nat} {n : Network}

theorem not_ends_iff {run : Step (Except Failure α)} : ¬ Ends budget started run ↔
    ∃ f, run.result = .error f ∧ f.isRetryable = true ∧
      budget.seconds.le (run.network.clock - started) = false := by
  simp [Ends]

def announcement (p : RetryPolicy) (k : Nat) (n : Network) : Event :=
  .attempt k n.clock (p.plainWait k)

/-- The last attempt that is left ends the loop. -/
theorem attemptFrom_zero : p.attemptFrom budget body started 0 k n =
    ⟨(body k n).result, p.announcement k n :: (body k n).events, (body k n).network⟩ := rfl

theorem attemptFrom_ends (ends : Ends budget started (body k n)) :
    p.attemptFrom budget body started (left + 1) k n =
      ⟨(body k n).result, p.announcement k n :: (body k n).events, (body k n).network⟩ := by
  simp only [attemptFrom, Action.bind_apply, Action.clock_apply, Action.emit]
  cases came : (body k n).result with
  | ok x => simp [announcement]
  | error f =>
    have stops := ends f came
    simp [Action.clock_apply, stops, announcement]

theorem attemptFrom_again {f : Failure} (failed : (body k n).result = .error f)
    (retryable : f.isRetryable = true)
    (inTime : budget.seconds.le ((body k n).network.clock - started) = false) :
    let m := (body k n).network
    let seconds := p.wait m.jitter k
    let rest := p.attemptFrom budget body started left (k + 1) { m with clock := m.clock + seconds }
    p.attemptFrom budget body started (left + 1) k n =
      ⟨rest.result, p.announcement k n :: ((body k n).events ++
        .log .warning "stamina.retry_scheduled" :: .wait seconds :: rest.events), rest.network⟩ := by
  intro m seconds rest
  simp only [attemptFrom, Action.bind_apply, Action.clock_apply, Action.emit, failed]
  simp [retryable, inTime, announcement, Action.log, Action.jitter, Action.wait, Action.emit,
    Action.pass, m, seconds, rest]

def waited (p : RetryPolicy) (k : Nat) (n : Network) : Network :=
  { n with clock := n.clock + p.wait n.jitter k }

/-- Induction over the rounds of a loop, from its last one. -/
theorem attemptFrom_induction {motive : (left k : Nat) → Network → Step (Except Failure α) → Prop}
    (last : ∀ left k n, left = 0 ∨ Ends budget started (body k n) → motive left k n
      ⟨(body k n).result, p.announcement k n :: (body k n).events, (body k n).network⟩)
    (again : ∀ left k n f (rest : Step (Except Failure α)), (body k n).result = .error f →
      f.isRetryable = true → budget.seconds.le ((body k n).network.clock - started) = false →
      motive left (k + 1) (p.waited k (body k n).network) rest → motive (left + 1) k n
        ⟨rest.result, p.announcement k n :: ((body k n).events ++ .log .warning "stamina.retry_scheduled" ::
          .wait (p.wait (body k n).network.jitter k) :: rest.events), rest.network⟩)
    (left k : Nat) (n : Network) : motive left k n (p.attemptFrom budget body started left k n) := by
  induction left generalizing k n with
  | zero =>
    rw [attemptFrom_zero]
    exact last 0 k n (.inl rfl)
  | succ left ih =>
    by_cases ends : Ends budget started (body k n)
    · rw [attemptFrom_ends ends]
      exact last (left + 1) k n (.inr ends)
    · obtain ⟨f, failed, retryable, inTime⟩ := not_ends_iff.1 ends
      rw [attemptFrom_again failed retryable inTime]
      exact again left k n f _ failed retryable inTime (ih (k + 1) _)

end RetryPolicy

end Bearer
