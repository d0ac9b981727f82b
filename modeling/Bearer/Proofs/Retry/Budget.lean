import Bearer.Proofs.Retry.Loop

/-!
The budget of a call. A loop looks at its budget when an execution has failed, and then it waits. So every
execution that another one follows starts before the budget is used up, but the last one may start later,
by the wait in front of it and no more (`starts_in_budget`).
-/

namespace Bearer

open Double (NotNegative)

def Budget.IsOver (b : Budget) (started time : Double) : Prop := b.seconds.le (time - started) = true

/-! ### Starts among events -/

def starts (events : List Event) : List Double :=
  events.filterMap fun
    | .attempt _ time _ => some time
    | _ => none

@[simp] theorem starts_append (es fs : List Event) : starts (es ++ fs) = starts es ++ starts fs :=
  List.filterMap_append

theorem starts_of_inner {es : List Event} (inner : ∀ e ∈ es, e.IsInner) : starts es = [] := by
  apply List.filterMap_eq_nil_iff.2
  intro e member
  have kind := inner e member
  cases e with
  | attempt k time seconds => cases kind
  | _ => rfl

/-- A policy's wait takes an ordinary network to an ordinary one. -/
theorem RetryPolicy.ordinary_waited {p : RetryPolicy} {n : Network} (sound : p.Sound)
    (share : NotNegative n.jitter) (k : Nat) (ordinary : n.Ordinary) : (p.waited k n).Ordinary :=
  ⟨ordinary.time.add (zero_le_wait sound share k), ordinary.latencies⟩

theorem Budget.not_isOver_of_le {b : Budget} {started t u : Double} (finite : started.isFinite = true)
    (earlier : t.le u = true) (h : ¬ b.IsOver started u) : ¬ b.IsOver started t :=
  fun passed => h (Double.le_trans passed (Double.sub_mono_left earlier finite))

namespace Client

variable {c : Client} {r : Request} {p : RetryPolicy} {budget : Budget} {started : Double} {left k : Nat}
  {n : Network}

/-- When the executions of a loop from attempt `k` on started: all but the last before the budget was used
up, the first one at once, and the last one, if it is another, after the policy's wait. -/
structure Starts (p : RetryPolicy) (budget : Budget) (started : Double) (k : Nat) (n : Network)
    (front : List Double) (last : Double) : Prop where
  inTime : ∀ t ∈ front, ¬ budget.IsOver started t
  atOnce : (front ++ [last]).head? = some n.clock
  waited : front ≠ [] → ∃ ended, ¬ budget.IsOver started ended ∧
    last = ended + p.wait n.jitter (k + front.length - 1)

theorem starts_again {front : List Double} {last : Double} (finite : started.isFinite = true)
    (ordinary : n.Ordinary) (inTime : budget.seconds.le ((c.attempt r k n).network.clock - started) = false)
    (h : Starts p budget started (k + 1) (p.waited k (c.attempt r k n).network) front last) :
    Starts p budget started k n (n.clock :: front) last := by
  have later := later_attempt c r k n
  have ended : ¬ budget.IsOver started (c.attempt r k n).network.clock := by simp [Budget.IsOver, inTime]
  refine ⟨fun t member => ?_, rfl, fun _ => ?_⟩
  · rcases List.mem_cons.1 member with rfl | member
    · exact Budget.not_isOver_of_le finite (later.forward ordinary).2 ended
    · exact h.inTime t member
  · cases front with
    | nil =>
      -- the execution of this round is the one before the last
      refine ⟨_, ended, (Option.some.inj h.atOnce).trans ?_⟩
      rw [List.length_singleton, Nat.add_sub_cancel, ← later.jitter]
      rfl
    | cons t front =>
      obtain ⟨time, before, same⟩ := h.waited (List.cons_ne_nil _ _)
      have place : k + (n.clock :: t :: front).length - 1 = k + 1 + (t :: front).length - 1 := by
        simp only [List.length_cons]
        omega
      refine ⟨time, before, same.trans ?_⟩
      rw [place, ← later.jitter]
      rfl

theorem starts_round (p : RetryPolicy) (c : Client) (r : Request) (k : Nat) (n : Network) (es : List Event) :
    starts (p.announcement k n :: ((c.attempt r k n).events ++ es)) = n.clock :: starts es := by
  show n.clock :: starts ((c.attempt r k n).events ++ es) = _
  rw [starts_append, starts_of_inner (inner_attempt c r k n), List.nil_append]

theorem starts_attemptFrom (sound : p.Sound) (finite : started.isFinite = true) (budget : Budget)
    (c : Client) (r : Request) (left k : Nat) (n : Network) (ordinary : n.Ordinary)
    (share : NotNegative n.jitter) :
    let run := p.attemptFrom budget (c.attempt r) started left k n
    (starts run.events).length = (executions run.events).length ∧
      ∃ front last, starts run.events = front ++ [last] ∧ Starts p budget started k n front last := by
  refine RetryPolicy.attemptFrom_induction (motive := fun _ k n run => n.Ordinary → NotNegative n.jitter →
    (starts run.events).length = (executions run.events).length ∧
      ∃ front last, starts run.events = front ++ [last] ∧ Starts p budget started k n front last)
    (fun left k n _ ordinary share => ?_) (fun left k n f rest _ _ inTime ih ordinary share => ?_)
    left k n ordinary share
  · have one := starts_round p c r k n []
    rw [List.append_nil] at one
    refine ⟨by rw [one, executions_announced]; rfl, [], n.clock, one, ?_⟩
    exact ⟨by simp, rfl, fun some => absurd rfl some⟩
  · have later := later_attempt c r k n
    obtain ⟨same, front, last, whole, h⟩ := ih
      (RetryPolicy.ordinary_waited sound (later.jitter ▸ share) k (later.forward ordinary).1)
      (later.jitter ▸ share)
    dsimp only
    rw [starts_round, executions_note (e := p.announcement k n) trivial, executions_append,
      executions_attempt]
    refine ⟨congrArg Nat.succ same, n.clock :: front, last, ?_, starts_again finite ordinary inTime h⟩
    exact congrArg (n.clock :: ·) whole

/-- With retries, an execution that another one follows starts before the budget is used up. The last one
does so too unless the wait in front of it, which is no longer than the longest wait of the policy, leads
beyond the budget; at the end of the execution before, the budget lasted. -/
theorem starts_in_budget {fields : Json.Members} (accepted : RetryPolicy.ofFields fields = .ok c.policy)
    {b : Budget} (within : b.isExhausted = false) (ordinary : n.Ordinary) (finite : n.clock.isFinite = true)
    (share : Double.le .zero n.jitter = true) :
    let run := c.call (some b) r n
    (starts run.events).length = (executions run.events).length ∧
      (starts run.events).head? = some n.clock ∧
      ∃ front last, starts run.events = front ++ [last] ∧
        ((∀ t ∈ starts run.events, ¬ b.IsOver n.clock t) ↔ ¬ b.IsOver n.clock last) ∧
        (∀ t ∈ front, ¬ b.IsOver n.clock t) ∧
        (front = [] → ¬ b.IsOver n.clock last) ∧
        (front ≠ [] → ∃ ended seconds, last = ended + seconds ∧ ¬ b.IsOver n.clock ended ∧
          seconds = c.policy.wait n.jitter front.length ∧ Double.le .zero seconds = true ∧
          seconds.le c.policy.waitMax = true) := by
  have sound := RetryPolicy.sound_of_ofFields accepted
  intro run
  have loop : run = c.policy.attemptFrom b (c.attempt r) n.clock (c.policy.attempts - 1) 1 n :=
    call_within within c r n
  rw [loop]
  obtain ⟨same, front, last, whole, h⟩ :=
    starts_attemptFrom sound finite b c r (c.policy.attempts - 1) 1 n ordinary (.inr share)
  refine ⟨same, whole ▸ h.atOnce, front, last, whole, ?_, h.inTime, fun none => ?_, fun some => ?_⟩
  · rw [whole]
    exact ⟨fun all => all last (by simp), fun inTime => by simpa [or_imp, forall_and] using ⟨h.inTime, inTime⟩⟩
  · subst none
    rw [Option.some.inj h.atOnce, Budget.IsOver, Double.sub_self finite]
    simpa [Budget.isExhausted] using within
  · obtain ⟨ended, inTime, sum⟩ := h.waited some
    rw [Nat.add_sub_cancel_left] at sum
    exact ⟨ended, _, sum, inTime, rfl, RetryPolicy.zero_le_wait sound (.inr share) _,
      RetryPolicy.wait_le_waitMax sound _ _⟩

/-- An execution takes 0.15 seconds, and 0.1 seconds are waited before the second one. -/
def slow : Client where
  endpoint := { endpoint := "https://a.example/i", method := .post }
  parser := fun _ _ => .ok {}
  policy := { attempts := 3, waitInitial := .ofDecimal false 1 (-1) }
  budget := .double (.ofDecimal false 2 (-1))

def slowRequest : Request where
  method := .post
  url := "https://a.example/i"
  endpoint := "https://a.example/i"

def slowNetwork : Network where
  servers := [("a.example", ⟨⟨.ofDecimal false 15 (-2), .ok { status := 503 }⟩, []⟩)]

theorem accepted_slow :
    RetryPolicy.ofFields [("attempts", .int 3), ("wait_initial", .double (.ofDecimal false 1 (-1)))] =
      .ok slow.policy := by
  decide +kernel

theorem ordinary_slow : slowNetwork.Ordinary := by
  refine ⟨Double.isTime_of_finite (Double.proper_finite_zero false) rfl, fun entry member k => ?_⟩
  obtain rfl := List.mem_singleton.1 member
  rw [get_alone]
  decide +kernel

theorem starts_in_budget_slow :
    let run := slow.call (some slow.budget) slowRequest slowNetwork
    starts run.events = [.zero, .ofDecimal false 25 (-2)] ∧
      ∃ front last, starts run.events = front ++ [last] ∧
        ∀ t ∈ front, ¬ slow.budget.IsOver slowNetwork.clock t := by
  intro run
  obtain ⟨-, -, front, last, whole, -, inTime, -⟩ := starts_in_budget (r := slowRequest) accepted_slow
    (b := slow.budget) (by decide +kernel) ordinary_slow rfl (by decide +kernel)
  exact ⟨by decide +kernel, front, last, whole, inTime⟩

/-- The second execution starts when 0.25 seconds of a budget of 0.2 have passed. -/
theorem not_every_start_in_budget :
    ¬ ∀ (c : Client) (fields : Json.Members) (b : Budget) (r : Request) (n : Network),
      RetryPolicy.ofFields fields = .ok c.policy → b.isExhausted = false → n.Ordinary →
      n.clock.isFinite = true → Double.le .zero n.jitter = true →
      n.jitter.le (.finite false Double.one) = true →
      ∀ t ∈ starts (c.call (some b) r n).events, ¬ b.IsOver n.clock t := by
  intro always
  have inTime := always slow _ slow.budget slowRequest slowNetwork accepted_slow (by decide +kernel)
    ordinary_slow rfl (by decide +kernel) (by decide +kernel) (.ofDecimal false 25 (-2)) (by decide +kernel)
  apply inTime
  show slow.budget.seconds.le (Double.ofDecimal false 25 (-2) - slowNetwork.clock) = true
  decide +kernel

end Client

end Bearer
