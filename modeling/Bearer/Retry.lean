import Bearer.Network

/-!
# Retries

A failure that may be transient is met by trying again after a wait that grows from one attempt to
the next. It ends when the attempts or the time are used up; the last failure then stands.
-/

namespace Bearer

open Json (Members)

/-! ### Budgets -/

/-- The least number that is rounded to no double, `2 ^ 1024 - 2 ^ 970`. -/
def Double.bound : Nat := (twoPow 54 - 1) * Nat.pow (twoPow 194) 5

/-- Seconds that retries may take, as they were given. They are no more than a double can stand for. -/
inductive Budget where
  | whole (seconds : Int) (fits : seconds.toNat < Double.bound := by decide)
  | double (seconds : Double)
  deriving DecidableEq, Repr

namespace Budget

instance : Inhabited Budget := ⟨.double .zero⟩

def seconds : Budget → Double
  | whole n _ => .ofInt n
  | double x => x

def text : Budget → String
  | whole n _ => toString n
  | double x => x.text

def isExhausted (b : Budget) : Bool := b.seconds.le .zero

def refusal (b : Budget) : Failure :=
  .raised .budget ("Initial request budget was " ++ b.text ++ "s")

end Budget

/-! ### Policies -/

structure RetryPolicy where
  attempts : Nat := 10
  waitInitial : Double := .ofDecimal false 1 (-2)
  waitMax : Double := .ofInt 1
  waitJitter : Double := .zero
  waitBase : Double := .ofInt 2
  deriving DecidableEq, Repr, Inhabited

namespace RetryPolicy

/-- For calls that somebody waits for. -/
def blocking : RetryPolicy where
  waitMax := .ofDecimal false 1 (-1)
  waitBase := .ofDecimal false 15 (-1)

/-- For calls in the background. -/
def background : RetryPolicy where
  waitMax := .ofDecimal false 5 (-1)
  waitJitter := .ofDecimal false 1 (-2)

/-- A policy from named values; values with other names do not matter. -/
def ofFields (fields : Members) : Checked RetryPolicy :=
  let number (name : String) (default : Double) (least : Nat) : Checked Double :=
    Field.withDefault fields name default (Field.numberAtLeast least)
  let attempts := Field.withDefault fields "attempts" 10 (Field.integerAtLeast 1)
  let standard : RetryPolicy := {}
  let initial := number "wait_initial" standard.waitInitial 0
  let most := number "wait_max" standard.waitMax 0
  let jitter := number "wait_jitter" standard.waitJitter 0
  let base := number "wait_exp_base" standard.waitBase 1
  (attempts.both <| initial.both <| most.both <| jitter.both base).map
    fun (attempts, waitInitial, waitMax, waitJitter, waitBase) =>
      { attempts := attempts.toNat, waitInitial, waitMax, waitJitter, waitBase }

/-- What a wait grows to after attempt `n`, counted from one; `none` if it is out of range. -/
def growth? (p : RetryPolicy) (n : Nat) : Option Double :=
  (p.waitBase.powNat? (n - 1)).map (p.waitInitial * ·)

/-- The wait after attempt `n`, with a share of the greatest jitter. -/
def wait (p : RetryPolicy) (jitter : Double) (n : Nat) : Double :=
  match p.growth? n with
  | some x => .min p.waitMax (x + p.waitJitter * jitter)
  | none => p.waitMax

/-- The wait after attempt `n` without jitter. -/
def plainWait (p : RetryPolicy) (n : Nat) : Double :=
  match p.growth? n with
  | some x => .min p.waitMax x
  | none => p.waitMax

/-- Attempt `n`, which `left` others may follow, and those. -/
def attemptFrom (p : RetryPolicy) (budget : Budget) (body : Nat → Action (Except Failure α))
    (started : Double) : (left n : Nat) → Action (Except Failure α)
  | 0, n => do
    Action.emit (.attempt n (← Action.clock) (p.plainWait n))
    body n
  | left + 1, n => do
    Action.emit (.attempt n (← Action.clock) (p.plainWait n))
    match ← body n with
    | .ok x => return .ok x
    | .error f =>
      let elapsed := (← Action.clock) - started
      if !f.isRetryable || budget.seconds.le elapsed then return .error f
      else
        Action.log .warning "stamina.retry_scheduled"
        Action.wait (p.wait (← Action.jitter) n)
        p.attemptFrom budget body started left (n + 1)

/-- Tries until an attempt succeeds, fails for good or is the last one. -/
def retrying (p : RetryPolicy) (budget : Budget) (body : Nat → Action (Except Failure α)) :
    Action (Except Failure α) := do
  if budget.isExhausted then return .error budget.refusal
  else p.attemptFrom budget body (← Action.clock) (p.attempts - 1) 1

end RetryPolicy

end Bearer
