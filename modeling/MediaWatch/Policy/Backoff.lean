import MediaWatch.Number

/-!
# Exponential backoff

The delays before reconnecting: `initial` at first, each `factor` times the one before, never above `maximum`, spread
by plus or minus `jitter`. `Backoff.next` draws a delay, `Backoff.reset` starts over, and `Backoff.exhausted` says
whether all attempts are used up.
-/

namespace MediaWatch

/-- Delays that grow with each attempt. The random numbers for the spread lie between 0 and 1 and are drawn from
`draws`, over and over. -/
structure Backoff (τ : Type) where
  initial : τ
  maximum : τ
  factor : τ
  jitter : τ
  maxAttempts : Option Int
  draws : List τ
  attempt : Nat
  base : τ
  drawn : Nat

namespace Backoff

variable {τ : Type} [Scalar τ]

/-- A backoff without attempts so far. -/
def fresh (initial maximum factor jitter : τ) (maxAttempts : Option Int) (draws : List τ) : Backoff τ :=
  ⟨initial, maximum, factor, jitter, maxAttempts, draws, 0, initial, 0⟩

/-- Whether the attempts have reached their ceiling. -/
def exhausted (b : Backoff τ) : Bool :=
  match b.maxAttempts with
  | none => false
  | some m => m ≤ b.attempt

omit [Scalar τ] in
theorem exhausted_iff (b : Backoff τ) : b.exhausted = true ↔ ∃ m, b.maxAttempts = some m ∧ m ≤ b.attempt := by
  cases hm : b.maxAttempts <;> simp [exhausted, hm]

/-- Whether the delays are spread at all. -/
def spreads (b : Backoff τ) : Bool := b.jitter < Scalar.ofInt 0 || Scalar.ofInt 0 < b.jitter

/-- The random number that is drawn next. -/
def draw (b : Backoff τ) : τ := b.draws.getD (b.drawn % b.draws.length) (Scalar.ofInt 0)

/-- A delay times its spread: from `1 - jitter` for the random number 0 to `1 + jitter` for 1. -/
def spread (b : Backoff τ) (delay : τ) : τ :=
  if b.spreads then
    delay * (Scalar.ofInt 1 + b.jitter * (Scalar.ofInt 2 * b.draw - Scalar.ofInt 1))
  else delay

/-- The next delay, and the backoff after it. -/
def next (b : Backoff τ) : τ × Backoff τ :=
  let delay := b.spread (Scalar.least b.base b.maximum)
  (Scalar.clamp (Scalar.least delay b.maximum),
    { b with
      attempt := b.attempt + 1
      base := Scalar.least (b.base * b.factor) b.maximum
      drawn := if b.spreads then b.drawn + 1 else b.drawn })

/-- The backoff with its attempts forgotten. Random numbers are not drawn again. -/
def reset (b : Backoff τ) : Backoff τ := { b with attempt := 0, base := b.initial }

end Backoff

end MediaWatch
