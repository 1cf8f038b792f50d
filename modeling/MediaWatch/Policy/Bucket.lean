import MediaWatch.Number

/-!
# Token bucket

A bucket holds up to `capacity` permits and refills continuously, `capacity` permits in each `interval`. A caller asks
for a permit (`Bucket.ask`): it is granted one, or told how long to wait before it asks again. `Bucket.acquire` asks
until a permit is granted, with the sleeps of a given sleeper between.
-/

namespace MediaWatch

/-- Permits over time. -/
structure Bucket (τ : Type) where
  capacity : τ
  interval : τ
  /-- Permits in each unit of time. -/
  rate : τ
  tokens : τ
  updatedAt : τ

namespace Bucket

variable {τ : Type} [Scalar τ]

/-- The refusal of a bucket without capacity or interval. -/
def refusal : String := "events_per_interval and interval must be positive"

/-- A full bucket. Capacity and interval have to be positive. -/
def full? (capacity interval now : τ) : Option (Bucket τ) :=
  if capacity ≤ Scalar.ofInt 0 ∨ interval ≤ Scalar.ofInt 0 then none
  else some ⟨capacity, interval, capacity / interval, capacity, now⟩

/-- The bucket with the permits that have come in since it was last looked at. -/
def refill (b : Bucket τ) (now : τ) : Bucket τ :=
  let elapsed := Scalar.clamp (now - b.updatedAt)
  { b with tokens := Scalar.least b.capacity (b.tokens + elapsed * b.rate), updatedAt := now }

/-- The answer to a caller. -/
inductive Verdict (τ : Type) where
  | granted
  | wait (seconds : τ)

/-- Asks for a permit. One that is granted is gone; a caller who has to wait takes nothing. -/
def ask (b : Bucket τ) (now : τ) : Verdict τ × Bucket τ :=
  let b := b.refill now
  if b.tokens < Scalar.ofInt 1 then (.wait ((Scalar.ofInt 1 - b.tokens) / b.rate), b)
  else (.granted, { b with tokens := b.tokens - Scalar.ofInt 1 })

/-! ## Waiting -/

/-- How a caller sleeps: the time it is, and what a sleep does to it, if it does not fail. -/
structure Sleeper (σ τ : Type) where
  now : σ → τ
  sleep : σ → τ → Option σ

/-- How an acquisition ends: with a permit, with a failed sleep, or not within the allowed number of sleeps. -/
inductive Ending where
  | granted
  | failed
  | unfinished
  deriving Repr, DecidableEq

/-- Asks until a permit is granted, sleeping as told between, at most `sleeps` times. -/
def acquire {σ : Type} (sleeper : Sleeper σ τ) : Nat → Bucket τ → σ → Ending × Bucket τ × σ
  | sleeps, b, s =>
    match b.ask (sleeper.now s), sleeps with
    | (.granted, b), _ => (.granted, b, s)
    | (.wait _, b), 0 => (.unfinished, b, s)
    | (.wait d, b), sleeps + 1 =>
      match sleeper.sleep s d with
      | none => (.failed, b, s)
      | some s => acquire sleeper sleeps b s

end Bucket

end MediaWatch
