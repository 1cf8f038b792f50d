import MediaWatch.Notice

/-!
# Circuit breaker

A breaker counts consecutive failures. Closed, it opens at `threshold` failures; open, it is half open once `cooldown`
has passed since the last failure, which is noticed when the phase is next read (`Breaker.read`); half open, one more
failure opens it again and a success closes it.
-/

namespace MediaWatch

/-- The phases of a breaker. -/
inductive Phase where
  | closed
  | opened
  | halfOpen
  deriving Repr, DecidableEq

def Phase.word : Phase → String
  | .closed => "closed"
  | .opened => "open"
  | .halfOpen => "half_open"

/-- A count of consecutive failures with the phase it has led to. -/
structure Breaker (τ : Type) where
  name : String
  threshold : Int
  cooldown : τ
  phase : Phase
  failures : Nat
  lastFailure : Option τ

namespace Breaker

variable {τ : Type} [Scalar τ]

/-- A closed breaker. -/
def fresh (name : String) (threshold : Int) (cooldown : τ) : Breaker τ := ⟨name, threshold, cooldown, .closed, 0, none⟩

/-- Whether an open breaker has cooled down. -/
def cooled (b : Breaker τ) (now : τ) : Bool :=
  match b.phase, b.lastFailure with
  | .opened, some t => b.cooldown ≤ now - t
  | _, _ => false

/-- The breaker as a reader finds it: half open once it has cooled down. -/
def read (b : Breaker τ) (now : τ) : Breaker τ × List Notice :=
  if b.cooled now then ({ b with phase := .halfOpen }, [.breakerHalfOpen b.name (Scalar.text b.cooldown)]) else (b, [])

/-- A success closes the breaker. -/
def succeed (b : Breaker τ) : Breaker τ × List Notice :=
  ({ b with phase := .closed, failures := 0, lastFailure := none },
    if b.phase = .closed then [] else [.breakerClosed b.name b.phase.word])

/-- A failure opens a half open breaker, and a closed one that has reached its threshold. -/
def fail (b : Breaker τ) (now : τ) : Breaker τ × List Notice :=
  let b := { b with failures := b.failures + 1, lastFailure := some now }
  match b.phase with
  | .halfOpen => ({ b with phase := .opened }, [.breakerReopened b.name])
  | .closed =>
    if b.threshold ≤ b.failures then ({ b with phase := .opened }, [.breakerOpened b.name b.failures]) else (b, [])
  | .opened => (b, [])

/-- The breaker closed, without a word. -/
def reset (b : Breaker τ) : Breaker τ := { b with phase := .closed, failures := 0, lastFailure := none }

/-- Whether a breaker, as just read, lets nothing through. -/
def isOpen (b : Breaker τ) : Bool := b.phase == .opened

end Breaker

end MediaWatch
