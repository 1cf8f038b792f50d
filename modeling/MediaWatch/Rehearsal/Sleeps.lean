import MediaWatch.Policy.Bucket

/-!
# Scripted sleeps

`Sleeps` are a clock that moves when someone sleeps on it, each time by a factor of its own. `Sleeps.acquireAll` takes
permits one after the other.
-/

namespace MediaWatch.Rehearsal

/-- A clock with what was slept on it. -/
structure Sleeps where
  now : Number
  /-- The factors of the sleeps to come; later ones are exact. -/
  factors : List Number
  /-- The durations asked for, the latest first. -/
  slept : List Number

namespace Sleeps

/-- The most sleeps at a time. -/
def limit : Nat := 64

/-- Sleeps once, unless the limit is reached. -/
def sleep (s : Sleeps) (seconds : Number) : Option Sleeps :=
  if limit ≤ s.slept.length then none
  else some ⟨s.now.add (seconds.mul (s.factors.headD (.int 1))), s.factors.tail, seconds :: s.slept⟩

def sleeper : Bucket.Sleeper Sleeps Number := ⟨(·.now), sleep⟩

/-- Takes a permit. -/
def acquire (b : Bucket Number) (s : Sleeps) : Bucket.Ending × Bucket Number × Sleeps :=
  b.acquire sleeper (limit + 1) s

/-- Takes so many permits and tells when each was granted, the latest first. -/
def acquireAll (b : Bucket Number) (s : Sleeps) : Nat → Bucket.Ending × List Number × Bucket Number × Sleeps
  | 0 => (.granted, [], b, s)
  | n + 1 =>
    match acquireAll b s n with
    | (.granted, times, b, s) =>
      let (ending, b, s) := acquire b s
      (ending, s.now :: times, b, s)
    | refused => refused

end Sleeps

end MediaWatch.Rehearsal
