/-!
# The life of a watcher

A watcher owns one background task at a time. `Lifecycle.start` and `Lifecycle.stop` toggle its session flag; the task
looks at the flag at its checkpoints. A start while the old task is still unfinished lets that task carry on;
`Lifecycle.settle` decides what becomes of a watcher when a task has ended: a later start is handed a new task, a task
that ended while its session was active has crashed, and otherwise the watcher is stopped.

Stopping takes two steps, clearing the flag (`clearFlag`) and posting a callback that sets the wakeup (`post`, `wake`);
a sleep clears the wakeup before it waits for it (`beginSleep`).
-/

namespace MediaWatch

/-- What a watcher is doing, as its health report says. -/
inductive Status where
  | stopped
  | starting
  | polling
  | idle
  | connecting
  | connected
  | reconnecting
  | degraded
  | failed
  deriving Repr, DecidableEq

def Status.word : Status → String
  | .stopped => "stopped"
  | .starting => "starting"
  | .polling => "polling"
  | .idle => "idle"
  | .connecting => "connecting"
  | .connected => "connected"
  | .reconnecting => "reconnecting"
  | .degraded => "degraded"
  | .failed => "failed"

/-- A background task. -/
structure Task where
  /-- The number of tasks before it. -/
  number : Nat
  /-- The session that it was created for. -/
  session : Nat
  deriving Repr, DecidableEq

/-- The session of a watcher and its background task. -/
structure Lifecycle where
  active : Bool
  /-- The number of sessions so far. -/
  generation : Nat
  status : Status
  /-- The number of tasks so far. -/
  tasks : Nat
  /-- The unfinished task, if there is one. -/
  task : Option Task
  /-- Whether a sleeping task is to wake up. -/
  wakeup : Bool
  /-- Callbacks that will set `wakeup` and have not run yet. -/
  posted : Nat
  deriving Repr, DecidableEq

namespace Lifecycle

/-- A watcher that was never started. -/
def initial : Lifecycle := ⟨false, 0, .stopped, 0, none, false, 0⟩

/-- A new task is created for the session at hand. -/
def spawn (l : Lifecycle) : Lifecycle := { l with tasks := l.tasks + 1, task := some ⟨l.tasks, l.generation⟩ }

/-! ## Starting -/

/-- What a start leads to. -/
inductive Started where
  | already
  | resumed
  | created
  deriving Repr, DecidableEq

/-- Starts a session. An unfinished task carries on with it, otherwise a new one is created. -/
def start (l : Lifecycle) : Lifecycle × Started :=
  if l.active then (l, .already)
  else
    let l := { l with active := true, generation := l.generation + 1 }
    if l.task.isSome then (l, .resumed)
    else ({ l with status := .starting }.spawn, .created)

/-! ## Stopping -/

/-- The first step of stopping. -/
def clearFlag (l : Lifecycle) : Lifecycle := { l with active := false }

/-- The second step of stopping. -/
def post (l : Lifecycle) : Lifecycle := { l with posted := l.posted + 1 }

/-- Stops the session. -/
def stop (l : Lifecycle) : Lifecycle := l.clearFlag.post

/-- A posted callback runs. -/
def wake (l : Lifecycle) : Lifecycle := { l with wakeup := true, posted := l.posted - 1 }

/-- A sleep begins. -/
def beginSleep (l : Lifecycle) : Lifecycle := { l with wakeup := false }

/-! ## The end of a task -/

/-- What becomes of a watcher whose task has ended. -/
inductive Ended where
  /-- A session started while the task was winding down; a new task is created for it. -/
  | handedOver
  /-- The session was active. -/
  | crashed
  | stopped
  deriving Repr, DecidableEq

/-- The end of a task. -/
def settle (t : Task) (l : Lifecycle) : Lifecycle × Ended :=
  if l.active then
    if t.session = l.generation then ({ l with task := none, active := false, status := .failed }, .crashed)
    else (l.spawn, .handedOver)
  else
    ({ l with task := none, status := if l.status = .failed then .failed else .stopped }, .stopped)

/-- The end of the unfinished task. -/
def finish (l : Lifecycle) : Lifecycle × Ended :=
  match l.task with
  | some t => l.settle t
  | none => (l, .stopped)

end Lifecycle

end MediaWatch
