import MediaWatch.Proofs.Library.Course
import MediaWatch.Watch.Watcher

/-!
# Reactions of a watcher

A `Stimulus` is anything that can happen to a watcher but for the cancellation of its task: someone starts or stops it or
asks for its health, or the outside brings what the task waits for. `Watcher.react` is what the watcher makes of it, and
`Watcher.deeds` is what can be told of the task on the way. A run takes a list of stimuli with their times, in whatever
order; those that nothing waits for change nothing.
-/

namespace MediaWatch

/-- What can happen to a watcher. -/
inductive Stimulus where
  | start
  | stop
  /-- A posted callback runs. -/
  | woken
  /-- Someone asks for the health. -/
  | asked
  /-- The task gets its first turn. -/
  | begun
  /-- The server answers the question at hand. -/
  | reply (c : Catalog)
  /-- The call of a listener ends and leaves the batch as given. -/
  | called (o : Outcome) (left : List Event)
  | opened (result : Except Fault Unit)
  | sent (result : Except Fault Unit)
  | arrival (a : Arrival)
  | rested

/-- Something that a task does. -/
inductive Deed where
  | began
  | ended
  /-- A sweep begins; `after` is where the task goes on when it is over. -/
  | sweeping (after : After)
  /-- The libraries are listed, or cannot be. -/
  | listed (answer : Except Text (List Text))
  /-- A library has been read to its end, or cannot be. -/
  | read (library : Text) (result : Except Text Snapshot)
  /-- A listener was called with a batch and has left it as `left`. -/
  | told (listener : Nat) (hook : Hook) (batch left : List Event)
  | connecting
  /-- A text frame was received. -/
  | handled (f : TextFrame)
  | napping

variable {τ : Type}

/-- What a task does when it comes to a position. -/
def Position.entering : Position τ → List Deed
  | .absent | .created => [.ended]
  | .querying .listing after => [.sweeping after]
  | .connecting => [.connecting]
  | .napping _ => [.napping]
  | _ => []

/-- What an answer tells of a sweep. -/
def Sweep.deeds (d : Detector) : (s : Sweep) → Except Text (s.query d).Reply → List Deed
  | .listing, answer => [.listed answer]
  | .reading e rest, answer => ((reading e rest).ending d answer).map fun r => .read r.1 r.2

namespace Watcher

/-! ## What stays the same -/

/-- What a watcher goes by, and what it has stored. -/
structure Basis (τ : Type) where
  strategy : Strategy τ
  detector : Detector
  listeners : List String
  store : Store

/-- The same of a watcher. -/
def basis (w : Watcher τ) : Basis τ := ⟨w.strategy, w.detector, w.listeners, w.store⟩

section Elementary

variable (w : Watcher τ)

@[simp] theorem basis_say (n : Notice) : (w.say n).basis = w.basis := rfl
@[simp] theorem task_say (n : Notice) : (w.say n).life.task = w.life.task := rfl

@[simp] theorem basis_sayAll (ns : List Notice) : (sayAll ns w).basis = w.basis := by
  induction ns generalizing w with
  | nil => rfl
  | cons n ns ih => exact ih (w.say n)

@[simp] theorem listeners_sayAll (ns : List Notice) : (sayAll ns w).listeners = w.listeners :=
  congrArg Basis.listeners (basis_sayAll w ns)

@[simp] theorem task_sayAll (ns : List Notice) : (sayAll ns w).life.task = w.life.task := by
  induction ns generalizing w with
  | nil => rfl
  | cons n ns ih => exact ih (w.say n)

@[simp] theorem position_sayAll (ns : List Notice) : (sayAll ns w).position = w.position := by
  induction ns generalizing w with
  | nil => rfl
  | cons n ns ih => exact ih (w.say n)

@[simp] theorem basis_noteStatus (s : Status) : (noteStatus s w).basis = w.basis := by
  unfold noteStatus; split <;> rfl

@[simp] theorem task_noteStatus (s : Status) : (noteStatus s w).life.task = w.life.task := by
  unfold noteStatus; split <;> rfl

@[simp] theorem position_noteStatus (s : Status) : (noteStatus s w).position = w.position := by
  unfold noteStatus; split <;> rfl

@[simp] theorem basis_setStatus (s : Status) : (w.setStatus s).basis = w.basis := by
  unfold setStatus; exact basis_noteStatus _ _

@[simp] theorem task_setStatus (s : Status) : (w.setStatus s).life.task = w.life.task := by
  unfold setStatus; exact task_noteStatus _ _

@[simp] theorem basis_acknowledge : w.acknowledge.basis = w.basis := by
  show (sayAll _ _).basis = w.basis
  rw [basis_sayAll]
  show (setStatus _ _).basis = w.basis
  rw [basis_setStatus]
  split <;> rfl

@[simp] theorem task_acknowledge : w.acknowledge.life.task = w.life.task := by
  show (sayAll _ _).life.task = w.life.task
  rw [task_sayAll]
  show (setStatus _ _).life.task = w.life.task
  rw [task_setStatus]
  split <;> rfl

end Elementary

/-! ## Turns of the task -/

/-- What a stimulus itself tells of the task. -/
def occasion (x : Stimulus) (w : Watcher τ) : List Deed :=
  match x, w.position with
  | .begun, .created => [.began]
  | .reply c, .querying s _ => s.deeds w.detector (c (s.query w.detector))
  | .called _ left, .notifying d _ => [.told d.listener d.hook d.batch left]
  | .arrival (.text s), .receiving => [.handled s]
  | _, _ => []

/-- The store after a stimulus that the task has been waiting for: an answer may change it. -/
def storing (x : Stimulus) (w : Watcher τ) : Store :=
  match x, w.position with
  | .reply c, .querying s _ => (s.step w.detector w.store (c (s.query w.detector))).store
  | _, _ => w.store

variable [Scalar τ]

@[simp] theorem basis_readBreaker (now : τ) (w : Watcher τ) : (w.readBreaker now).basis = w.basis :=
  basis_sayAll { w with breaker := (w.breaker.read now).1 } _

@[simp] theorem task_readBreaker (now : τ) (w : Watcher τ) : (w.readBreaker now).life.task = w.life.task :=
  task_sayAll { w with breaker := (w.breaker.read now).1 } _

@[simp] theorem position_readBreaker (now : τ) (w : Watcher τ) : (w.readBreaker now).position = w.position :=
  position_sayAll { w with breaker := (w.breaker.read now).1 } _

/-- What the task makes of a stimulus that it has been waiting for. -/
def carryOn (now : τ) (x : Stimulus) (w : Watcher τ) : Option (Watcher τ) :=
  match x, w.position with
  | .begun, .created => some (w.begin now)
  | .reply c, .querying s after => some (w.answered now s after (c (s.query w.detector)))
  | .called o left, .notifying d e => some (w.notified now o left d e)
  | .opened result, .connecting => some (w.opened now result)
  | .sent result, .sending frame => some (w.sent now frame result)
  | .arrival a, .receiving => some (w.received now a)
  | .rested, .napping _ => some (w.rested now)
  | _, _ => none

/-- What the watcher makes of a stimulus. -/
def react (now : τ) (x : Stimulus) (w : Watcher τ) : Watcher τ :=
  match x with
  | .start => w.start
  | .stop => w.stop
  | .woken => { w with life := w.life.wake }
  | .asked => (w.health now).2
  | x => (w.carryOn now x).getD w

/-- What the task does about a stimulus. -/
def deeds (now : τ) (x : Stimulus) (w : Watcher τ) : List Deed :=
  match w.carryOn now x with
  | some w' => w.occasion x ++ w'.position.entering
  | none => []

/-- The watcher after a run. -/
def run (w : Watcher τ) : List (τ × Stimulus) → Watcher τ
  | [] => w
  | (now, x) :: xs => run (w.react now x) xs

/-- What the task, or one task after the other, has done in a run. -/
def history (w : Watcher τ) : List (τ × Stimulus) → List Deed
  | [] => []
  | (now, x) :: xs => w.deeds now x ++ history (w.react now x) xs

/-- The turn that the task takes when it gets what it has been waiting for. -/
inductive Turn (now : τ) (w : Watcher τ) : Stimulus → Watcher τ → Prop
  | begun : w.position = .created → Turn now w .begun (w.begin now)
  | reply {s : Sweep} {after : After} (c : Catalog) : w.position = .querying s after →
      Turn now w (.reply c) (w.answered now s after (c (s.query w.detector)))
  | called {d : Delivery} {e : Errand} (o : Outcome) (left : List Event) : w.position = .notifying d e →
      Turn now w (.called o left) (w.notified now o left d e)
  | opened (result : Except Fault Unit) : w.position = .connecting → Turn now w (.opened result) (w.opened now result)
  | sent {frame : Opening} (result : Except Fault Unit) : w.position = .sending frame →
      Turn now w (.sent result) (w.sent now frame result)
  | arrival (a : Arrival) : w.position = .receiving → Turn now w (.arrival a) (w.received now a)
  | rested {seconds : τ} : w.position = .napping seconds → Turn now w .rested (w.rested now)

variable {now : τ} {w w' : Watcher τ} {x : Stimulus}

theorem turn_of_carryOn (h : w.carryOn now x = some w') : Turn now w x w' := by
  unfold carryOn at h
  split at h
  · cases h; exact .begun ‹_›
  · cases h; exact .reply _ ‹_›
  · cases h; exact .called _ _ ‹_›
  · cases h; exact .opened _ ‹_›
  · cases h; exact .sent _ ‹_›
  · cases h; exact .arrival _ ‹_›
  · cases h; exact .rested ‹_›
  · cases h

/-- A watcher is touched from outside, or its task takes a turn, or nothing happens. -/
theorem react_cases (now : τ) (x : Stimulus) (w : Watcher τ) :
    (w.deeds now x = [] ∧ (w.react now x = w ∨ w.react now x = w.start ∨ w.react now x = w.stop ∨
      w.react now x = { w with life := w.life.wake } ∨ w.react now x = (w.health now).2)) ∨
    (Turn now w x (w.react now x) ∧ w.deeds now x = w.occasion x ++ (w.react now x).position.entering) := by
  cases hc : w.carryOn now x with
  | none =>
    refine Or.inl ⟨by rw [deeds, hc], ?_⟩
    cases x with
    | start => exact Or.inr (Or.inl rfl)
    | stop => exact Or.inr (Or.inr (Or.inl rfl))
    | woken => exact Or.inr (Or.inr (Or.inr (Or.inl rfl)))
    | asked => exact Or.inr (Or.inr (Or.inr (Or.inr rfl)))
    | _ => exact Or.inl (by simp [react, hc])
  | some w' =>
    have hturn := turn_of_carryOn hc
    have hr : w.react now x = w' := by
      cases hturn <;> simp [react, hc]
    exact Or.inr ⟨by rw [hr]; exact hturn, by rw [deeds, hc, hr]⟩

end Watcher

end MediaWatch
