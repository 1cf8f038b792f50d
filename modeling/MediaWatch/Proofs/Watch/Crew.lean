import MediaWatch.Text
import MediaWatch.Watch.Lifecycle

/-!
# The tasks of a watcher

A `Crew` is the lifecycle of a watcher together with the tasks that an event loop has not finished for it, however many
there are, and the calls that wait for the watcher. Its steps are what can happen between two points at which a task
waits: sessions start and stop, a task works, ends or gives up, and calls of `join` wait or return. What a task does
in between is left open, but for the flag and the task, which it does not touch, and for the statuses of a watcher that
has ended, which it sets only when it gives up.

Every crew that can be reached is sound (`Crew.reachable_sound`): the watcher's task is the only unfinished one, and it
is there whenever the session is active.
-/

namespace MediaWatch

/-- A watcher's lifecycle with the tasks of its event loop. -/
structure Crew where
  life : Lifecycle
  unfinished : List Task
  /-- The task that each pending call of `join` waits for. -/
  awaited : List Task
  deriving Repr, DecidableEq

namespace Crew

/-- A watcher that was never started. -/
def initial : Crew := ⟨.initial, [], []⟩

/-- The lifecycle as a start finds it: a task that has ended counts as none. -/
def known (c : Crew) : Lifecycle := { c.life with task := c.life.task.filter (· ∈ c.unfinished) }

/-- Starts a session. -/
def start (c : Crew) : Crew :=
  match c.known.start with
  | (_, .already) => c
  | (life, .resumed) => { c with life }
  | (life, .created) => { c with life, unfinished := c.unfinished ++ life.task.toList }

/-- Stops the session. -/
def stop (c : Crew) : Crew := { c with life := c.life.stop }

/-- A task ends. -/
def finish (t : Task) (c : Crew) : Crew :=
  match c.life.settle t with
  | (life, .handedOver) => { c with life, unfinished := c.unfinished.erase t ++ life.task.toList }
  | (life, _) => { c with life, unfinished := c.unfinished.erase t }

/-- A task gives up, which it does right before it ends. -/
def giveUp (t : Task) (c : Crew) : Crew := finish t { c with life := { c.life.clearFlag with status := .failed } }

/-! ## Steps -/

/-- What can happen to a crew. -/
inductive Move where
  | start
  | stop
  /-- A posted callback runs. -/
  | wake
  /-- A task begins a sleep. -/
  | sleep (t : Task)
  /-- A task sets the status on its way. -/
  | work (t : Task) (s : Status)
  /-- A task returns, or raises an exception for some reason. -/
  | finish (t : Task) (raised : Option Text)
  | giveUp (t : Task)
  /-- A call of `join` waits for a task. -/
  | await (t : Task)
  /-- A call of `join` returns. -/
  | joined
  deriving Repr, DecidableEq

/-- One step. A call of `join` looks at the task when it is made and whenever the task that it waits for has ended. -/
inductive Step : Crew → Move → Crew → Prop
  | start (c : Crew) : Step c .start c.start
  | stop (c : Crew) : Step c .stop c.stop
  | wake (c : Crew) : Step c .wake { c with life := c.life.wake }
  | sleep {c : Crew} {t : Task} : t ∈ c.unfinished → Step c (.sleep t) { c with life := c.life.beginSleep }
  | work {c : Crew} {t : Task} {s : Status} : t ∈ c.unfinished → s ≠ .failed → s ≠ .stopped →
      Step c (.work t s) { c with life := { c.life with status := s } }
  | finish {c : Crew} {t : Task} (raised : Option Text) : t ∈ c.unfinished → Step c (.finish t raised) (c.finish t)
  | giveUp {c : Crew} {t : Task} : t ∈ c.unfinished → Step c (.giveUp t) (c.giveUp t)
  | await {c : Crew} {t : Task} : c.life.task = some t → Step c (.await t) { c with awaited := t :: c.awaited }
  | awaitNext {c : Crew} {t next : Task} : t ∈ c.awaited → t ∉ c.unfinished → c.life.task = some next →
      Step c (.await next) { c with awaited := next :: c.awaited.erase t }
  | joinedAtOnce {c : Crew} : c.life.task = none → Step c .joined c
  | joined {c : Crew} {t : Task} : t ∈ c.awaited → t ∉ c.unfinished → c.life.task = none →
      Step c .joined { c with awaited := c.awaited.erase t }

/-- The crews of a watcher, after any steps in any order. -/
inductive Reachable : Crew → Prop
  | initial : Reachable initial
  | step {c c' : Crew} {m : Move} : Reachable c → Step c m c' → Reachable c'

/-! ## The invariant -/

/-- The watcher's task is the only unfinished one. It is there whenever the session is active, it is not there when the
status says that the watcher has ended, and it belongs to a session so far. -/
structure Sound (c : Crew) : Prop where
  sole : c.unfinished = c.life.task.toList
  manned : c.life.active = true → c.life.task ≠ none
  ended : c.life.status = .failed ∨ c.life.status = .stopped → c.life.task = none
  numbered : ∀ t, c.life.task = some t → t.number < c.life.tasks ∧ t.session ≤ c.life.generation

theorem initial_sound : initial.Sound := ⟨rfl, by simp [initial, Lifecycle.initial], fun _ => rfl, fun _ h => by cases h⟩

variable {c : Crew}

/-- A start finds the lifecycle as it is. -/
theorem Sound.known_eq (h : c.Sound) : c.known = c.life := by
  have hfilter : c.life.task.filter (· ∈ c.unfinished) = c.life.task := by
    rw [h.sole]
    cases c.life.task <;> simp
  rw [known, hfilter]

/-- The unfinished task is the watcher's. -/
theorem Sound.task_eq (h : c.Sound) {t : Task} (ht : t ∈ c.unfinished) : c.life.task = some t := by
  rw [h.sole] at ht
  simpa using ht

theorem Sound.erase_eq (h : c.Sound) {t : Task} (ht : t ∈ c.unfinished) : c.unfinished.erase t = [] := by
  rw [h.sole, h.task_eq ht]
  simp

/-- What a start does: nothing to an active session, or it lets the unfinished task carry on, or it creates one. -/
theorem Sound.start_cases (h : c.Sound) :
    (c.life.active = true ∧ c.start = c) ∨
    (c.life.active = false ∧ c.life.task ≠ none ∧
      c.start = { c with life := { c.life with active := true, generation := c.life.generation + 1 } }) ∨
    (c.life.active = false ∧ c.life.task = none ∧
      c.start =
        { c with
          life := ({ c.life with active := true, generation := c.life.generation + 1, status := .starting }).spawn
          unfinished := [⟨c.life.tasks, c.life.generation + 1⟩] }) := by
  rw [start, h.known_eq]
  cases hactive : c.life.active with
  | true => exact Or.inl ⟨rfl, by simp [Lifecycle.start, hactive]⟩
  | false =>
    refine Or.inr ?_
    cases htask : c.life.task with
    | some t => exact Or.inl ⟨rfl, by simp, by simp [Lifecycle.start, hactive, htask]⟩
    | none => exact Or.inr ⟨rfl, rfl, by simp [Lifecycle.start, hactive, htask, h.sole, Lifecycle.spawn]⟩

theorem Sound.start (h : c.Sound) : c.start.Sound := by
  rcases h.start_cases with ⟨-, hs⟩ | ⟨-, htask, hs⟩ | ⟨-, -, hs⟩
  · rw [hs]; exact h
  · rw [hs]
    exact ⟨h.sole, fun _ => htask, h.ended, fun t ht => ⟨(h.numbered t ht).1, Nat.le_succ_of_le (h.numbered t ht).2⟩⟩
  · rw [hs]
    refine ⟨rfl, by simp [Lifecycle.spawn], by simp [Lifecycle.spawn], fun t ht => ?_⟩
    cases ht
    exact ⟨Nat.lt_succ_self _, Nat.le_refl _⟩

/-- What the end of the task does: it hands over to a new one if a session has started in between, and otherwise there is
no task any more. -/
theorem Sound.finish_cases (h : c.Sound) {t : Task} (ht : t ∈ c.unfinished) :
    (c.life.active = true ∧ t.session ≠ c.life.generation ∧
      c.finish t = { c with life := c.life.spawn, unfinished := [⟨c.life.tasks, c.life.generation⟩] }) ∨
    (∃ s, (c.life.active = false ∨ t.session = c.life.generation) ∧
      c.finish t = { c with life := { c.life with active := false, task := none, status := s }, unfinished := [] }) := by
  rw [finish, Lifecycle.settle]
  cases hactive : c.life.active with
  | true =>
    by_cases hsession : t.session = c.life.generation
    · exact Or.inr ⟨.failed, Or.inr hsession, by simp [hsession, h.erase_eq ht]⟩
    · exact Or.inl ⟨rfl, hsession, by simp [hsession, h.erase_eq ht, Lifecycle.spawn]⟩
  | false =>
    exact Or.inr ⟨if c.life.status = .failed then .failed else .stopped, Or.inl rfl, by simp [h.erase_eq ht]⟩

theorem Sound.finish (h : c.Sound) {t : Task} (ht : t ∈ c.unfinished) : (c.finish t).Sound := by
  rcases h.finish_cases ht with ⟨-, -, hf⟩ | ⟨s, -, hf⟩
  · rw [hf]
    refine ⟨rfl, by simp [Lifecycle.spawn], fun hs => ?_, fun t' ht' => ?_⟩
    · have hnone := h.ended hs
      rw [h.task_eq ht] at hnone
      cases hnone
    · cases ht'
      exact ⟨Nat.lt_succ_self _, Nat.le_refl _⟩
  · rw [hf]
    exact ⟨rfl, by simp, fun _ => rfl, fun _ ht' => by cases ht'⟩

/-- A task that gives up leaves no task behind. -/
theorem Sound.giveUp_eq (h : c.Sound) {t : Task} (ht : t ∈ c.unfinished) :
    c.giveUp t =
      { c with life := { c.life with active := false, task := none, status := .failed }, unfinished := [] } := by
  simp [giveUp, Crew.finish, Lifecycle.settle, Lifecycle.clearFlag, h.erase_eq ht]

/-- One step keeps a crew sound. -/
theorem step_sound {c' : Crew} {m : Move} (hs : Step c m c') (h : c.Sound) : c'.Sound := by
  cases hs with
  | start => exact h.start
  | stop => exact ⟨h.sole, (fun ha => by cases ha), h.ended, h.numbered⟩
  | wake => exact ⟨h.sole, h.manned, h.ended, h.numbered⟩
  | sleep _ => exact ⟨h.sole, h.manned, h.ended, h.numbered⟩
  | work _ hfailed hstopped =>
    exact ⟨h.sole, h.manned, fun hs => absurd hs (by simp [hfailed, hstopped]), h.numbered⟩
  | finish _ ht => exact h.finish ht
  | giveUp ht => rw [h.giveUp_eq ht]; exact ⟨rfl, by simp, fun _ => rfl, fun _ ht' => by cases ht'⟩
  | await _ => exact ⟨h.sole, h.manned, h.ended, h.numbered⟩
  | awaitNext _ _ _ => exact ⟨h.sole, h.manned, h.ended, h.numbered⟩
  | joinedAtOnce _ => exact h
  | joined _ _ _ => exact ⟨h.sole, h.manned, h.ended, h.numbered⟩

/-- Every crew that can be reached is sound. -/
theorem reachable_sound (h : Reachable c) : c.Sound := by
  induction h with
  | initial => exact initial_sound
  | step _ hs ih => exact step_sound hs ih

/-- An active session has one unfinished task, which is the watcher's. -/
theorem Sound.exists_task (h : c.Sound) (ha : c.life.active = true) :
    ∃ t, c.unfinished = [t] ∧ c.life.task = some t := by
  obtain ⟨t, ht⟩ := Option.ne_none_iff_exists'.mp (h.manned ha)
  exact ⟨t, by rw [h.sole, ht]; rfl, ht⟩

/-- Without a task the session is not active and nothing is unfinished. -/
theorem Sound.idle (h : c.Sound) (ht : c.life.task = none) : c.life.active = false ∧ c.unfinished = [] := by
  refine ⟨?_, by rw [h.sole, ht]; rfl⟩
  cases ha : c.life.active with
  | false => rfl
  | true => exact absurd ht (h.manned ha)

/-- A session that starts while an old task winds down gets a task of its own when that one ends. -/
theorem Sound.restart (h : c.Sound) {t : Task} (ha : c.life.active = false) (ht : c.unfinished = [t]) :
    (c.start.finish t).life.active = true ∧ ∃ next, next ≠ t ∧ (c.start.finish t).unfinished = [next] ∧
      (c.start.finish t).life.task = some next ∧ next.session = (c.start.finish t).life.generation := by
  have hmem : t ∈ c.unfinished := by rw [ht]; exact List.mem_singleton_self t
  have htask := h.task_eq hmem
  have hnumber := h.numbered t htask
  rcases h.start_cases with ⟨ha', -⟩ | ⟨-, -, hs⟩ | ⟨-, hnone, -⟩
  · rw [ha] at ha'; cases ha'
  · have hmem' : t ∈ c.start.unfinished := by rw [hs]; exact hmem
    have hgeneration : c.start.life.generation = c.life.generation + 1 := by rw [hs]
    rcases h.start.finish_cases hmem' with ⟨hactive, -, hf⟩ | ⟨s, hno, -⟩
    · rw [hf]
      refine ⟨hactive, _, fun heq => ?_, rfl, rfl, rfl⟩
      have hlt := hnumber.1
      rw [← heq, hs] at hlt
      exact absurd hlt (Nat.lt_irrefl _)
    · rcases hno with hno | hno
      · rw [hs] at hno; cases hno
      · omega
  · rw [htask] at hnone; cases hnone

/-! ## One task at a time -/

/-- **One task at a time.** Whatever has happened to a watcher, at most one task is unfinished; an active session has one,
which is the watcher's; the statuses of a watcher that has ended are those of an inactive one without a task; and a call
of `join` returns only when nothing is unfinished. A session that starts is active and has its task, also if an old one
is winding down, and keeps one when that ends. -/
theorem one_task (h : Reachable c) :
    c.unfinished.length ≤ 1 ∧
    (c.life.active = true → ∃ t, c.unfinished = [t] ∧ c.life.task = some t) ∧
    (c.life.status = .failed ∨ c.life.status = .stopped → c.life.active = false ∧ c.unfinished = []) ∧
    (∀ c', Step c .joined c' → c.unfinished = [] ∧ c'.unfinished = []) ∧
    (c.start.life.active = true ∧ ∃ t, c.start.unfinished = [t] ∧ c.start.life.task = some t) ∧
    (∀ t, c.life.active = false → c.unfinished = [t] →
      (c.start.finish t).life.active = true ∧ ∃ next, next ≠ t ∧ (c.start.finish t).unfinished = [next] ∧
        (c.start.finish t).life.task = some next ∧ next.session = (c.start.finish t).life.generation) := by
  have hsound := reachable_sound h
  have hstarted : c.start.life.active = true := by
    rcases hsound.start_cases with ⟨ha, hs⟩ | ⟨-, -, hs⟩ | ⟨-, -, hs⟩
    · rw [hs]; exact ha
    · rw [hs]
    · rw [hs]; rfl
  refine ⟨?_, hsound.exists_task, fun hs => hsound.idle (hsound.ended hs), fun c' hj => ?_,
    ⟨hstarted, hsound.start.exists_task hstarted⟩, fun t => hsound.restart⟩
  · rw [hsound.sole]
    cases c.life.task <;> simp
  · cases hj with
    | joinedAtOnce hnone => exact ⟨(hsound.idle hnone).2, (hsound.idle hnone).2⟩
    | joined _ _ hnone => exact ⟨(hsound.idle hnone).2, (hsound.idle hnone).2⟩

/-- A session that starts between the stop and the end of the first task is handed the second one. -/
theorem one_task_after_restart :
    let c := (initial.start.stop.start).finish ⟨0, 1⟩
    Reachable c ∧ ∃ t, c.unfinished = [t] ∧ c.life.task = some t := by
  intro c
  have hstart : Reachable initial.start.stop.start :=
    ((Reachable.initial.step (.start _)).step (.stop _)).step (.start _)
  have hreach : Reachable c := hstart.step (.finish none (by decide))
  exact ⟨hreach, (one_task hreach).2.1 rfl⟩

end Crew

end MediaWatch
