import Mathlib.Data.List.Induction
import MediaWatch.Text
import MediaWatch.Watch.Lifecycle

/-!
# Crashes

What becomes of a watcher whose task ends while its session is active. The history of the watcher up to then is a list
of incidents, which leaves open what a task does on its way: it may set any status and may end the session itself.
What decides is whether the session has been ended since the task was created
(`Lifecycle.crash_restarted_iff_interrupted`). A task in whose time it was not, fails the watcher for good. One that
has carried on through an end of the session and a new start is taken for a task that was winding down, and is
replaced, however it ends (`Lifecycle.resumed_run_restarted`).
-/

namespace MediaWatch

namespace Lifecycle

/-- What can happen to a watcher. -/
inductive Incident where
  | start
  | stop
  /-- A posted callback runs. -/
  | wake
  /-- The task begins a sleep. -/
  | sleep
  /-- The task sets the status. -/
  | work (s : Status)
  /-- The task ends the session on its way. -/
  | deactivate
  /-- The task returns, or raises an exception for some reason. -/
  | finish (raised : Option Text)
  deriving Repr, DecidableEq

/-- Whether an incident ends the session. -/
def Incident.interrupts : Incident → Bool
  | .stop | .deactivate => true
  | _ => false

/-- Whether an incident is the end of the task. -/
def Incident.isFinish : Incident → Bool
  | .finish _ => true
  | _ => false

/-- The lifecycle after an incident. -/
def meet (l : Lifecycle) : Incident → Lifecycle
  | .start => l.start.1
  | .stop => l.stop
  | .wake => l.wake
  | .sleep => l.beginSleep
  | .work s => { l with status := s }
  | .deactivate => l.clearFlag
  | .finish _ => l.finish.1

/-- The lifecycle of a watcher after a history of incidents. -/
def past (es : List Incident) : Lifecycle := es.foldl meet initial

theorem past_snoc (es : List Incident) (e : Incident) : past (es ++ [e]) = (past es).meet e := by
  rw [past, List.foldl_append]
  rfl

/-! ## Creating a task and carrying on with it -/

/-- A start is one of an active session, or lets the unfinished task carry on, or creates a task. -/
theorem start_eq (l : Lifecycle) :
    (l.active = true ∧ l.start.1 = l) ∨
    (l.active = false ∧ l.task ≠ none ∧ l.start.1 = { l with active := true, generation := l.generation + 1 }) ∨
    (l.active = false ∧ l.task = none ∧
      l.start.1 = spawn { l with active := true, generation := l.generation + 1, status := .starting }) := by
  cases hactive : l.active with
  | true => exact Or.inl ⟨rfl, by simp [start, hactive]⟩
  | false =>
    refine Or.inr ?_
    cases htask : l.task with
    | some t => exact Or.inl ⟨rfl, by simp, by simp [start, hactive, htask]⟩
    | none => exact Or.inr ⟨rfl, rfl, by simp [start, hactive, htask]⟩

/-- The end of a task in an active session: one of this session has crashed, one of an earlier session hands over. -/
theorem finish_of_active {l : Lifecycle} {t : Task} (htask : l.task = some t) (hactive : l.active = true) :
    (t.session = l.generation ∧ l.finish = ({ l with task := none, active := false, status := .failed }, .crashed)) ∨
    (t.session ≠ l.generation ∧ l.finish = (l.spawn, .handedOver)) := by
  by_cases hsession : t.session = l.generation
  · exact Or.inl ⟨hsession, by simp [finish, settle, htask, hactive, hsession]⟩
  · exact Or.inr ⟨hsession, by simp [finish, settle, htask, hactive, hsession]⟩

/-- The end of a task in an inactive session leaves no task. -/
theorem task_finish_of_inactive {l : Lifecycle} (hactive : l.active = false) : l.finish.1.task = none := by
  cases htask : l.task with
  | none => simp [finish, htask]
  | some t => simp [finish, settle, htask, hactive]

/-- A lifecycle whose task `t` has carried on with `since`, from its creation until now. -/
structure Carries (l : Lifecycle) (t : Task) (since : List Incident) : Prop where
  task : l.task = some t
  numbered : t.number < l.tasks
  session : t.session ≤ l.generation
  /-- The session that the task was created for is still the one at hand, unless something has ended it. -/
  unbroken : (∀ e ∈ since, e.interrupts = false) → l.active = true ∧ t.session = l.generation
  /-- A session that is active although the first one was ended is a later one. -/
  broken : (∃ e ∈ since, e.interrupts = true) → l.active = true → t.session < l.generation
  unfinished : ∀ e ∈ since, e.isFinish = false

/-- A task that is created for an active session. -/
theorem carries_spawn {l : Lifecycle} (hactive : l.active = true) :
    l.spawn.Carries ⟨l.tasks, l.generation⟩ [] :=
  ⟨rfl, Nat.lt_succ_self _, Nat.le_refl _, fun _ => ⟨hactive, rfl⟩, by simp, by simp⟩

variable {l l' : Lifecycle} {t : Task} {since : List Incident} {e : Incident}

/-- An incident that leaves the flag and the generation as they are. -/
theorem Carries.quiet (h : l.Carries t since) (htask : l'.task = l.task) (htasks : l'.tasks = l.tasks)
    (hgeneration : l'.generation = l.generation) (hactive : l'.active = l.active) (he : e.interrupts = false)
    (hfinish : e.isFinish = false) : l'.Carries t (since ++ [e]) := by
  refine ⟨htask.trans h.task, by rw [htasks]; exact h.numbered, by rw [hgeneration]; exact h.session, fun hall => ?_,
    fun hex => ?_, List.forall_mem_append.mpr ⟨h.unfinished, by simpa using hfinish⟩⟩
  · rw [hactive, hgeneration]
    exact h.unbroken fun e he => hall e (List.mem_append_left _ he)
  · rw [hactive, hgeneration]
    obtain ⟨e', hmem, he'⟩ := hex
    rcases List.mem_append.mp hmem with hmem | hmem
    · exact h.broken ⟨e', hmem, he'⟩
    · rw [List.mem_singleton.mp hmem, he] at he'
      cases he'

/-- An incident that ends the session. -/
theorem Carries.interrupted (h : l.Carries t since) (htask : l'.task = l.task) (htasks : l'.tasks = l.tasks)
    (hgeneration : l'.generation = l.generation) (hactive : l'.active = false) (he : e.interrupts = true)
    (hfinish : e.isFinish = false) : l'.Carries t (since ++ [e]) := by
  refine ⟨htask.trans h.task, by rw [htasks]; exact h.numbered, by rw [hgeneration]; exact h.session, fun hall => ?_,
    fun _ ha => ?_, List.forall_mem_append.mpr ⟨h.unfinished, by simpa using hfinish⟩⟩
  · rw [hall e (by simp)] at he
    cases he
  · rw [hactive] at ha
    cases ha

/-- A start that the task carries on through. -/
theorem Carries.start (h : l.Carries t since) : l.start.1.Carries t (since ++ [.start]) := by
  rcases l.start_eq with ⟨-, hs⟩ | ⟨hactive, -, hs⟩ | ⟨-, hnone, -⟩
  · exact h.quiet (by rw [hs]) (by rw [hs]) (by rw [hs]) (by rw [hs]) rfl rfl
  · rw [hs]
    refine ⟨h.task, h.numbered, Nat.le_succ_of_le h.session, fun hall => ?_, fun _ _ => Nat.lt_succ_of_le h.session,
      List.forall_mem_append.mpr ⟨h.unfinished, by simp [Incident.isFinish]⟩⟩
    -- the session was not active before, so something has ended it
    have hstill := (h.unbroken fun e he => hall e (List.mem_append_left _ he)).1
    rw [hactive] at hstill
    cases hstill
  · rw [h.task] at hnone
    cases hnone

/-- A task carries on through anything but its end. -/
theorem Carries.meet (h : l.Carries t since) (hfinish : e.isFinish = false) : (l.meet e).Carries t (since ++ [e]) := by
  cases e with
  | start => exact h.start
  | stop => exact h.interrupted rfl rfl rfl rfl rfl rfl
  | wake => exact h.quiet rfl rfl rfl rfl rfl rfl
  | sleep => exact h.quiet rfl rfl rfl rfl rfl rfl
  | work s => exact h.quiet rfl rfl rfl rfl rfl rfl
  | deactivate => exact h.interrupted rfl rfl rfl rfl rfl rfl
  | finish raised => cases hfinish

/-- Where there is no task, a start alone creates one. -/
theorem carries_meet (hnone : l.task = none) (htask : (l.meet e).task = some t) (hfinish : e.isFinish = false) :
    (l.meet e).Carries t [] := by
  cases e with
  | start =>
    have hstart : (l.meet .start) = l.start.1 := rfl
    rw [hstart] at htask ⊢
    rcases l.start_eq with ⟨-, hs⟩ | ⟨-, hsome, -⟩ | ⟨-, -, hs⟩
    · rw [hs, hnone] at htask
      cases htask
    · exact absurd hnone hsome
    · rw [hs] at htask ⊢
      cases htask
      exact carries_spawn rfl
  | finish raised => cases hfinish
  | _ => exact absurd (hnone.symm.trans htask) (by simp)

/-- The end of a task leaves none, or a new one for the session at hand. -/
theorem carries_finish (htask : l.finish.1.task = some t) (hold : ∀ t', l.task = some t' → t'.number < l.tasks) :
    l.task ≠ some t ∧ l.finish.1.Carries t [] := by
  cases hactive : l.active with
  | false =>
    rw [task_finish_of_inactive hactive] at htask
    cases htask
  | true =>
    cases hl : l.task with
    | none =>
      simp only [finish, hl] at htask
      cases htask
    | some t' =>
      rcases finish_of_active hl hactive with ⟨-, hf⟩ | ⟨-, hf⟩
      · rw [hf] at htask
        cases htask
      · rw [hf] at htask ⊢
        cases htask
        refine ⟨fun heq => ?_, carries_spawn hactive⟩
        have hlt := hold t' hl
        rw [Option.some.inj heq] at hlt
        exact absurd hlt (Nat.lt_irrefl _)

/-! ## Histories -/

/-- A history whose last incident has created the task. -/
def Creates (es : List Incident) (t : Task) : Prop :=
  ∃ earlier e, es = earlier ++ [e] ∧ (past earlier).task ≠ some t ∧ (past es).task = some t

/-- The unfinished task was created at some time, and has carried on since. -/
theorem exists_creation (es : List Incident) (h : (past es).task = some t) :
    ∃ before since, es = before ++ since ∧ Creates before t ∧ (past es).Carries t since := by
  induction es using List.reverseRecOn generalizing t with
  | nil => cases h
  | append_singleton es e ih =>
    rw [past_snoc] at h
    cases hfinish : e.isFinish with
    | true =>
      cases e with
      | finish raised =>
        obtain ⟨hne, hcarries⟩ := carries_finish h fun t' ht' => by
          obtain ⟨_, _, -, -, hc⟩ := ih ht'
          exact hc.numbered
        exact ⟨es ++ [.finish raised], [], by simp, ⟨es, _, rfl, hne, by rw [past_snoc]; exact h⟩,
          by rw [past_snoc]; exact hcarries⟩
      | _ => cases hfinish
    | false =>
      cases hl : (past es).task with
      | some t' =>
        obtain ⟨before, since, hes, hcreates, hcarries⟩ := ih hl
        have hnext := hcarries.meet hfinish
        have htt : t' = t := Option.some.inj (hnext.task.symm.trans h)
        subst htt
        exact ⟨before, since ++ [e], by rw [hes, List.append_assoc], hcreates, by rw [past_snoc]; exact hnext⟩
      | none =>
        exact ⟨es ++ [e], [], by simp, ⟨es, e, rfl, by simp [hl], by rw [past_snoc]; exact h⟩,
          by rw [past_snoc]; exact carries_meet hl h hfinish⟩

/-! ## What a crash leads to -/

/-- **A crash is restarted if and only if the session was ended in the task's time.** Whatever has happened to a
watcher, its unfinished task was created at some time and has not ended since. If the session is active and the task
ends now: when nothing has ended the session since the task was created, there is no task any more, the session is
over and the watcher has failed; when something has, there is a new task, and the session goes on with the status as
it was. -/
theorem crash_restarted_iff_interrupted (es : List Incident) (t : Task) (htask : (past es).task = some t)
    (hactive : (past es).active = true) :
    ∃ before since, es = before ++ since ∧ Creates before t ∧ (∀ e ∈ since, e.isFinish = false) ∧
      ∀ raised,
        ((∀ e ∈ since, e.interrupts = false) →
          (past (es ++ [.finish raised])).task = none ∧ (past (es ++ [.finish raised])).active = false ∧
            (past (es ++ [.finish raised])).status = .failed ∧
            (past (es ++ [.finish raised])).tasks = (past es).tasks) ∧
        ((∃ e ∈ since, e.interrupts = true) →
          ∃ next, next ≠ t ∧ (past (es ++ [.finish raised])).task = some next ∧
            (past (es ++ [.finish raised])).active = true ∧
            (past (es ++ [.finish raised])).status = (past es).status) := by
  obtain ⟨before, since, hes, hcreates, hcarries⟩ := exists_creation es htask
  refine ⟨before, since, hes, hcreates, hcarries.unfinished, fun raised => ⟨fun hall => ?_, fun hex => ?_⟩⟩
  · have hsession := (hcarries.unbroken hall).2
    rcases finish_of_active htask hactive with ⟨-, hf⟩ | ⟨hne, -⟩
    · rw [past_snoc]
      simp only [meet, hf, and_self]
    · exact absurd hsession hne
  · have hsession := hcarries.broken hex hactive
    rcases finish_of_active htask hactive with ⟨heq, -⟩ | ⟨-, hf⟩
    · exact absurd heq (Nat.ne_of_lt hsession)
    · rw [past_snoc]
      simp only [meet, hf]
      refine ⟨_, fun heq => ?_, rfl, hactive, rfl⟩
      have hlt := hcarries.numbered
      rw [← heq] at hlt
      exact absurd hlt (Nat.lt_irrefl _)

/-- A run that is stopped and started while it sleeps, and then raises an exception. -/
def resumed : List Incident := [.start, .work .idle, .sleep, .stop, .start]

/-- The run is followed by another one, in a session that goes on. -/
theorem resumed_run_restarted :
    (past resumed).task = some ⟨0, 1⟩ ∧ (past resumed).active = true ∧
      (past (resumed ++ [.finish (some "broken loop")])).task = some ⟨1, 2⟩ ∧
      (past (resumed ++ [.finish (some "broken loop")])).active = true ∧
      (past (resumed ++ [.finish (some "broken loop")])).status ≠ .failed := by
  decide

/-- The session of that run has been ended in the run's time. -/
theorem interrupted_of_resumed_run_restarted :
    (past resumed).task = some ⟨0, 1⟩ ∧ (past resumed).active = true ∧
      ∃ before since, resumed = before ++ since ∧ Creates before ⟨0, 1⟩ ∧ (∀ e ∈ since, e.isFinish = false) ∧
        ∃ e ∈ since, e.interrupts = true := by
  obtain ⟨before, since, hes, hcreates, hsince, hcrash⟩ := crash_restarted_iff_interrupted resumed ⟨0, 1⟩ rfl rfl
  refine ⟨rfl, rfl, before, since, hes, hcreates, hsince, ?_⟩
  cases hany : since.any Incident.interrupts with
  | true => exact List.any_eq_true.mp hany
  | false =>
    -- otherwise there would be no task after the crash
    have hnone := ((hcrash (some "broken loop")).1 (by simpa using hany)).1
    exact absurd hnone (by decide)

end Lifecycle

end MediaWatch
