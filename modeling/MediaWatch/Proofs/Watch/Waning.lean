import MediaWatch.Proofs.Watch.Crash
import MediaWatch.Proofs.Watch.Move

/-!
# What becomes of a session without a start

A watcher becomes active by a start and by nothing else, and it gets a task by a start or from a task that hands over in
a session that is active (`Lifecycle.Wanes`, `Watcher.wanes_react`). Whatever happens, an active watcher has a task
(`Lifecycle.Manned`).
-/

namespace MediaWatch

namespace Lifecycle

/-- An active session has a task. -/
def Manned (l : Lifecycle) : Prop := l.active = true → l.task ≠ none

/-- Whether a lifecycle can come of another one without a start. -/
structure Wanes (l l' : Lifecycle) : Prop where
  active : l'.active = true → l.active = true
  task : l.task = none → l'.task = none
  manned : l.Manned → l'.Manned

variable {l l' : Lifecycle}

theorem manned_of_inactive (hactive : l.active = false) : l.Manned := by
  intro h
  rw [hactive] at h
  cases h

/-- What leaves the session and the task alone. -/
theorem wanes_of_eq (hactive : l'.active = l.active) (htask : l'.task = l.task) : l.Wanes l' where
  active h := hactive ▸ h
  task h := htask.trans h
  manned h := by
    unfold Manned
    rw [hactive, htask]
    exact h

theorem Wanes.inactive (h : l.Wanes l') (hactive : l.active = false) : l'.active = false := by
  cases hactive' : l'.active with
  | false => rfl
  | true => exact (h.active hactive').symm.trans hactive

theorem wanes_refl (l : Lifecycle) : l.Wanes l := wanes_of_eq rfl rfl

/-- The end of a session leaves its task alone. -/
theorem wanes_of_inactive (hactive : l'.active = false) (htask : l.task = none → l'.task = none) : l.Wanes l' where
  active h := by
    rw [hactive] at h
    cases h
  task := htask
  manned _ := manned_of_inactive hactive

theorem wanes_stop (l : Lifecycle) : l.Wanes l.stop := wanes_of_inactive rfl id

/-- The end of a task: an active session goes on only with a new task. -/
theorem wanes_finish (l : Lifecycle) : l.Wanes l.finish.1 := by
  cases htask : l.task with
  | none =>
    rw [show l.finish.1 = l by simp [finish, htask]]
    exact wanes_refl l
  | some t =>
    have hsome : l.task ≠ none := by simp [htask]
    cases hactive : l.active with
    | false =>
      refine wanes_of_inactive ?_ fun h => absurd h hsome
      rw [finish_of_inactive hactive, if_neg hsome]
      exact hactive
    | true =>
      rcases finish_of_active htask hactive with ⟨-, hfinish⟩ | ⟨-, hfinish⟩
      · rw [hfinish]
        exact wanes_of_inactive rfl fun _ => rfl
      · rw [hfinish]
        exact ⟨fun _ => hactive, fun h => absurd h hsome, fun _ _ => by simp [spawn]⟩

/-- After a start there is a task. -/
theorem manned_start (h : l.Manned) : l.start.1.Manned := by
  rcases l.start_eq with ⟨-, hstart⟩ | ⟨-, htask, hstart⟩ | ⟨-, -, hstart⟩
  · rw [hstart]
    exact h
  · rw [hstart]
    exact fun _ => htask
  · rw [hstart]
    exact fun _ => by simp [spawn]

end Lifecycle

namespace Watcher

variable {τ : Type} {w : Watcher τ}

theorem life_start (w : Watcher τ) : w.start.life = w.life.start.1 := by
  unfold start
  cases hactive : w.life.active with
  | true => simp [Lifecycle.start, hactive]
  | false =>
    cases htask : w.life.task with
    | some t => simp [Lifecycle.start, hactive, htask, say, note]
    | none =>
      simp only [Lifecycle.start, hactive, htask, Bool.false_eq_true, if_false, Option.isSome_none]
      exact congrArg Condition.life (condition_noteStatus _ _)

theorem life_stop (w : Watcher τ) : w.stop.life = w.life.stop := congrArg Condition.life (condition_stop w)

theorem life_finish (w : Watcher τ) : w.finish.life = w.life.finish.1 :=
  congrArg Condition.life (condition_finish_eq w)

/-- A task that is cancelled has ended. -/
theorem life_cancel (w : Watcher τ) : w.cancel.life = w.life.finish.1 := by
  unfold cancel
  split
  · exact life_finish _
  · exact life_finish _

namespace Condition

variable [Scalar τ] {now : τ} {c c' : Condition τ}

theorem Looped.wanes (h : c.Looped now c') : c.life.Wanes c'.life := by
  cases h with
  | finished _ => exact c.life.wanes_finish
  | _ => exact Lifecycle.wanes_of_eq rfl rfl

theorem Onward.wanes {a : After} (h : c.Onward now a c') : c.life.Wanes c'.life := by
  cases h with
  | loops _ hlooped => exact hlooped.wanes
  | finished _ => exact c.life.wanes_finish
  | _ => exact Lifecycle.wanes_of_eq rfl rfl

theorem Passed.wanes (h : c.Passed now c') : c.life.Wanes c'.life := by
  cases h with
  | loops _ hlooped => exact hlooped.wanes
  | goesOn _ honward => exact honward.wanes
  | _ => exact Lifecycle.wanes_of_eq rfl rfl

/-- A watcher that gives up has ended its session before its task ends. -/
theorem SessionEnd.wanes (h : c.SessionEnd now c') : c.life.Wanes c'.life := by
  cases h with
  | finished _ => exact c.life.wanes_finish
  | givesUp _ _ _ =>
    have hfinish := Lifecycle.wanes_finish { c.life with active := false, status := .failed }
    exact Lifecycle.wanes_of_inactive (hfinish.inactive rfl) hfinish.task
  | _ => exact Lifecycle.wanes_of_eq rfl rfl

theorem Touched.wanes {x : Stimulus} (h : c.Touched now x c') (hx : x ≠ .start) : c.life.Wanes c'.life := by
  cases h with
  | starts hstart => exact absurd hstart hx
  | resumes hstart => exact absurd hstart hx
  | stops _ => exact c.life.wanes_stop
  | _ => exact Lifecycle.wanes_of_eq rfl rfl

end Condition

variable [Scalar τ]

/-- **No session without a start.** -/
theorem wanes_react (now : τ) {x : Stimulus} (hx : x ≠ .start) : w.life.Wanes (w.react now x).life := by
  cases move now x w with
  | touched _ _ _ htouched => exact htouched.wanes hx
  | passed _ _ _ hpassed => exact hpassed.wanes
  | acknowledged _ _ _ _ _ honward =>
    obtain ⟨hactive, htask, hmanned⟩ := honward.wanes
    exact ⟨hactive, htask, hmanned⟩
  | catchesUp _ _ _ _ _ hreact =>
    rw [show (w.react now x).life = _ from congrArg Condition.life hreact]
    exact Lifecycle.wanes_of_eq rfl rfl
  | ended _ _ _ hended => exact hended.wanes

theorem manned_react (h : w.life.Manned) (now : τ) (x : Stimulus) : (w.react now x).life.Manned := by
  by_cases hx : x = .start
  · rw [hx]
    show w.start.life.Manned
    rw [life_start]
    exact Lifecycle.manned_start h
  · exact (wanes_react now hx).manned h

end Watcher

end MediaWatch
