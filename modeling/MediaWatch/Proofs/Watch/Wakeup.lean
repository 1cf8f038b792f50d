import MediaWatch.Proofs.Watch.Quiet

/-!
# No lost wakeup

A `Nap` is the lifecycle of a watcher together with what its two steps of stopping and the three of falling asleep leave
open: where the task stands on its way into a sleep, and the stops that have cleared the flag and have not posted their
callback yet. Its moves are those of the task, of the event loop, and of any thread that stops the watcher. Between the
look at the flag and the wait nothing runs on the loop, but other threads go on.

A stop that the task may miss is never forgotten: its callback is still to be posted or to run, or it has set the wakeup
(`Nap.reachable_sound`). So a stopped task does not sleep until its time is up (`Nap.no_lost_wakeup`).
-/

namespace MediaWatch

/-- Where a task stands on its way into a sleep. -/
inductive Nap.Stage where
  | awake
  /-- It has found the flag set, and has not cleared the wakeup yet. -/
  | looked
  | asleep
  deriving Repr, DecidableEq

/-- A watcher's lifecycle while its task takes naps. -/
structure Nap where
  life : Lifecycle
  stage : Nap.Stage
  /-- The number of stops that have cleared the flag and have not posted their callback. -/
  halfway : Nat
  deriving Repr, DecidableEq

namespace Nap

/-- A watcher that was never started. -/
def initial : Nap := ⟨.initial, .awake, 0⟩

/-! ## Moves -/

/-- What can happen around a nap. -/
inductive Move where
  /-- The task looks at the flag. -/
  | look
  /-- The task clears the wakeup and waits for it. -/
  | doze
  /-- The wakeup ends the sleep. -/
  | rouse
  /-- The sleep ends without the wakeup: its time is up, or the task is cancelled. -/
  | lapse
  /-- The task sets the status on its way. -/
  | work (s : Status)
  /-- The task clears the flag of its own accord. -/
  | giveUp
  | finish
  /-- A stop takes its first step, in whatever thread. -/
  | clearFlag
  /-- A stop takes its second step. -/
  | post
  /-- A posted callback runs. -/
  | callback
  | start
  deriving Repr, DecidableEq

/-- One step. Callbacks and starts are steps of the event loop, which does nothing else while the task is on its way
from its look at the flag to its sleep. -/
inductive Step : Nap → Move → Nap → Prop
  | look {n : Nap} : n.stage = .awake → n.life.task ≠ none → n.life.active = true →
      Step n .look { n with stage := .looked }
  /-- A task whose session is over does not lie down. -/
  | pass {n : Nap} : n.stage = .awake → n.life.task ≠ none → n.life.active = false → Step n .look n
  | doze {n : Nap} : n.stage = .looked → Step n .doze { n with life := n.life.beginSleep, stage := .asleep }
  | rouse {n : Nap} : n.stage = .asleep → n.life.wakeup = true → Step n .rouse { n with stage := .awake }
  | lapse {n : Nap} : n.stage = .asleep → Step n .lapse { n with stage := .awake }
  | work {n : Nap} (s : Status) : n.stage = .awake → n.life.task ≠ none →
      Step n (.work s) { n with life := { n.life with status := s } }
  | giveUp {n : Nap} : n.stage = .awake → n.life.task ≠ none → Step n .giveUp { n with life := n.life.clearFlag }
  | finish {n : Nap} : n.stage = .awake → n.life.task ≠ none → Step n .finish { n with life := n.life.finish.1 }
  | clearFlag (n : Nap) : Step n .clearFlag { n with life := n.life.clearFlag, halfway := n.halfway + 1 }
  | post {n : Nap} : 0 < n.halfway → Step n .post { n with life := n.life.post, halfway := n.halfway - 1 }
  | callback {n : Nap} : n.stage ≠ .looked → 0 < n.life.posted → Step n .callback { n with life := n.life.wake }
  | start {n : Nap} : n.stage ≠ .looked → Step n .start { n with life := n.life.start.1 }

/-- The naps of a watcher, after any steps in any order. -/
inductive Reachable : Nap → Prop
  | initial : Reachable initial
  | step {n n' : Nap} {m : Move} : Reachable n → Step n m n' → Reachable n'

/-- Steps during which the task stays asleep. -/
inductive Sleeps : Nap → List Move → Nap → Prop
  | nil (n : Nap) : Sleeps n [] n
  | cons {n n' n'' : Nap} {m : Move} {ms : List Move} : Step n m n' → n'.stage = .asleep → Sleeps n' ms n'' →
      Sleeps n (m :: ms) n''

/-- The nap that a watcher takes is a look at the flag and the beginning of a sleep, and its stop is the two steps of a
stop, each with nothing in between. -/
theorem steps_of_watcher {τ : Type} [Scalar τ] (w : Watcher τ) (seconds : τ) (k : Nat) :
    (w.life.task ≠ none → w.life.active = true → ∃ n, Step ⟨w.life, .awake, k⟩ .look n ∧
      Step n .doze ⟨(w.nap seconds).life, .asleep, k⟩) ∧
    ∀ stage, ∃ n, Step ⟨w.life, stage, k⟩ .clearFlag n ∧ Step n .post ⟨w.stop.life, stage, k⟩ := by
  constructor
  · intro htask hactive
    have hnap : (w.nap seconds).life = w.life.beginSleep := by
      rw [Watcher.nap, if_pos hactive]
      rfl
    rw [hnap]
    exact ⟨_, .look rfl htask hactive, .doze rfl⟩
  · intro stage
    have hstop : w.stop.life = w.life.clearFlag.post := congrArg Watcher.Condition.life (Watcher.condition_stop w)
    rw [hstop]
    exact ⟨_, .clearFlag _, .post (Nat.succ_pos k)⟩

/-! ## The invariant -/

/-- Whether a callback is still to run: it is posted, or a stop is about to post it. -/
def Pending (n : Nap) : Prop := 0 < n.life.posted ∨ 0 < n.halfway

/-- Whether the task is to wake up, now or when what is pending is done. -/
def Due (n : Nap) : Prop := n.life.wakeup = true ∨ n.Pending

/-- A stop that finds the task on its way into a sleep is pending, since no callback runs before the task sleeps; one
that finds it asleep is due. -/
structure Sound (n : Nap) : Prop where
  looked : n.stage = .looked → n.life.active = false → n.Pending
  asleep : n.stage = .asleep → n.life.active = false → n.Due

variable {n n' : Nap} {m : Move} {ms : List Move}

/-- A nap is sound as long as the task is awake. -/
theorem sound_of_awake (h : n.stage = .awake) : n.Sound := by
  constructor
  · intro hlooked
    rw [h] at hlooked
    cases hlooked
  · intro hasleep
    rw [h] at hasleep
    cases hasleep

/-- A session that starts is active. -/
theorem active_start (l : Lifecycle) : l.start.1.active = true := by
  unfold Lifecycle.start
  split
  · assumption
  · dsimp only
    split <;> rfl

/-- What is pending stays so until a callback runs. -/
theorem Pending.step (h : n.Pending) (hs : Step n m n') (hm : m ≠ .callback) (hawake : n.stage ≠ .awake) :
    n'.Pending := by
  cases hs with
  | look hstage => exact absurd hstage hawake
  | pass hstage => exact absurd hstage hawake
  | doze => exact h
  | rouse => exact h
  | lapse => exact h
  | work _ hstage => exact absurd hstage hawake
  | giveUp hstage => exact absurd hstage hawake
  | finish hstage => exact absurd hstage hawake
  | clearFlag => exact Or.inr (Nat.succ_pos _)
  | post => exact Or.inl (Nat.succ_pos _)
  | callback => exact absurd rfl hm
  | start =>
    have hposted : n.life.start.1.posted = n.life.posted := by
      unfold Lifecycle.start
      split
      · rfl
      · dsimp only
        split <;> rfl
    rcases h with h | h
    · exact Or.inl (hposted.symm ▸ h)
    · exact Or.inr h

/-- A step that leaves the task asleep keeps the wakeup, and a callback sets it. -/
theorem wakeup_step (hs : Step n m n') (hasleep : n.stage = .asleep) :
    (n.life.wakeup = true → n'.life.wakeup = true) ∧ (m = .callback → n'.life.wakeup = true) := by
  have hnot {stage : Stage} (h : n.stage = stage) (hne : stage ≠ .asleep) : False := hne (h.symm.trans hasleep)
  cases hs with
  | look hstage => exact (hnot hstage nofun).elim
  | pass hstage => exact (hnot hstage nofun).elim
  | doze hstage => exact (hnot hstage nofun).elim
  | work _ hstage => exact (hnot hstage nofun).elim
  | giveUp hstage => exact (hnot hstage nofun).elim
  | finish hstage => exact (hnot hstage nofun).elim
  | callback => exact ⟨fun _ => rfl, fun _ => rfl⟩
  | start =>
    refine ⟨fun h => ?_, nofun⟩
    show n.life.start.1.wakeup = true
    unfold Lifecycle.start
    split
    · exact h
    · dsimp only
      split <;> exact h
  | _ => exact ⟨id, nofun⟩

theorem Due.step (h : n.Due) (hs : Step n m n') (hasleep : n.stage = .asleep) : n'.Due := by
  obtain ⟨hkept, hset⟩ := wakeup_step hs hasleep
  by_cases hm : m = .callback
  · exact Or.inl (hset hm)
  · rcases h with h | h
    · exact Or.inl (hkept h)
    · refine Or.inr (h.step hs hm ?_)
      rw [hasleep]
      nofun

/-- One step keeps a nap sound. -/
theorem step_sound (hs : Step n m n') (h : n.Sound) : n'.Sound := by
  cases hs with
  | look _ _ hactive => exact ⟨fun _ hover => absurd (hover.symm.trans hactive) Bool.false_ne_true, nofun⟩
  | pass hstage => exact sound_of_awake hstage
  | doze hstage => exact ⟨nofun, fun _ hover => Or.inr (h.looked hstage hover)⟩
  | rouse => exact sound_of_awake rfl
  | lapse => exact sound_of_awake rfl
  | work _ hstage => exact sound_of_awake hstage
  | giveUp hstage => exact sound_of_awake hstage
  | finish hstage => exact sound_of_awake hstage
  | clearFlag => exact ⟨fun _ _ => Or.inr (Nat.succ_pos _), fun _ _ => Or.inr (Or.inr (Nat.succ_pos _))⟩
  | post => exact ⟨fun _ _ => Or.inl (Nat.succ_pos _), fun _ _ => Or.inr (Or.inl (Nat.succ_pos _))⟩
  | callback hstage => exact ⟨fun hlooked => absurd hlooked hstage, fun _ _ => Or.inl rfl⟩
  | start =>
    have hactive := active_start n.life
    exact ⟨fun _ hover => absurd (hover.symm.trans hactive) Bool.false_ne_true,
      fun _ hover => absurd (hover.symm.trans hactive) Bool.false_ne_true⟩

/-- Every nap that can be reached is sound. -/
theorem reachable_sound (h : Reachable n) : n.Sound := by
  induction h with
  | initial => exact sound_of_awake rfl
  | step _ hs ih => exact step_sound hs ih

/-! ## While the task is asleep -/

/-- What is due stays due as long as the task sleeps, and a callback that runs in the meantime has set the wakeup. -/
theorem Sleeps.due (hs : Sleeps n ms n') (hasleep : n.stage = .asleep) (h : n.Due) :
    n'.Due ∧ (n.life.wakeup = true ∨ .callback ∈ ms → n'.life.wakeup = true) := by
  induction hs with
  | nil n => exact ⟨h, fun hset => hset.resolve_right List.not_mem_nil⟩
  | cons hstep hstage _ ih =>
    obtain ⟨hkept, hset⟩ := wakeup_step hstep hasleep
    obtain ⟨hdue, hwakeup⟩ := ih hstage (h.step hstep hasleep)
    refine ⟨hdue, fun hbefore => hwakeup ?_⟩
    rcases hbefore with hbefore | hmem
    · exact Or.inl (hkept hbefore)
    · rcases List.mem_cons.mp hmem with heq | hmem
      · exact Or.inl (hset heq.symm)
      · exact Or.inr hmem

/-- A callback that is posted wakes the task. -/
theorem exists_wakeup_of_posted (hasleep : n.stage = .asleep) (h : 0 < n.life.posted) :
    ∃ n', Sleeps n [.callback] n' ∧ n'.stage = .asleep ∧ n'.life.wakeup = true := by
  have hstage : n.stage ≠ .looked := by
    rw [hasleep]
    nofun
  exact ⟨_, .cons (.callback hstage h) hasleep (.nil _), hasleep, rfl⟩

/-- What is due wakes the task without its time being up. -/
theorem Due.exists_wakeup (h : n.Due) (hasleep : n.stage = .asleep) :
    ∃ ms n', Sleeps n ms n' ∧ (∀ m ∈ ms, m = .post ∨ m = .callback) ∧ ms.length ≤ 2 ∧
      Step n' .rouse { n' with stage := .awake } := by
  rcases h with h | h | h
  · exact ⟨[], n, .nil n, by simp, Nat.zero_le _, .rouse hasleep h⟩
  · obtain ⟨n', hs, hasleep', hset⟩ := exists_wakeup_of_posted hasleep h
    exact ⟨[.callback], n', hs, by simp, by simp, .rouse hasleep' hset⟩
  · have hposted : 0 < n.life.post.posted := Nat.succ_pos _
    obtain ⟨n', hs, hasleep', hset⟩ := exists_wakeup_of_posted
      (n := { n with life := n.life.post, halfway := n.halfway - 1 }) hasleep hposted
    exact ⟨[.post, .callback], n', .cons (.post h) hasleep hs, by simp, by simp, .rouse hasleep' hset⟩

end Nap

namespace Watcher

variable {τ : Type} [Scalar τ] {now : τ} {w : Watcher τ} {c c' : Condition τ}

/-! ## The naps of a watcher -/

/-- Whether a task that naps in a session that is over is to wake up. -/
def Condition.Heeds (c : Condition τ) : Prop :=
  ∀ seconds, c.position = .napping seconds → c.life.active = false → c.life.wakeup = true ∨ 0 < c.life.posted

omit [Scalar τ] in
theorem Condition.heeds_of_ne (h : ∀ seconds, c.position ≠ .napping seconds) : c.Heeds :=
  fun seconds hp => absurd hp (h seconds)

omit [Scalar τ] in
theorem Condition.heeds_of_active (h : c.life.active = true) : c.Heeds :=
  fun _ _ hover => absurd (hover.symm.trans h) Bool.false_ne_true

theorem Condition.Looped.heeds (h : c.Looped now c') : c'.Heeds := by
  cases h <;> exact heeds_of_ne nofun

/-- A task naps in a session that goes on. -/
theorem Condition.Onward.heeds {a : After} (h : c.Onward now a c') : c'.Heeds := by
  cases h with
  | @works p hwork =>
    refine heeds_of_ne fun seconds hp => ?_
    obtain rfl : p = .napping seconds := hp
    exact hwork.elim
  | loops _ hlooped => exact hlooped.heeds
  | idles _ _ hactive => exact heeds_of_active hactive
  | rests _ _ hactive => exact heeds_of_active hactive
  | listens _ hactive => exact heeds_of_active hactive
  | finished _ => exact heeds_of_ne nofun
  | drops _ => exact heeds_of_ne nofun

theorem Condition.SessionEnd.heeds (h : c.SessionEnd now c') : c'.Heeds := by
  cases h with
  | draws hactive _ _ => exact heeds_of_active hactive
  | _ => exact heeds_of_ne nofun

theorem Condition.Passed.heeds (h : c.Passed now c') : c'.Heeds := by
  cases h with
  | loops _ hlooped => exact hlooped.heeds
  | goesOn _ honward => exact honward.heeds
  | _ => exact heeds_of_ne nofun

theorem Condition.Heeds.of_touched {x : Stimulus} (h : c.Heeds) (htouched : c.Touched now x c') : c'.Heeds := by
  cases htouched with
  | still => exact h
  | starts _ _ _ => exact heeds_of_ne nofun
  | resumes _ _ _ => exact heeds_of_active rfl
  | stops _ => exact fun _ _ _ => Or.inr (Nat.succ_pos _)
  | wakes _ => exact fun _ _ _ => Or.inl rfl
  | looks => exact h

theorem Condition.Heeds.react (h : w.condition.Heeds) (now : τ) (x : Stimulus) : (w.react now x).condition.Heeds := by
  cases move now x w with
  | touched _ _ _ htouched => exact h.of_touched htouched
  | passed _ _ _ hpassed => exact hpassed.heeds
  | acknowledged _ _ _ _ _ honward => exact honward.heeds
  | catchesUp _ _ _ _ _ hreact =>
    rw [hreact]
    exact Condition.heeds_of_ne nofun
  | ended _ _ _ hended => exact hended.heeds

/-- A watcher that naps in a session that is over is to wake up, wherever it has got. -/
theorem Reached.heeds (h : Reached w) : w.condition.Heeds := by
  induction h with
  | fresh => exact Condition.heeds_of_ne nofun
  | react now x _ ih => exact ih.react now x
  | @cancel w _ _ =>
    rw [condition_cancel]
    refine Condition.heeds_of_ne fun seconds => ?_
    split <;> nofun

end Watcher

namespace Nap

variable {n : Nap}

/-- **No lost wakeup.** Whatever stops, starts, sleeps and callbacks there have been, in whatever order: if the task is
asleep and the flag is clear, the wakeup is set, or a callback is posted, or a stop is between its two steps. This stays
so as long as the task sleeps, and as soon as one callback has run, or none is left to run, the wakeup is set; the
steps that are pending are enough to wake the task before its time is up. In particular no watcher that can be reached
naps in a session that is over without being about to wake up. -/
theorem no_lost_wakeup (h : Reachable n) (hasleep : n.stage = .asleep) (hover : n.life.active = false) :
    (n.life.wakeup = true ∨ 0 < n.life.posted ∨ 0 < n.halfway) ∧
    (∀ ms n', Sleeps n ms n' → (n'.life.wakeup = true ∨ 0 < n'.life.posted ∨ 0 < n'.halfway) ∧
      (.callback ∈ ms ∨ n'.life.posted = 0 ∧ n'.halfway = 0 → n'.life.wakeup = true)) ∧
    (∃ ms n', Sleeps n ms n' ∧ (∀ m ∈ ms, m = .post ∨ m = .callback) ∧ ms.length ≤ 2 ∧
      Step n' .rouse { n' with stage := .awake }) ∧
    ∀ (τ : Type) [Scalar τ] (w : Watcher τ) (seconds : τ), Watcher.Reached w → w.position = .napping seconds →
      w.life.active = false → w.life.wakeup = true ∨ 0 < w.life.posted := by
  have hdue : n.Due := (reachable_sound h).asleep hasleep hover
  refine ⟨hdue, ?_, hdue.exists_wakeup hasleep, ?_⟩
  · intro ms n' hs
    obtain ⟨hdue', hset⟩ := hs.due hasleep hdue
    refine ⟨hdue', ?_⟩
    rintro (hmem | ⟨hposted, hhalfway⟩)
    · exact hset (Or.inr hmem)
    · rcases hdue' with hwakeup | hlater | hlater
      · exact hwakeup
      · omega
      · omega
  · intro τ _ w seconds hw
    exact hw.heeds seconds

/-- A stop in another thread clears the flag after the task has looked at it, and posts its callback when the task is
asleep. -/
theorem no_lost_wakeup_of_late_stop :
    let n : Nap := ⟨Lifecycle.initial.start.1.clearFlag.beginSleep, .asleep, 1⟩
    Reachable n ∧ n.stage = .asleep ∧ n.life.active = false ∧
      (n.life.wakeup = true ∨ 0 < n.life.posted ∨ 0 < n.halfway) ∧
      ∃ ms n', Sleeps n ms n' ∧ (∀ m ∈ ms, m = .post ∨ m = .callback) ∧ ms.length ≤ 2 ∧
        Step n' .rouse { n' with stage := .awake } := by
  intro n
  have hstarted : Reachable ⟨Lifecycle.initial.start.1, .awake, 0⟩ := Reachable.initial.step (.start (by decide))
  have hlooked : Reachable ⟨Lifecycle.initial.start.1, .looked, 0⟩ := hstarted.step (.look rfl (by decide) rfl)
  have hn : Reachable n := (hlooked.step (.clearFlag _)).step (.doze rfl)
  obtain ⟨hdue, -, hwoken, -⟩ := no_lost_wakeup hn rfl rfl
  exact ⟨hn, rfl, rfl, hdue, hwoken⟩

end Nap

end MediaWatch
