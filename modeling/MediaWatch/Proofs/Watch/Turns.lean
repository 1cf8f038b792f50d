import MediaWatch.Proofs.Watch.Mood

/-!
# Turns of a task

The position of a task has a mood (`Position.mood`). Wherever a task goes on, it comes to a position whose mood follows
from where it has been (`Watcher.Follows`), so that the history of every run of a watcher whose subscription is backed by
sweeps leads from mood to mood (`Watcher.Backed.mood_run`). On the way all that the watcher goes by stays as it is, and
its store changes with an answer alone.
-/

namespace MediaWatch

/-! ## The mood of a position -/

variable {τ : Type}

/-- What a task at a position is about to do. -/
def Position.mood : Position τ → Mood
  | .absent | .created => .absent
  | .querying .listing after => .asking after
  | .querying (.reading e rest) after => .within after (e.library :: rest)
  | .notifying _ e => .within e.after e.libraries
  | .connecting | .sending _ | .receiving => .within .receive []
  | .napping _ => .within .loop []

/-- A library that is being read has been read soundly so far. -/
def Position.Sound : Position τ → Prop
  | .querying (.reading e _) _ => e.found.Sound
  | _ => True

namespace Lifecycle

/-- A start leaves an active session as it is, or lets the unfinished task carry on, or creates one. -/
theorem start_cases (l : Lifecycle) :
    l.start = (l, .already) ∨ (∃ life, l.start = (life, .resumed) ∧ life.task = l.task) ∨
    (∃ life, l.start = (life, .created) ∧ l.task = none ∧ life.task ≠ none) := by
  unfold start
  split
  · exact Or.inl rfl
  · refine Or.inr ?_
    cases htask : l.task with
    | some t => exact Or.inl ⟨{ l with active := true, generation := l.generation + 1 }, by simp [htask], htask⟩
    | none =>
      exact Or.inr ⟨spawn { l with active := true, generation := l.generation + 1, status := .starting },
        by simp [htask], rfl, by simp [spawn]⟩

/-- A lifecycle that is handed over has a task. -/
theorem task_of_handedOver {l life : Lifecycle} (h : l.finish = (life, .handedOver)) : life.task ≠ none := by
  cases htask : l.task with
  | none => simp [finish, htask] at h
  | some t =>
    cases hactive : l.active with
    | false => simp [finish, settle, htask, hactive] at h
    | true =>
      by_cases hsession : t.session = l.generation
      · simp [finish, settle, htask, hactive, hsession] at h
      · simp [finish, settle, spawn, htask, hactive, hsession] at h
        simp [← h]

end Lifecycle

namespace Watcher

/-- A watcher that has come to its position in the given mood, with what it goes by and its store as given. A task that
it had is unfinished, or the watcher is without one. -/
structure Follows (m : Mood) (b : Basis τ) (t : Option Task) (w : Watcher τ) : Prop where
  basis : w.basis = b
  mood : m.Run w.position.entering w.position.mood
  sound : w.position.Sound
  idle : t ≠ none → w.life.task = none → w.position = .absent

variable {m : Mood} {a : After}

theorem follows_goto {p : Position τ} (w : Watcher τ) (h : m.Run p.entering p.mood) (hp : p.Sound) :
    Follows m w.basis w.life.task (w.goto p) :=
  ⟨rfl, h, hp, fun hsome hnone => absurd hnone hsome⟩

/-- How a task ends. -/
theorem finish_cases (w : Watcher τ) :
    w.finish.basis = w.basis ∧
      (w.finish.position = .absent ∨ w.finish.position = .created ∧ w.finish.life.task ≠ none) := by
  unfold finish
  rcases hlife : w.life.finish with ⟨life, ended⟩
  cases ended with
  | handedOver => exact ⟨rfl, Or.inr ⟨rfl, Lifecycle.task_of_handedOver hlife⟩⟩
  | crashed => exact ⟨basis_noteStatus _ _, Or.inl (position_noteStatus _ _)⟩
  | stopped => exact ⟨basis_noteStatus _ _, Or.inl (position_noteStatus _ _)⟩

/-- What a start does: a watcher without a task gets one, and stays at its position otherwise. -/
theorem start_cases (w : Watcher τ) :
    w.start.basis = w.basis ∧ ((w.start.position = w.position ∧ w.start.life.task = w.life.task) ∨
      (w.life.task = none ∧ w.start.position = .created ∧ w.start.life.task ≠ none)) := by
  unfold start
  rcases w.life.start_cases with h | ⟨life, h, htask⟩ | ⟨life, h, hnone, hsome⟩
  · rw [h]; exact ⟨rfl, Or.inl ⟨rfl, rfl⟩⟩
  · rw [h]; exact ⟨rfl, Or.inl ⟨rfl, htask⟩⟩
  · rw [h]
    refine ⟨basis_noteStatus _ _, Or.inr ⟨hnone, position_noteStatus _ _, ?_⟩⟩
    show (noteStatus _ _).life.task ≠ none
    rw [task_noteStatus]
    exact hsome

theorem follows_finish (a : After) (w : Watcher τ) : Follows (.within a []) w.basis w.life.task w.finish := by
  obtain ⟨hbasis, hpos | ⟨hpos, htask⟩⟩ := w.finish_cases
  · exact ⟨hbasis, by rw [hpos]; exact (Mood.Next.finish a).run, by rw [hpos]; trivial, fun _ _ => hpos⟩
  · exact ⟨hbasis, by rw [hpos]; exact (Mood.Next.finish a).run, by rw [hpos]; trivial,
      fun _ hnone => absurd hnone htask⟩

/-- What comes before does not count if it leaves all that matters as it is. -/
theorem Follows.of_eq {w w₁ w' : Watcher τ} (h : Follows m w₁.basis w₁.life.task w') (hbasis : w₁.basis = w.basis)
    (htask : w₁.life.task = w.life.task) : Follows m w.basis w.life.task w' := by
  rw [← hbasis, ← htask]
  exact h

theorem follows_connect (ha : a ≠ .fallback) (url : String) (w : Watcher τ) :
    Follows (.within a []) w.basis w.life.task (w.connect url) :=
  (follows_goto _ (Mood.Next.connect ha).run (by trivial)).of_eq (by simp) (by simp)

theorem follows_fallBack (ha : a ≠ .fallback) (w : Watcher τ) :
    Follows (.within a []) w.basis w.life.task w.fallBack := by
  refine (follows_goto _ (Mood.Next.fallBack ha).run (by trivial)).of_eq ?_ ?_
  · rw [basis_setStatus]
    split <;> rfl
  · rw [task_setStatus]
    split <;> rfl

/-! ## Where a task goes on -/

variable [Scalar τ] (now : τ)

theorem follows_nap (ha : a ≠ .loop) (seconds : τ) (w : Watcher τ) :
    Follows (.within a []) w.basis w.life.task (w.nap seconds) := by
  unfold nap
  split
  · exact ⟨rfl, (Mood.Next.nap ha).run, trivial, fun hsome hnone => absurd hnone hsome⟩
  · exact follows_finish a w

theorem follows_loop (ha : a ≠ .fallback) {w : Watcher τ} (hf : w.basis.strategy.hasFallback = true) :
    Follows (.within a []) w.basis w.life.task (w.loop now) := by
  have hchoice (w₁ : Watcher τ) (url : String) :
      Follows (.within a []) w₁.basis w₁.life.task (if w₁.avoidsPush then w₁.fallBack else w₁.connect url) := by
    split
    · exact follows_fallBack ha w₁
    · exact follows_connect ha url w₁
  unfold loop
  split
  · exact follows_finish a w
  · split
    · rename_i hs
      simp [basis, hs, Strategy.hasFallback] at hf
    · -- the breaker may have been read before
      rename_i url fallback _ _ _
      refine (hchoice (if fallback && w.pushEnabled then w.readBreaker now else w) url).of_eq ?_ ?_
      · split <;> simp
      · split <;> simp

theorem follows_reconnect (ha : a ≠ .loop) (w : Watcher τ) :
    Follows (.within a []) w.basis w.life.task (w.reconnect now) := by
  refine (follows_nap ha _ _).of_eq ?_ ?_
  · rw [basis_say, basis_setStatus, basis_readBreaker]; rfl
  · rw [task_say, task_setStatus, task_readBreaker]

theorem follows_giveUp (ha : a ≠ .fallback) {w : Watcher τ} (hf : w.basis.strategy.hasFallback = true) :
    Follows (.within a []) w.basis w.life.task (w.giveUp now) := by
  unfold giveUp
  have hfallback : (w.say (.givingUp w.backoff.attempt)).hasFallback = true := hf
  rw [if_pos hfallback]
  exact (follows_loop now (w := { w.say (.givingUp w.backoff.attempt) with pushEnabled := false }) ha hf).of_eq rfl rfl

theorem follows_sessionEnded {w : Watcher τ} (hf : w.basis.strategy.hasFallback = true) :
    Follows (.within .receive []) w.basis w.life.task (w.sessionEnded now) := by
  -- after the failure was counted
  have hcounted {v : Watcher τ} (hf : v.basis.strategy.hasFallback = true) :
      Follows (.within .receive []) v.basis v.life.task
        (if v.backoff.exhausted then v.giveUp now
        else
          let v' := if v.hasFallback then v.readBreaker now else v
          if v'.hasFallback && v'.breaker.isOpen then v'.loop now else v'.reconnect now) := by
    have hfallback : v.hasFallback = true := hf
    split
    · exact follows_giveUp now (by decide) hf
    · have hread : (v.readBreaker now).basis.strategy.hasFallback = true := by rw [basis_readBreaker]; exact hf
      dsimp only
      split
      · exact (follows_loop now (by decide) hread).of_eq (by simp) (by simp)
      · exact (follows_reconnect now (by decide) _).of_eq (by simp) (by simp)
  unfold sessionEnded
  split
  · exact follows_finish _ w
  · refine (hcounted (v := sayAll (w.breaker.fail now).2 { w with breaker := (w.breaker.fail now).1 }) ?_).of_eq ?_ ?_
    · rw [basis_sayAll]; exact hf
    · rw [basis_sayAll]; rfl
    · rw [task_sayAll]

theorem follows_sessionFailed {w : Watcher τ} (hf : w.basis.strategy.hasFallback = true) (f : Fault) :
    Follows (.within .receive []) w.basis w.life.task (w.sessionFailed now f) := by
  unfold sessionFailed
  exact (follows_sessionEnded now (w := w.say _) hf).of_eq rfl rfl

theorem follows_receive {w : Watcher τ} (hf : w.basis.strategy.hasFallback = true) :
    Follows (.within .receive []) w.basis w.life.task (w.receive now) := by
  unfold receive
  split
  · exact follows_goto w (.nil _) trivial
  · exact (follows_sessionEnded now (w := w.note .left) hf).of_eq rfl rfl

theorem follows_goOn (a : After) {w : Watcher τ} (hf : w.basis.strategy.hasFallback = true) :
    Follows (.within a []) w.basis w.life.task (w.goOn now a) := by
  unfold goOn
  split
  · exact follows_loop now (by decide) hf
  · rename_i hs
    simp [basis, hs, Strategy.hasFallback] at hf
  · exact follows_nap (by decide) _ w
  · exact follows_receive now hf
  · exact follows_goto w (Mood.Next.finish _).run trivial

/-! ## Deliveries -/

theorem follows_pursue (libraries : List Text) (a : After) (batches : List (Hook × List Event)) {w : Watcher τ}
    (hf : w.basis.strategy.hasFallback = true) :
    Follows (.within a libraries) w.basis w.life.task (pursue now libraries a batches w) := by
  induction batches generalizing w with
  | nil =>
    unfold pursue
    cases libraries with
    | nil => exact follows_goOn now a hf
    | cons library rest => exact follows_goto w (.nil _) Snapshot.sound_empty
  | cons b rest ih =>
    obtain ⟨hook, events⟩ := b
    unfold pursue
    split
    · exact ih hf
    · dsimp only
      split
      · exact (ih (w := { w with lastEventAt := some now }) hf).of_eq rfl rfl
      · exact (follows_goto { w with lastEventAt := some now } (.nil _) (by trivial)).of_eq rfl rfl

end Watcher

/-! ## Answers -/

/-- The libraries that a sweep has left. -/
def Sweep.Progress.left : Sweep.Progress → List Text
  | .ask .listing | .done => []
  | .ask (.reading e rest) => e.library :: rest
  | .report _ rest => rest

theorem Sweep.left_next (libraries : List Text) : (Sweep.next libraries).left = libraries := by
  cases libraries <;> rfl

/-- A sweep goes on with a sound reading; it does not list the libraries again. -/
def Sweep.Progress.Sound : Sweep.Progress → Prop
  | .ask .listing => False
  | .ask (.reading e _) => e.found.Sound
  | _ => True

theorem Sweep.sound_next (libraries : List Text) : (Sweep.next libraries).Sound := by
  cases libraries with
  | nil => trivial
  | cons library rest => exact Snapshot.sound_empty

theorem Sweep.sound_step {d : Detector} (store : Store) {s : Sweep} {a : After}
    (h : (Position.querying (τ := τ) s a).Sound) (answer : Except Text (s.query d).Reply) :
    (s.step d store answer).progress.Sound := by
  cases s with
  | listing =>
    cases answer with
    | error reason => trivial
    | ok libraries => exact Sweep.sound_next libraries
  | reading e rest =>
    cases answer with
    | error reason => exact Sweep.sound_next rest
    | ok reply =>
      have hreply := Enumeration.sound_step h reply
      simp only [Sweep.step]
      cases hs : e.step d.pageSize reply with
      | ask e' => rw [hs] at hreply; exact hreply
      | done snapshot => trivial

namespace Watcher

theorem run_listed (a : After) (libraries : List Text) :
    (Mood.asking a).Run [.listed (.ok libraries)] (.within a (Sweep.next libraries).left) := by
  rw [Sweep.left_next]
  exact (Mood.Next.listed a (.ok libraries)).run

theorem run_answer (d : Detector) (store : Store) (s : Sweep) (a : After) (answer : Except Text (s.query d).Reply) :
    (Position.querying (τ := τ) s a).mood.Run (s.deeds d answer)
      (.within a (s.step d store answer).progress.left) := by
  cases s with
  | listing =>
    cases answer with
    | error reason => exact (Mood.Next.listed a _).run
    | ok libraries =>
      exact run_listed a libraries
  | reading e rest =>
    cases answer with
    | error reason =>
      simp only [Sweep.step, Sweep.left_next]
      exact (Mood.Next.read a e.library rest _).run
    | ok reply =>
      cases hs : e.step d.pageSize reply with
      | ask e' =>
        simp only [Sweep.deeds, Sweep.ending, Sweep.step, hs, List.map_nil, Sweep.Progress.left]
        rw [Enumeration.library_of_ask hs]
        exact .nil _
      | done snapshot =>
        simp only [Sweep.deeds, Sweep.ending, Sweep.step, hs, List.map_cons, List.map_nil, Sweep.Progress.left]
        exact (Mood.Next.read a e.library rest _).run

variable [Scalar τ] (now : τ)

/-- What an answer leads to follows from the libraries that are left. -/
theorem follows_progress (a : After) (p : Sweep.Progress) {w : Watcher τ} (hf : w.basis.strategy.hasFallback = true) :
    p.Sound → Follows (.within a p.left) w.basis w.life.task
      (match p with
      | .ask s => w.goto (.querying s a)
      | .report changes rest => w.emit now changes rest a
      | .done => w.goOn now a) := by
  intro hp
  cases p with
  | ask s =>
    cases s with
    | listing => exact hp.elim
    | reading e rest => exact follows_goto w (.nil _) hp
  | report changes rest => exact follows_pursue now rest a _ hf
  | done => exact follows_goOn now a hf

theorem follows_answered {w : Watcher τ} (hf : w.basis.strategy.hasFallback = true) {s : Sweep} {a : After}
    (hs : (Position.querying (τ := τ) s a).Sound) (answer : Except Text (s.query w.detector).Reply) :
    Follows (.within a (s.step w.detector w.store answer).progress.left)
      { w.basis with store := (s.step w.detector w.store answer).store } w.life.task (w.answered now s a answer) := by
  have hbasis : (sayAll (s.step w.detector w.store answer).notices
      { w with store := (s.step w.detector w.store answer).store }).basis =
        { w.basis with store := (s.step w.detector w.store answer).store } := by rw [basis_sayAll]; rfl
  have h := follows_progress now a (s.step w.detector w.store answer).progress
    (w := sayAll (s.step w.detector w.store answer).notices
      { w with store := (s.step w.detector w.store answer).store }) (by rw [hbasis]; exact hf)
    (Sweep.sound_step w.store hs answer)
  rw [hbasis, task_sayAll] at h
  exact h

theorem follows_notified {w : Watcher τ} (hf : w.basis.strategy.hasFallback = true) (o : Outcome) (left : List Event)
    (d : Delivery) (e : Errand) :
    Follows (.within e.after e.libraries) w.basis w.life.task (w.notified now o left d e) := by
  -- after the outcome was noted
  have hnoted {v : Watcher τ} (hf : v.basis.strategy.hasFallback = true) :
      Follows (.within e.after e.libraries) v.basis v.life.task
        (if d.listener + 1 < v.listeners.length then
          v.goto (.notifying { d with batch := left, listener := d.listener + 1 } e)
        else pursue now e.libraries e.after e.batches v) := by
    split
    · exact follows_goto v (.nil _) trivial
    · exact follows_pursue now e.libraries e.after e.batches hf
  cases o with
  | returned => exact hnoted hf
  | late => exact (hnoted (v := w.say _) hf).of_eq rfl rfl
  | failed => exact (hnoted (v := w.say _) hf).of_eq rfl rfl

/-! ## Frames -/

theorem follows_handle {w : Watcher τ} (hf : w.basis.strategy.hasFallback = true) {f : TextFrame}
    (hends : (Frame.read f).ends = false) :
    ∃ m, Mood.Next (.within .receive []) (.handled f) m ∧
      Follows m w.basis w.life.task (w.handle now f .receive) := by
  unfold handle
  cases hread : Frame.read f with
  | acknowledged =>
    have hfallback : w.acknowledge.hasFallback = true := by
      show w.acknowledge.basis.strategy.hasFallback = true
      rw [basis_acknowledge]
      exact hf
    refine ⟨_, Mood.Next.acknowledge hread, ?_⟩
    simp only [hfallback, if_true]
    exact (follows_goto w.acknowledge Mood.Next.catchUp.run (by trivial)).of_eq (basis_acknowledge w) (task_acknowledge w)
  | created e => exact ⟨_, Mood.Next.handle (by simp [hread]), follows_pursue now [] .receive _ hf⟩
  | complained payload =>
    exact ⟨_, Mood.Next.handle (by simp [hread]), (follows_goOn now .receive (w := w.say _) hf).of_eq rfl rfl⟩
  | unreadable =>
    exact ⟨_, Mood.Next.handle (by simp [hread]), (follows_goOn now .receive (w := w.say _) hf).of_eq rfl rfl⟩
  | silent => exact ⟨_, Mood.Next.handle (by simp [hread]), follows_goOn now .receive hf⟩
  | completed => simp [hread, Frame.ends] at hends
  | rejected payload => simp [hread, Frame.ends] at hends

/-- A frame that ends the subscription. -/
theorem handle_of_ends {w : Watcher τ} {f : TextFrame} (hends : (Frame.read f).ends = true) (a : After) :
    Frame.read f ≠ .acknowledged ∧ ∃ n, w.handle now f a = w.say n := by
  unfold handle
  cases hread : Frame.read f with
  | completed => exact ⟨by simp, _, rfl⟩
  | rejected payload => exact ⟨by simp, _, rfl⟩
  | _ => simp [hread, Frame.ends] at hends

theorem follows_text {w : Watcher τ} (hf : w.basis.strategy.hasFallback = true) (f : TextFrame) :
    ∃ m, Mood.Next (.within .receive []) (.handled f) m ∧
      Follows m w.basis w.life.task (w.received now (.text f)) := by
  unfold received
  dsimp only
  cases hends : (Frame.read f).ends with
  | true =>
    obtain ⟨hne, n, hhandle⟩ := handle_of_ends now (w := w) hends .receive
    rw [hhandle]
    exact ⟨_, Mood.Next.handle hne, (follows_sessionEnded now (w := (w.say n).note .left) hf).of_eq rfl rfl⟩
  | false => exact follows_handle now hf hends

/-! ## Runs -/

/-- A watcher whose subscription is backed by sweeps. Without a task it has no position. -/
structure Backed (w : Watcher τ) : Prop where
  fallback : w.basis.strategy.hasFallback = true
  sound : w.position.Sound
  idle : w.life.task = none → w.position = .absent

variable {now} {w w' : Watcher τ} {x : Stimulus}

/-- A turn of the task: what the stimulus tells leads to a mood from which the watcher has come to its position, and all
that it goes by is as before, but for what an answer stores. -/
theorem Turn.follows (h : Turn now w x w') (hb : w.Backed) :
    ∃ m, w.position.mood.Run (w.occasion x) m ∧ Follows m { w.basis with store := w.storing x } w.life.task w' := by
  have hf := hb.fallback
  cases h with
  | begun hp =>
    refine ⟨.begun, ?_, ?_⟩
    · rw [hp]
      simp only [occasion, hp]
      exact Mood.Next.begin.run
    · cases hs : w.strategy with
      | polling interval => simp [basis, hs, Strategy.hasFallback] at hf
      | push url fallback interval patience =>
        simp only [basis, hs, Strategy.hasFallback] at hf
        simp only [begin, hs, hf, if_true, storing]
        exact follows_goto w Mood.Next.first.run trivial
  | @reply s after c hp =>
    have hm := run_answer w.detector w.store s after (c (s.query w.detector)) (τ := τ)
    have hs := hb.sound
    rw [hp] at hs
    have hw := follows_answered now hf hs (c (s.query w.detector))
    refine ⟨.within after (s.step w.detector w.store (c (s.query w.detector))).progress.left, ?_, ?_⟩
    · rw [hp]
      simp only [occasion, hp]
      exact hm
    · simp only [storing, hp]
      exact hw
  | @called d e o left hp =>
    refine ⟨_, ?_, follows_notified now hf o left d e⟩
    rw [hp]
    simp only [occasion, hp]
    exact (Mood.Next.told _ _ _ _ _ _).run
  | opened result hp =>
    refine ⟨_, by rw [hp]; exact .nil _, ?_⟩
    cases result with
    | ok _ => exact follows_goto w (.nil _) trivial
    | error f => exact follows_sessionFailed now hf f
  | @sent frame result hp =>
    refine ⟨_, by rw [hp]; exact .nil _, ?_⟩
    cases result with
    | ok _ =>
      cases frame with
      | hello => exact follows_goto w (.nil _) trivial
      | subscribe => exact follows_receive now hf
    | error f => exact (follows_sessionFailed now (w := w.note .left) hf f).of_eq rfl rfl
  | arrival a hp =>
    cases a with
    | text s =>
      obtain ⟨m, hm, hw⟩ := follows_text now hf s
      refine ⟨m, ?_, hw⟩
      rw [hp]
      simp only [occasion, hp]
      exact hm.run
    | binary => exact ⟨_, by rw [hp]; exact .nil _, follows_receive now hf⟩
    | nothing => exact ⟨_, by rw [hp]; exact .nil _, follows_receive now hf⟩
    | fault f =>
      exact ⟨_, by rw [hp]; exact .nil _, (follows_sessionFailed now (w := w.note .left) hf f).of_eq rfl rfl⟩
  | rested hp => exact ⟨_, by rw [hp]; exact .nil _, follows_loop now (by decide) hf⟩

/-- A watcher without a task waits for nothing. -/
theorem Turn.position_ne (h : Turn now w x w') : w.position ≠ .absent := by
  intro hp
  cases h <;> simp_all

/-- What touching a watcher from outside does: nothing to what it goes by, and nothing to its position unless it is
started. -/
theorem Backed.touched (hb : w.Backed) (h : w' = w ∨ w' = w.start ∨ w' = w.stop ∨
    w' = { w with life := w.life.wake } ∨ w' = (w.health now).2) :
    w'.basis = w.basis ∧ (w'.position = w.position ∨ w.position = .absent ∧ w'.position = .created) ∧
      (w'.life.task = none → w'.position = .absent) := by
  rcases h with rfl | rfl | rfl | rfl | rfl
  · exact ⟨rfl, Or.inl rfl, hb.idle⟩
  · obtain ⟨hbasis, ⟨hpos, htask⟩ | ⟨hnone, hpos, hsome⟩⟩ := w.start_cases
    · exact ⟨hbasis, Or.inl hpos, fun h => by rw [hpos]; exact hb.idle (htask ▸ h)⟩
    · exact ⟨hbasis, Or.inr ⟨hb.idle hnone, hpos⟩, fun h => absurd h hsome⟩
  · unfold stop
    dsimp only
    split <;> exact ⟨rfl, Or.inl rfl, hb.idle⟩
  · exact ⟨rfl, Or.inl rfl, hb.idle⟩
  · unfold health
    split
    · exact ⟨rfl, Or.inl rfl, hb.idle⟩
    · exact ⟨basis_readBreaker now w, Or.inl (position_readBreaker now w), fun h => by
        rw [position_readBreaker]; exact hb.idle (by rwa [task_readBreaker] at h)⟩

/-- A watcher that is backed stays so. -/
theorem Backed.react (hb : w.Backed) (now : τ) (x : Stimulus) : (w.react now x).Backed := by
  rcases w.react_cases now x with ⟨-, h⟩ | ⟨hturn, -⟩
  · obtain ⟨hbasis, hpos, hidle⟩ := hb.touched h
    refine ⟨by rw [hbasis]; exact hb.fallback, ?_, hidle⟩
    rcases hpos with hpos | ⟨-, hpos⟩
    · rw [hpos]; exact hb.sound
    · rw [hpos]; trivial
  · obtain ⟨m, -, hfollows⟩ := hturn.follows hb
    exact ⟨by rw [hfollows.basis]; exact hb.fallback, hfollows.sound,
      hfollows.idle fun hnone => hturn.position_ne (hb.idle hnone)⟩

/-- What the task does about a stimulus leads from the mood of its position to that of the next one. -/
theorem Backed.react_run (hb : w.Backed) (now : τ) (x : Stimulus) :
    w.position.mood.Run (w.deeds now x) (w.react now x).position.mood := by
  rcases w.react_cases now x with ⟨hdeeds, h⟩ | ⟨hturn, hdeeds⟩
  · obtain ⟨-, hpos | ⟨hpos, hpos'⟩, -⟩ := hb.touched h
    · rw [hdeeds, hpos]; exact .nil _
    · rw [hdeeds, hpos, hpos']; exact .nil _
  · obtain ⟨m, hrun, hfollows⟩ := hturn.follows hb
    rw [hdeeds]
    exact hrun.append hfollows.mood

/-- The history of a run leads from the mood of the position before it to that of the position after it. -/
theorem Backed.mood_run (hb : w.Backed) (xs : List (τ × Stimulus)) :
    w.position.mood.Run (w.history xs) (w.run xs).position.mood := by
  induction xs generalizing w with
  | nil => exact .nil _
  | cons x xs ih => exact (hb.react_run x.1 x.2).append (ih (hb.react x.1 x.2))

end Watcher

end MediaWatch
