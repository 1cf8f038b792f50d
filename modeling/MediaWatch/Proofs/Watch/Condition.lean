import MediaWatch.Proofs.Watch.Session

/-!
# Conditions of a watcher

The `Watcher.Condition` of a watcher is what its loop goes by: its strategy, its life, its backoff and breaker, and where
its task stands. Each elementary step has one equation on it (`condition_say` and its companions). Three relations say,
for every strategy and for sessions that go on or are over, what becomes of a condition: at the top of the loop
(`Condition.Looped`, `looped_loop`), at the end of a session (`Condition.SessionEnd`, `sessionEnd_sessionEnded`), and
where a piece of work is done (`Condition.Onward`, `onward_goOn`).
-/

namespace MediaWatch

/-! ## Positions and strategies -/

section Positions

variable {τ : Type}

/-- What a task goes on with when the work at hand is done, or the frame that it has sent or received. -/
def Position.after? : Position τ → Option After
  | .querying _ a => some a
  | .notifying _ e => some e.after
  | .sending .subscribe | .receiving => some .receive
  | _ => none

/-- Whether a task is in the middle of some work and goes on as told when it is done. -/
def Position.IsWork (a : After) : Position τ → Prop
  | .querying (.reading ..) b => b = a
  | .notifying _ e => e.after = a
  | _ => False

theorem Position.IsWork.after?_eq {a : After} {p : Position τ} (h : p.IsWork a) : p.after? = some a := by
  cases p with
  | querying s b =>
    cases s with
    | listing => exact h.elim
    | reading e rest => exact congrArg some h
  | notifying d e => exact congrArg some h
  | _ => exact h.elim

/-- Whether a task with the given strategy can go on so. -/
def After.Fits (s : Strategy τ) (a : After) : Prop :=
  match s, a with
  | _, .loop => True
  | .polling _, .idle => True
  | .push _ backed _ _, .fallback => backed = true
  | .push .., .receive => True
  | _, _ => False

theorem After.fits_loop (s : Strategy τ) : After.loop.Fits s := by cases s <;> trivial

/-- Whether a task with the given strategy can stand at a position. -/
def Position.Fits (s : Strategy τ) : Position τ → Prop
  | .absent | .created | .napping _ => True
  | .querying _ a => a.Fits s
  | .notifying _ e => e.after.Fits s
  | .connecting | .sending _ | .receiving => After.receive.Fits s

theorem Position.Fits.of_after? {s : Strategy τ} {p : Position τ} (h : p.Fits s) {a : After} (ha : p.after? = some a) :
    a.Fits s := by
  cases p with
  | querying sweep b => cases ha; exact h
  | notifying d e => cases ha; exact h
  | sending frame =>
    cases frame with
    | hello => cases ha
    | subscribe => cases ha; exact h
  | receiving => cases ha; exact h
  | _ => cases ha

theorem Position.IsWork.fits {s : Strategy τ} {a : After} {p : Position τ} (h : p.IsWork a) (ha : a.Fits s) :
    p.Fits s := by
  cases p with
  | querying sweep b =>
    cases sweep with
    | listing => exact h.elim
    | reading e rest =>
      obtain rfl : b = a := h
      exact ha
  | notifying d e =>
    obtain rfl : e.after = a := h
    exact ha
  | _ => exact h.elim

end Positions

/-- A breaker that was just read is as it was read. -/
theorem Breaker.read_read {τ : Type} [Scalar τ] (b : Breaker τ) (now : τ) :
    ((b.read now).1.read now).1 = (b.read now).1 := by
  unfold Breaker.read
  cases hcooled : b.cooled now with
  | true => simp [Breaker.cooled]
  | false => simp [hcooled]

/-- A sweep lists the libraries at its start only. -/
theorem Sweep.step_ne_listing (d : Detector) (store : Store) (s : Sweep) (reply : Except Text (s.query d).Reply) :
    (s.step d store reply).progress ≠ .ask .listing := by
  have hnext (libraries : List Text) : Sweep.next libraries ≠ .ask .listing := by cases libraries <;> simp [Sweep.next]
  cases s with
  | listing =>
    cases reply with
    | error reason => simp [Sweep.step]
    | ok libraries => exact hnext libraries
  | reading e rest =>
    cases reply with
    | error reason => exact hnext rest
    | ok reply =>
      simp only [Sweep.step]
      split <;> simp

namespace Watcher

variable {τ : Type}

/-! ## Conditions -/

/-- What the loop of a watcher goes by. -/
structure Condition (τ : Type) where
  strategy : Strategy τ
  life : Lifecycle
  backoff : Backoff τ
  breaker : Breaker τ
  pushEnabled : Bool
  position : Position τ

/-- The same of a watcher. -/
def condition (w : Watcher τ) : Condition τ := ⟨w.strategy, w.life, w.backoff, w.breaker, w.pushEnabled, w.position⟩

namespace Condition

/-- The condition with another status. -/
def withStatus (s : Status) (c : Condition τ) : Condition τ := { c with life := { c.life with status := s } }

/-- The condition at a position. -/
def atPosition (p : Position τ) (c : Condition τ) : Condition τ := { c with position := p }

/-- The condition when the task has ended. -/
def finished (c : Condition τ) : Condition τ := { c with life := c.life.finish.1, position := .absent }

/-- The condition when a sweep has begun that stands in for the subscription. -/
def standingIn (c : Condition τ) : Condition τ := (c.withStatus .degraded).atPosition (.querying .listing .fallback)

/-- The condition when a nap has begun. -/
def napping (seconds : τ) (c : Condition τ) : Condition τ :=
  { c with life := c.life.beginSleep, position := .napping seconds }

/-- The condition when the connection was acknowledged. -/
def acknowledged (c : Condition τ) : Condition τ :=
  { c.withStatus .connected with backoff := c.backoff.reset, breaker := c.breaker.succeed.1 }

variable [Scalar τ]

/-- The condition when the end of a session was counted as a failure. -/
def failed (now : τ) (c : Condition τ) : Condition τ := { c with breaker := (c.breaker.fail now).1 }

/-- The condition when the breaker was read. -/
def readBreaker (now : τ) (c : Condition τ) : Condition τ := { c with breaker := (c.breaker.read now).1 }

@[simp] theorem readBreaker_readBreaker (now : τ) (c : Condition τ) :
    (c.readBreaker now).readBreaker now = c.readBreaker now :=
  congrArg (fun b => { c with breaker := b }) (c.breaker.read_read now)

end Condition

section Elementary

variable (w : Watcher τ)

@[simp] theorem condition_say (n : Notice) : (w.say n).condition = w.condition := rfl
@[simp] theorem condition_note (e : Entry) : (w.note e).condition = w.condition := rfl
@[simp] theorem condition_goto (p : Position τ) : (w.goto p).condition = w.condition.atPosition p := rfl
@[simp] theorem condition_sweep (a : After) : (w.sweep a).condition = w.condition.atPosition (.querying .listing a) := rfl

@[simp] theorem condition_sayAll (ns : List Notice) : (sayAll ns w).condition = w.condition := by
  induction ns generalizing w with
  | nil => rfl
  | cons n ns ih => exact ih (w.say n)

@[simp] theorem condition_noteStatus (s : Status) : (noteStatus s w).condition = w.condition := by
  unfold noteStatus; split <;> rfl

@[simp] theorem condition_setStatus (s : Status) : (w.setStatus s).condition = w.condition.withStatus s := by
  unfold setStatus; exact condition_noteStatus _ _

@[simp] theorem condition_connect (url : String) :
    (w.connect url).condition = (w.condition.withStatus .connecting).atPosition .connecting :=
  congrArg (Condition.atPosition .connecting) (condition_setStatus w .connecting)

@[simp] theorem condition_fallBack : w.fallBack.condition = w.condition.standingIn := by
  unfold fallBack
  split
  · rw [condition_sweep, condition_setStatus]; rfl
  · rw [condition_sweep, condition_setStatus]; rfl

theorem condition_stop : w.stop.condition = { w.condition with life := w.life.stop } := by
  unfold stop
  dsimp only
  split <;> rfl

/-- The end of a task. -/
theorem condition_finish_eq :
    w.finish.condition =
      { w.condition with
        life := w.life.finish.1
        position := if w.life.finish.2 = .handedOver then .created else .absent } := by
  unfold finish
  rcases hlife : w.life.finish with ⟨life, ended⟩
  cases ended with
  | handedOver => rfl
  | crashed => exact condition_noteStatus _ _
  | stopped => exact condition_noteStatus _ _

/-- The end of a task in a session that is over. -/
theorem condition_finish (ha : w.life.active = false) : w.finish.condition = w.condition.finished := by
  have hended : w.life.finish.2 ≠ .handedOver := by
    cases htask : w.life.task with
    | none => simp [Lifecycle.finish, htask]
    | some t => simp [Lifecycle.finish, Lifecycle.settle, htask, ha]
  rw [condition_finish_eq, if_neg hended]
  rfl

@[simp] theorem condition_acknowledge : w.acknowledge.condition = w.condition.acknowledged := by
  let told := if w.life.status = .connected then w else w.say .established
  have htold : told.condition = w.condition := by
    show (if w.life.status = .connected then w else w.say .established).condition = w.condition
    split <;> rfl
  have hset : (told.setStatus .connected).condition = w.condition.withStatus .connected := by
    rw [condition_setStatus, htold]
  show (sayAll (told.setStatus .connected).breaker.succeed.2 { told.setStatus .connected with
    backoff := (told.setStatus .connected).backoff.reset
    breaker := (told.setStatus .connected).breaker.succeed.1 }).condition = _
  rw [condition_sayAll]
  show { (told.setStatus .connected).condition with
    backoff := (told.setStatus .connected).condition.backoff.reset
    breaker := (told.setStatus .connected).condition.breaker.succeed.1 } = _
  rw [hset]
  rfl

variable [Scalar τ] (now : τ)

@[simp] theorem condition_readBreaker : (w.readBreaker now).condition = w.condition.readBreaker now :=
  condition_sayAll { w with breaker := (w.breaker.read now).1 } _

end Elementary

variable [Scalar τ] {now : τ} {w : Watcher τ}

/-! ## The top of the loop -/

/-- What the top of the loop leads to. -/
inductive Condition.Looped (now : τ) (c : Condition τ) : Condition τ → Prop
  | finished (hactive : c.life.active = false) : c.Looped now c.finished
  | polls {interval : τ} (hactive : c.life.active = true) (hs : c.strategy = .polling interval) :
      c.Looped now ((c.withStatus .polling).atPosition (.querying .listing .idle))
  /-- The subscription was given up for sweeps. -/
  | givenUp {url : String} {interval patience : τ} (hactive : c.life.active = true)
      (hs : c.strategy = .push url true interval patience) (hpush : c.pushEnabled = false) : c.Looped now c.standingIn
  /-- The breaker does not let the task connect. -/
  | held {url : String} {interval patience : τ} (hactive : c.life.active = true)
      (hs : c.strategy = .push url true interval patience) (hpush : c.pushEnabled = true)
      (hopen : (c.breaker.read now).1.isOpen = true) : c.Looped now (c.readBreaker now).standingIn
  /-- The breaker lets the task connect. -/
  | tries {url : String} {interval patience : τ} (hactive : c.life.active = true)
      (hs : c.strategy = .push url true interval patience) (hpush : c.pushEnabled = true)
      (hopen : (c.breaker.read now).1.isOpen = false) :
      c.Looped now (((c.readBreaker now).withStatus .connecting).atPosition .connecting)
  | connects {url : String} {interval patience : τ} (hactive : c.life.active = true)
      (hs : c.strategy = .push url false interval patience) :
      c.Looped now ((c.withStatus .connecting).atPosition .connecting)

theorem looped_loop (now : τ) (w : Watcher τ) : w.condition.Looped now (w.loop now).condition := by
  unfold loop
  cases hactive : w.life.active with
  | false =>
    rw [if_pos (by rfl), condition_finish w hactive]
    exact .finished hactive
  | true =>
    rw [if_neg (by simp)]
    cases hs : w.strategy with
    | polling interval =>
      dsimp only
      rw [condition_sweep, condition_setStatus]
      exact .polls hactive hs
    | push url fallback interval patience =>
      cases fallback with
      | false =>
        have havoids : w.avoidsPush = false := by simp [avoidsPush, hasFallback, hs, Strategy.hasFallback]
        simp only [Bool.false_and, Bool.false_eq_true, if_false, havoids, condition_connect]
        exact .connects hactive hs
      | true =>
        cases hpush : w.pushEnabled with
        | false =>
          have havoids : w.avoidsPush = true := by simp [avoidsPush, hasFallback, hs, Strategy.hasFallback, hpush]
          simp only [Bool.and_false, Bool.false_eq_true, if_false, havoids, if_true, condition_fallBack]
          exact .givenUp hactive hs hpush
        | true =>
          have hread := condition_readBreaker w now
          have hstrategy : (w.readBreaker now).strategy = .push url true interval patience :=
            (congrArg Condition.strategy hread).trans hs
          have hpush' : (w.readBreaker now).pushEnabled = true := (congrArg Condition.pushEnabled hread).trans hpush
          have hbreaker : (w.readBreaker now).breaker = (w.breaker.read now).1 := congrArg Condition.breaker hread
          have havoids : (w.readBreaker now).avoidsPush = (w.breaker.read now).1.isOpen := by
            simp [avoidsPush, hasFallback, hstrategy, Strategy.hasFallback, hpush', hbreaker]
          simp only [Bool.and_true, if_true, havoids]
          cases hopen : (w.breaker.read now).1.isOpen with
          | true =>
            rw [if_pos rfl, condition_fallBack, hread]
            exact .held hactive hs hpush hopen
          | false =>
            rw [if_neg Bool.false_ne_true, condition_connect, hread]
            exact .tries hactive hs hpush hopen

/-! ## The end of a session -/

/-- What the end of a session leads to. -/
inductive Condition.SessionEnd (now : τ) (c : Condition τ) : Condition τ → Prop
  | finished (hactive : c.life.active = false) : c.SessionEnd now c.finished
  /-- All attempts are used up, and there is nothing else to do. -/
  | givesUp (hactive : c.life.active = true) (hexhausted : c.backoff.exhausted = true)
      (hs : c.strategy.hasFallback = false) :
      c.SessionEnd now
        ({ c.failed now with life := { c.life with active := false, status := .failed } } : Condition τ).finished
  /-- All attempts are used up, and sweeps take the place of the subscription. -/
  | disables (hactive : c.life.active = true) (hexhausted : c.backoff.exhausted = true)
      (hs : c.strategy.hasFallback = true) : c.SessionEnd now { (c.failed now).standingIn with pushEnabled := false }
  /-- The breaker is open, and sweeps stand in for the subscription. -/
  | diverts (hactive : c.life.active = true) (hexhausted : c.backoff.exhausted = false)
      (hs : c.strategy.hasFallback = true) (hopen : ((c.breaker.fail now).1.read now).1.isOpen = true) :
      c.SessionEnd now ((c.failed now).readBreaker now).standingIn
  /-- A delay is drawn. -/
  | draws (hactive : c.life.active = true) (hexhausted : c.backoff.exhausted = false)
      (hopen : c.strategy.hasFallback = true → ((c.breaker.fail now).1.read now).1.isOpen = false) :
      c.SessionEnd now { (((c.failed now).readBreaker now).withStatus
        (if ((c.breaker.fail now).1.read now).1.isOpen then .degraded else .reconnecting)).napping c.backoff.next.1 with
          backoff := c.backoff.next.2 }

/-- The top of the loop where the subscription is given up, or was just found to be held back. -/
theorem condition_loop_of_avoids (hactive : w.life.active = true) (hs : w.strategy.hasFallback = true)
    (havoids : w.pushEnabled = false ∨ w.condition.readBreaker now = w.condition ∧ w.breaker.isOpen = true) :
    (w.loop now).condition = w.condition.standingIn := by
  have hloop := looped_loop now w
  generalize (w.loop now).condition = c' at hloop ⊢
  cases hloop with
  | givenUp _ _ _ => rfl
  | held _ _ hpush _ =>
    obtain hno | ⟨hread, -⟩ := havoids
    · exact absurd (hno.symm.trans hpush) Bool.false_ne_true
    · rw [hread]
  | tries _ _ hpush hclosed =>
    obtain hno | ⟨hread, hopen⟩ := havoids
    · exact absurd (hno.symm.trans hpush) Bool.false_ne_true
    · have hbreaker : (w.breaker.read now).1 = w.breaker := congrArg Condition.breaker hread
      rw [show (w.condition.breaker.read now).1 = w.breaker from hbreaker, hopen] at hclosed
      cases hclosed
  | finished hinactive => exact absurd (hinactive.symm.trans hactive) Bool.false_ne_true
  | polls _ hpolls =>
    rw [show w.strategy = _ from hpolls] at hs
    cases hs
  | connects _ hpushes =>
    rw [show w.strategy = _ from hpushes] at hs
    cases hs

theorem sessionEnd_giveUp (now : τ) {c : Condition τ} (hc : w.condition = c.failed now) (hactive : c.life.active = true)
    (hexhausted : c.backoff.exhausted = true) : c.SessionEnd now (w.giveUp now).condition := by
  have hstrategy : w.strategy = c.strategy := congrArg Condition.strategy hc
  cases hs : c.strategy.hasFallback with
  | false =>
    let failed := (w.say (.givingUp w.backoff.attempt)).setStatus .failed
    let closed := { failed with life := failed.life.clearFlag }
    have hgiveUp : w.giveUp now = closed.finish := by
      refine if_neg ?_
      show ¬ w.strategy.hasFallback = true
      rw [hstrategy, hs]
      exact Bool.false_ne_true
    have hclosed : closed.condition =
        ({ c.failed now with life := { c.life with active := false, status := .failed } } : Condition τ) := by
      have hfailed : failed.condition = (c.failed now).withStatus .failed := by
        rw [← hc]
        exact condition_setStatus _ _
      show ({ failed.condition with life := failed.condition.life.clearFlag } : Condition τ) = _
      rw [hfailed]
      rfl
    rw [hgiveUp, condition_finish closed rfl, hclosed]
    exact .givesUp hactive hexhausted hs
  | true =>
    let closed := { w.say (.givingUp w.backoff.attempt) with pushEnabled := false }
    have hfallback : w.strategy.hasFallback = true := by rw [hstrategy, hs]
    have hgiveUp : w.giveUp now = closed.loop now := if_pos hfallback
    have hactive' : closed.life.active = true := (congrArg (Lifecycle.active ∘ Condition.life) hc).trans hactive
    have hclosed : closed.condition = ({ c.failed now with pushEnabled := false } : Condition τ) := by
      rw [← hc]
      rfl
    rw [hgiveUp, condition_loop_of_avoids hactive' hfallback (Or.inl rfl), hclosed]
    exact .disables hactive hexhausted hs

/-- A nap is taken in a session that goes on. -/
theorem condition_nap (seconds : τ) (hactive : w.life.active = true) :
    (w.nap seconds).condition = w.condition.napping (Scalar.clamp seconds) := by
  rw [nap, if_pos hactive]
  rfl

/-- The nap before the next attempt. -/
theorem condition_reconnect (now : τ) (hactive : w.life.active = true) :
    (w.reconnect now).condition =
      { ((w.condition.readBreaker now).withStatus
          (if (w.breaker.read now).1.isOpen then .degraded else .reconnecting)).napping w.backoff.next.1 with
        backoff := w.backoff.next.2 } := by
  let read := readBreaker now { w with backoff := w.backoff.next.2 }
  let told := (read.setStatus (if read.breaker.isOpen then .degraded else .reconnecting)).say
    (.reconnecting (Scalar.tenths w.backoff.next.1) (read.setStatus
      (if read.breaker.isOpen then .degraded else .reconnecting)).backoff.attempt)
  have hread : read.condition = { w.condition.readBreaker now with backoff := w.backoff.next.2 } :=
    condition_readBreaker _ now
  have hbreaker : read.breaker = (w.breaker.read now).1 := congrArg Condition.breaker hread
  have htold : told.condition = read.condition.withStatus (if read.breaker.isOpen then .degraded else .reconnecting) :=
    condition_setStatus read _
  rw [hbreaker, hread] at htold
  have hactive' : told.life.active = true := (congrArg (Lifecycle.active ∘ Condition.life) htold).trans hactive
  show (told.nap w.backoff.next.1).condition = _
  rw [condition_nap w.backoff.next.1 hactive', htold, Backoff.clamp_next]
  rfl

/-- Where attempts are left, the breaker decides. -/
theorem sessionEnd_retry (now : τ) {c : Condition τ} (hc : w.condition = c.failed now) (hactive : c.life.active = true)
    (hexhausted : c.backoff.exhausted = false) :
    c.SessionEnd now (let v := if w.hasFallback then w.readBreaker now else w
      if v.hasFallback && v.breaker.isOpen then v.loop now else v.reconnect now).condition := by
  have hstrategy : w.strategy = c.strategy := congrArg Condition.strategy hc
  cases hs : c.strategy.hasFallback with
  | false =>
    have hfallback : w.hasFallback = false := by rw [hasFallback, hstrategy, hs]
    have hactive' : w.life.active = true := (congrArg (Lifecycle.active ∘ Condition.life) hc).trans hactive
    have hbackoff : w.backoff = c.backoff := congrArg Condition.backoff hc
    have hbreaker : w.breaker = (c.breaker.fail now).1 := congrArg Condition.breaker hc
    simp only [hfallback, Bool.false_eq_true, if_false, Bool.false_and]
    rw [condition_reconnect now hactive', hc, hbackoff, hbreaker]
    exact .draws hactive hexhausted fun hyes => absurd (hs.symm.trans hyes) Bool.false_ne_true
  | true =>
    let read := w.readBreaker now
    have hread : read.condition = (c.failed now).readBreaker now := by rw [condition_readBreaker, hc]
    have hfallback : w.hasFallback = true := by rw [hasFallback, hstrategy, hs]
    have hfallback' : read.strategy.hasFallback = true :=
      (congrArg (Strategy.hasFallback ∘ Condition.strategy) hread).trans hs
    have hactive' : read.life.active = true := (congrArg (Lifecycle.active ∘ Condition.life) hread).trans hactive
    have hbreaker : read.breaker = ((c.breaker.fail now).1.read now).1 := congrArg Condition.breaker hread
    have hbackoff : read.backoff = c.backoff := congrArg Condition.backoff hread
    simp only [hfallback, if_true]
    show c.SessionEnd now
      (if read.strategy.hasFallback && read.breaker.isOpen then read.loop now else read.reconnect now).condition
    rw [hfallback', Bool.true_and]
    cases hopen : read.breaker.isOpen with
    | true =>
      have hsame : read.condition.readBreaker now = read.condition := by
        rw [hread, Condition.readBreaker_readBreaker]
      rw [if_pos rfl, condition_loop_of_avoids hactive' hfallback' (Or.inr ⟨hsame, hopen⟩), hread]
      exact .diverts hactive hexhausted hs (hbreaker ▸ hopen)
    | false =>
      rw [if_neg Bool.false_ne_true, condition_reconnect now hactive', hread, hbackoff,
        Condition.readBreaker_readBreaker, hbreaker, Breaker.read_read]
      exact .draws hactive hexhausted fun _ => hbreaker ▸ hopen

theorem sessionEnd_sessionEnded (now : τ) (w : Watcher τ) :
    w.condition.SessionEnd now (w.sessionEnded now).condition := by
  cases hactive : w.life.active with
  | false =>
    rw [sessionEnded, if_pos (by rw [hactive]; rfl), condition_finish w hactive]
    exact .finished hactive
  | true =>
    let counted := sayAll (w.breaker.fail now).2 { w with breaker := (w.breaker.fail now).1 }
    have hcounted : counted.condition = w.condition.failed now := condition_sayAll _ _
    have hbackoff : counted.backoff = w.backoff := congrArg Condition.backoff hcounted
    have hended : w.sessionEnded now = if counted.backoff.exhausted then counted.giveUp now else
        let v := if counted.hasFallback then counted.readBreaker now else counted
        if v.hasFallback && v.breaker.isOpen then v.loop now else v.reconnect now := if_neg (by simp [hactive])
    rw [hended]
    cases hexhausted : counted.backoff.exhausted with
    | true =>
      rw [if_pos rfl]
      exact sessionEnd_giveUp now hcounted hactive ((congrArg Backoff.exhausted hbackoff).symm.trans hexhausted)
    | false =>
      rw [if_neg Bool.false_ne_true]
      exact sessionEnd_retry now hcounted hactive ((congrArg Backoff.exhausted hbackoff).symm.trans hexhausted)

theorem sessionEnd_sessionFailed (now : τ) (f : Fault) (w : Watcher τ) :
    w.condition.SessionEnd now (w.sessionFailed now f).condition :=
  sessionEnd_sessionEnded now (w.say _)

/-! ## Where a piece of work is done -/

/-- What a task leads to that is at work or waits for a frame, or goes on as told: at the top of its loop, in a nap or
with the next frame. -/
inductive Condition.Onward (now : τ) (a : After) (c : Condition τ) : Condition τ → Prop
  | works {p : Position τ} (hp : p.IsWork a) : c.Onward now a (c.atPosition p)
  | loops {c' : Condition τ} (ha : a = .loop) (h : c.Looped now c') : c.Onward now a c'
  | idles {interval : τ} (ha : a = .idle) (hs : c.strategy = .polling interval) (hactive : c.life.active = true) :
      c.Onward now a ((c.withStatus .idle).napping (Scalar.clamp interval))
  | rests {url : String} {fallback : Bool} {interval patience : τ} (ha : a = .fallback)
      (hs : c.strategy = .push url fallback interval patience) (hactive : c.life.active = true) :
      c.Onward now a (c.napping (Scalar.clamp interval))
  | listens (ha : a = .receive) (hactive : c.life.active = true) : c.Onward now a (c.atPosition .receiving)
  | finished (hactive : c.life.active = false) : c.Onward now a c.finished
  /-- There is nothing to go on with. -/
  | drops (ha : ¬ a.Fits c.strategy) : c.Onward now a (c.atPosition .absent)

theorem onward_receive (now : τ) (w : Watcher τ) : w.condition.Onward now .receive (w.receive now).condition := by
  unfold receive
  cases hactive : w.life.active with
  | true => exact .listens rfl hactive
  | false =>
    have hended := sessionEnd_sessionEnded now (w.note .left)
    rw [if_neg Bool.false_ne_true]
    generalize ((w.note .left).sessionEnded now).condition = c' at hended ⊢
    cases hended with
    | finished _ => exact .finished hactive
    | givesUp hno _ _ => exact absurd (hactive.symm.trans hno) Bool.false_ne_true
    | disables hno _ _ => exact absurd (hactive.symm.trans hno) Bool.false_ne_true
    | diverts hno _ _ _ => exact absurd (hactive.symm.trans hno) Bool.false_ne_true
    | draws hno _ _ => exact absurd (hactive.symm.trans hno) Bool.false_ne_true

theorem onward_goOn (now : τ) (a : After) (w : Watcher τ) : w.condition.Onward now a (w.goOn now a).condition := by
  cases a with
  | loop => exact .loops rfl (looped_loop now w)
  | receive => exact onward_receive now w
  | caller => exact .drops (by cases w.condition.strategy <;> simp [After.Fits])
  | idle =>
    cases hs : w.strategy with
    | push url fallback interval patience =>
      simp only [goOn, hs]
      exact .drops (by simp [condition, hs, After.Fits])
    | polling interval =>
      simp only [goOn, hs]
      cases hactive : w.life.active with
      | true =>
        have hset := condition_setStatus w .idle
        have hactive' : (w.setStatus .idle).life.active = true :=
          (congrArg (Lifecycle.active ∘ Condition.life) hset).trans hactive
        rw [if_pos rfl, condition_nap interval hactive', hset]
        exact .idles rfl hs hactive
      | false =>
        rw [if_neg Bool.false_ne_true, condition_finish w hactive]
        exact .finished hactive
  | fallback =>
    cases hs : w.strategy with
    | polling interval =>
      simp only [goOn, hs]
      exact .drops (by simp [condition, hs, After.Fits])
    | push url fallback interval patience =>
      simp only [goOn, hs]
      cases hactive : w.life.active with
      | true =>
        rw [condition_nap interval hactive]
        exact .rests rfl hs hactive
      | false =>
        rw [nap, if_neg (by simp [hactive]), condition_finish w hactive]
        exact .finished hactive

theorem onward_pursue (now : τ) (libraries : List Text) (a : After) (bs : List (Hook × List Event)) (w : Watcher τ) :
    w.condition.Onward now a (pursue now libraries a bs w).condition := by
  induction bs generalizing w with
  | nil =>
    cases libraries with
    | nil => exact onward_goOn now a w
    | cons library rest => exact .works rfl
  | cons b bs ih =>
    obtain ⟨hook, events⟩ := b
    rw [pursue]
    split
    · exact ih w
    · dsimp only
      split
      · exact ih { w with lastEventAt := some now }
      · exact .works rfl

theorem onward_notified (now : τ) (o : Outcome) (left : List Event) (d : Delivery) (e : Errand) (w : Watcher τ) :
    w.condition.Onward now e.after (w.notified now o left d e).condition := by
  have hnoted (v : Watcher τ) : v.condition.Onward now e.after
      (if d.listener + 1 < v.listeners.length
        then v.goto (.notifying { d with batch := left, listener := d.listener + 1 } e)
        else pursue now e.libraries e.after e.batches v).condition := by
    split
    · exact .works rfl
    · exact onward_pursue now e.libraries e.after e.batches v
  cases o with
  | returned => exact hnoted w
  | late => exact hnoted (w.say _)
  | failed => exact hnoted (w.say _)

theorem onward_answered (now : τ) (w : Watcher τ) (s : Sweep) (a : After)
    (reply : Except Text (s.query w.detector).Reply) :
    w.condition.Onward now a (w.answered now s a reply).condition := by
  let stored := sayAll (s.step w.detector w.store reply).notices { w with
    store := (s.step w.detector w.store reply).store }
  have hstored : stored.condition = w.condition := condition_sayAll _ _
  rw [← hstored]
  cases hprogress : (s.step w.detector w.store reply).progress with
  | ask next =>
    have hanswered : w.answered now s a reply = stored.goto (.querying next a) := by
      simp only [answered, hprogress, stored]
    rw [hanswered]
    cases next with
    | listing => exact absurd hprogress (s.step_ne_listing w.detector w.store reply)
    | reading e rest => exact .works rfl
  | report changes rest =>
    have hanswered : w.answered now s a reply = stored.emit now changes rest a := by
      simp only [answered, hprogress, stored]
    rw [hanswered]
    exact onward_pursue now rest a (batches changes) stored
  | done =>
    have hanswered : w.answered now s a reply = stored.goOn now a := by simp only [answered, hprogress, stored]
    rw [hanswered]
    exact onward_goOn now a stored

/-- What a text frame leads to that neither acknowledges the connection nor ends the session. -/
theorem onward_handle (now : τ) (f : TextFrame) (w : Watcher τ) (hack : (Frame.read f).acknowledges = false)
    (hends : (Frame.read f).ends = false) :
    w.condition.Onward now .receive (w.handle now f .receive).condition := by
  unfold handle
  cases hread : Frame.read f with
  | acknowledged => rw [hread] at hack; cases hack
  | created e => exact onward_pursue now [] .receive _ w
  | complained payload => exact onward_receive now (w.say _)
  | unreadable => exact onward_receive now (w.say _)
  | silent => exact onward_receive now w
  | completed => rw [hread] at hends; cases hends
  | rejected payload => rw [hread] at hends; cases hends

end Watcher

end MediaWatch
