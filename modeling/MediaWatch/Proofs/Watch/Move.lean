import MediaWatch.Proofs.Watch.Condition
import MediaWatch.Proofs.Watch.Reconnect

/-!
# What a watcher can do

This module says once what a stimulus can make of a watcher, whatever its strategy and wherever its task stands
(`Watcher.Move`, `Watcher.move`). The task is touched from outside, or it gets what it has been waiting for, or its
connection is acknowledged, or its session ends. What holds of all runs is derived from these cases, and not from the
steps themselves: what a stimulus leaves as it is (`Condition.Keeps`, `Watcher.passage`), that a task connects in a
session that goes on alone (`Watcher.active_of_connects`), the places where the task of a strategy can stand
(`Condition.Placed`), and that a watcher without a task does nothing (`Watcher.run_of_absent`).
-/

namespace MediaWatch

/-- A task that ends in a session that is over leaves its watcher stopped, unless that has failed before. -/
theorem Lifecycle.finish_of_inactive {l : Lifecycle} (hactive : l.active = false) :
    l.finish.1 =
      if l.task = none then l else { l with task := none, status := if l.status = .failed then .failed else .stopped } := by
  cases htask : l.task with
  | none => simp [finish, htask]
  | some t => simp [finish, settle, htask, hactive]

namespace Watcher

variable {τ : Type} [Scalar τ] {now : τ} {w : Watcher τ}

/-! ## Stimuli -/

/-- What a stimulus does from outside the task. -/
inductive Condition.Touched (now : τ) (x : Stimulus) (c : Condition τ) : Condition τ → Prop
  | still : c.Touched now x c
  | starts (hx : x = .start) (hactive : c.life.active = false) (htask : c.life.task = none) :
      c.Touched now x
        { c with
          life := { c.life with active := true, generation := c.life.generation + 1, status := .starting }.spawn
          position := .created }
  | resumes (hx : x = .start) (hactive : c.life.active = false) (htask : c.life.task ≠ none) :
      c.Touched now x { c with life := { c.life with active := true, generation := c.life.generation + 1 } }
  | stops (hx : x = .stop) : c.Touched now x { c with life := c.life.stop }
  | wakes (hx : x = .woken) : c.Touched now x { c with life := c.life.wake }
  | looks : c.Touched now x (c.readBreaker now)

/-- What a task leads to that gets what it has been waiting for. -/
inductive Condition.Passed (now : τ) (c : Condition τ) : Condition τ → Prop
  | begins (hp : c.position = .created) (hs : c.strategy.hasFallback = true) :
      c.Passed now (c.atPosition (.querying .listing .loop))
  | opens (hp : c.position = .connecting) : c.Passed now (c.atPosition (.sending .hello))
  | greets (hp : c.position = .sending .hello) : c.Passed now (c.atPosition (.sending .subscribe))
  | loops {c' : Condition τ} (hp : c.position = .created ∨ ∃ seconds, c.position = .napping seconds)
      (h : c.Looped now c') : c.Passed now c'
  | goesOn {a : After} {c' : Condition τ} (hp : c.position.after? = some a) (h : c.Onward now a c') : c.Passed now c'

/-- What a stimulus can do to a watcher. -/
inductive Move (now : τ) (x : Stimulus) (w : Watcher τ) : Prop
  | touched (hends : w.endsSession x = false) (hack : w.acknowledges x = false) (hdeeds : w.deeds now x = [])
      (h : w.condition.Touched now x (w.react now x).condition)
  | passed (hends : w.endsSession x = false) (hack : w.acknowledges x = false)
      (hdeeds : w.deeds now x = w.occasion x ++ (w.react now x).position.entering)
      (h : w.condition.Passed now (w.react now x).condition)
  /-- The connection is acknowledged, and the next frame is waited for. -/
  | acknowledged (hends : w.endsSession x = false) (hack : w.acknowledges x = true) (hp : w.position = .receiving)
      (hdeeds : w.deeds now x = w.occasion x ++ (w.react now x).position.entering)
      (hs : w.strategy.hasFallback = false)
      (h : w.condition.acknowledged.Onward now .receive (w.react now x).condition)
  /-- The connection is acknowledged, and a sweep catches up on what was missed. -/
  | catchesUp (hends : w.endsSession x = false) (hack : w.acknowledges x = true) (hp : w.position = .receiving)
      (hdeeds : w.deeds now x = w.occasion x ++ (w.react now x).position.entering)
      (hs : w.strategy.hasFallback = true)
      (h : (w.react now x).condition = w.condition.acknowledged.atPosition (.querying .listing .receive))
  | ended (hends : w.endsSession x = true) (hack : w.acknowledges x = false)
      (hdeeds : w.deeds now x = w.occasion x ++ (w.react now x).position.entering)
      (h : w.condition.SessionEnd now (w.react now x).condition)

theorem touched_start (now : τ) (w : Watcher τ) : w.condition.Touched now .start w.start.condition := by
  unfold start
  cases hactive : w.life.active with
  | true =>
    rw [show w.life.start = (w.life, .already) by simp [Lifecycle.start, hactive]]
    exact .still
  | false =>
    cases htask : w.life.task with
    | some t =>
      rw [show w.life.start = ({ w.life with active := true, generation := w.life.generation + 1 }, .resumed) by
        simp [Lifecycle.start, hactive, htask]]
      exact .resumes rfl hactive (by simp [condition, htask])
    | none =>
      let life := { w.life with active := true, generation := w.life.generation + 1, status := .starting }.spawn
      rw [show w.life.start = (life, .created) by simp [Lifecycle.start, hactive, htask, life]]
      show w.condition.Touched now .start (noteStatus w.life.status { w with life, position := .created }).condition
      rw [condition_noteStatus]
      exact .starts rfl hactive htask

theorem touched_stop (now : τ) (w : Watcher τ) : w.condition.Touched now .stop w.stop.condition := by
  rw [condition_stop]
  exact .stops rfl

theorem touched_health (now : τ) (w : Watcher τ) : w.condition.Touched now .asked (w.health now).2.condition := by
  unfold health
  cases w.strategy with
  | polling interval => exact .still
  | push url fallback interval patience =>
    show w.condition.Touched now .asked (w.readBreaker now).condition
    rw [condition_readBreaker]
    exact .looks

/-- What the task does not wait for leaves it where it is. -/
theorem touched_of_carryOn_none {x : Stimulus} (hc : w.carryOn now x = none) :
    w.condition.Touched now x (w.react now x).condition := by
  cases x with
  | start => exact touched_start now w
  | stop => exact touched_stop now w
  | woken => exact .wakes rfl
  | asked => exact touched_health now w
  | _ =>
    rw [show w.react now _ = w by simp [react, hc]]
    exact .still

/-- A stimulus that the task does not wait for is neither the end of a session nor an acknowledgement. -/
theorem inert_of_carryOn_none {x : Stimulus} (hc : w.carryOn now x = none) :
    w.endsSession x = false ∧ w.acknowledges x = false := by
  constructor
  · unfold endsSession
    split <;> simp_all [carryOn]
  · unfold acknowledges
    split <;> simp_all [carryOn]

theorem Turn.react_eq {x : Stimulus} {w' : Watcher τ} (hturn : Turn now w x w') : w.react now x = w' := by
  cases hturn <;> simp_all [react, carryOn]

theorem Turn.deeds_eq {x : Stimulus} {w' : Watcher τ} (hturn : Turn now w x w') :
    w.deeds now x = w.occasion x ++ w'.position.entering := by
  cases hturn <;> simp_all [deeds, carryOn]

theorem move_of_begun (hp : w.position = .created) (hreact : w.react now .begun = w.begin now)
    (hdeeds : w.deeds now .begun = w.occasion .begun ++ (w.react now .begun).position.entering) : Move now .begun w := by
  refine .passed (by simp [endsSession]) (by simp [acknowledges]) hdeeds ?_
  rw [hreact, begin]
  have hloops (v : Watcher τ) (hv : v.condition = w.condition) : w.condition.Passed now (v.loop now).condition :=
    .loops (Or.inl hp) (hv ▸ looped_loop now v)
  cases hs : w.strategy with
  | polling interval => exact hloops _ rfl
  | push url fallback interval patience =>
    cases fallback with
    | true => exact .begins hp (by simp [condition, hs, Strategy.hasFallback])
    | false => exact hloops w rfl

theorem move_of_opened (hp : w.position = .connecting) (result : Except Fault Unit)
    (hreact : w.react now (.opened result) = w.opened now result)
    (hdeeds : w.deeds now (.opened result) =
      w.occasion (.opened result) ++ (w.react now (.opened result)).position.entering) : Move now (.opened result) w := by
  cases result with
  | ok _ =>
    refine .passed (by simp [endsSession]) (by simp [acknowledges]) hdeeds ?_
    rw [hreact]
    exact .opens hp
  | error f =>
    refine .ended (by simp [endsSession, hp]) (by simp [acknowledges]) hdeeds ?_
    rw [hreact]
    exact sessionEnd_sessionFailed now f w

theorem move_of_sent {frame : Opening} (hp : w.position = .sending frame) (result : Except Fault Unit)
    (hreact : w.react now (.sent result) = w.sent now frame result)
    (hdeeds : w.deeds now (.sent result) =
      w.occasion (.sent result) ++ (w.react now (.sent result)).position.entering) : Move now (.sent result) w := by
  cases result with
  | ok _ =>
    refine .passed (by simp [endsSession]) (by simp [acknowledges]) hdeeds ?_
    rw [hreact]
    cases frame with
    | hello => exact .greets hp
    | subscribe => exact .goesOn (a := .receive) (by simp [condition, hp, Position.after?]) (onward_receive now w)
  | error f =>
    refine .ended (by simp [endsSession, hp]) (by simp [acknowledges]) hdeeds ?_
    rw [hreact]
    exact sessionEnd_sessionFailed now f (w.note .left)

theorem move_of_text (hp : w.position = .receiving) (f : TextFrame)
    (hreact : w.react now (.arrival (.text f)) = w.received now (.text f))
    (hdeeds : w.deeds now (.arrival (.text f)) =
      w.occasion (.arrival (.text f)) ++ (w.react now (.arrival (.text f))).position.entering) :
    Move now (.arrival (.text f)) w := by
  have hends : w.endsSession (.arrival (.text f)) = (Frame.read f).ends := by simp [endsSession, hp]
  have hack : w.acknowledges (.arrival (.text f)) = (Frame.read f).acknowledges := by simp [acknowledges, hp]
  cases hframe : (Frame.read f).ends with
  | true =>
    obtain ⟨n, hhandle⟩ : ∃ n, w.handle now f .receive = w.say n := by
      unfold handle
      cases hread : Frame.read f with
      | completed => exact ⟨_, rfl⟩
      | rejected payload => exact ⟨_, rfl⟩
      | _ => rw [hread] at hframe; cases hframe
    refine .ended (hends.trans hframe) (hack.trans (Frame.acknowledges_of_ends hframe)) hdeeds ?_
    rw [hreact, received, if_pos hframe, hhandle]
    exact sessionEnd_sessionEnded now ((w.say n).note .left)
  | false =>
    have hreceived : w.received now (.text f) = w.handle now f .receive := if_neg (by simp [hframe])
    rw [hreceived] at hreact
    cases hknown : (Frame.read f).acknowledges with
    | false =>
      refine .passed (hends.trans hframe) (hack.trans hknown) hdeeds ?_
      rw [hreact]
      exact .goesOn (a := .receive) (by simp [condition, hp, Position.after?]) (onward_handle now f w hknown hframe)
    | true =>
      have hread : Frame.read f = .acknowledged := by
        cases hread : Frame.read f with
        | acknowledged => rfl
        | _ => rw [hread] at hknown; cases hknown
      have hcondition := condition_acknowledge w
      have hstrategy : w.acknowledge.strategy = w.strategy := congrArg Condition.strategy hcondition
      have hhandle : w.handle now f .receive =
          if w.acknowledge.strategy.hasFallback then w.acknowledge.sweep .receive else w.acknowledge.receive now := by
        unfold handle
        rw [hread]
        rfl
      rw [hstrategy] at hhandle
      cases hs : w.strategy.hasFallback with
      | true =>
        refine .catchesUp (hends.trans hframe) (hack.trans hknown) hp hdeeds hs ?_
        rw [hreact, hhandle, if_pos hs, condition_sweep, hcondition]
      | false =>
        refine .acknowledged (hends.trans hframe) (hack.trans hknown) hp hdeeds hs ?_
        rw [hreact, hhandle, if_neg (by rw [hs]; exact Bool.false_ne_true), ← hcondition]
        exact onward_receive now w.acknowledge

theorem move_of_arrival (hp : w.position = .receiving) (a : Arrival)
    (hreact : w.react now (.arrival a) = w.received now a)
    (hdeeds : w.deeds now (.arrival a) = w.occasion (.arrival a) ++ (w.react now (.arrival a)).position.entering) :
    Move now (.arrival a) w := by
  have hafter : w.condition.position.after? = some .receive := by simp [condition, hp, Position.after?]
  cases a with
  | text f => exact move_of_text hp f hreact hdeeds
  | nothing =>
    refine .passed (by simp [endsSession]) (by simp [acknowledges]) hdeeds (.goesOn hafter ?_)
    rw [hreact]
    exact onward_receive now w
  | binary =>
    refine .passed (by simp [endsSession]) (by simp [acknowledges]) hdeeds (.goesOn hafter ?_)
    rw [hreact]
    exact onward_receive now w
  | fault f =>
    refine .ended (by simp [endsSession, hp]) (by simp [acknowledges]) hdeeds ?_
    rw [hreact]
    exact sessionEnd_sessionFailed now f (w.note .left)

/-- **What a stimulus can do to a watcher**, whatever its strategy and wherever its task stands. -/
theorem move (now : τ) (x : Stimulus) (w : Watcher τ) : Move now x w := by
  cases hc : w.carryOn now x with
  | none =>
    obtain ⟨hends, hack⟩ := inert_of_carryOn_none hc
    exact .touched hends hack (by rw [deeds, hc]) (touched_of_carryOn_none hc)
  | some w' =>
    have hturn := turn_of_carryOn hc
    have hreact := hturn.react_eq
    have hdeeds : w.deeds now x = w.occasion x ++ (w.react now x).position.entering := by
      rw [hreact]
      exact hturn.deeds_eq
    cases hturn with
    | begun hp => exact move_of_begun hp hreact hdeeds
    | @reply s a c hp =>
      refine .passed (by simp [endsSession]) (by simp [acknowledges]) hdeeds ?_
      rw [hreact]
      exact .goesOn (a := a) (by simp [condition, hp, Position.after?]) (onward_answered now w s a _)
    | @called d e o left hp =>
      refine .passed (by simp [endsSession]) (by simp [acknowledges]) hdeeds ?_
      rw [hreact]
      exact .goesOn (a := e.after) (by simp [condition, hp, Position.after?]) (onward_notified now o left d e w)
    | opened result hp => exact move_of_opened hp result hreact hdeeds
    | sent result hp => exact move_of_sent hp result hreact hdeeds
    | arrival a hp => exact move_of_arrival hp a hreact hdeeds
    | rested hp =>
      refine .passed (by simp [endsSession]) (by simp [acknowledges]) hdeeds ?_
      rw [hreact]
      exact .loops (Or.inr ⟨_, hp⟩) (looped_loop now w)

/-- The end of a session. -/
theorem sessionEnd_of_endsSession {x : Stimulus} (hends : w.endsSession x = true) (now : τ) :
    w.condition.SessionEnd now (w.react now x).condition := by
  cases move now x w with
  | ended _ _ _ hended => exact hended
  | touched hno => rw [hends] at hno; cases hno
  | passed hno => rw [hends] at hno; cases hno
  | acknowledged hno => rw [hends] at hno; cases hno
  | catchesUp hno => rw [hends] at hno; cases hno

/-! ## What is left as it is -/

/-- A condition that a task comes to on its way: its session goes on or is over as before, its backoff has not moved, and
its breaker has been read at most. -/
structure Condition.Keeps (now : τ) (c c' : Condition τ) : Prop where
  strategy : c'.strategy = c.strategy
  active : c'.life.active = c.life.active
  posted : c'.life.posted ≤ c.life.posted
  backoff : c'.backoff = c.backoff
  breaker : c'.breaker = c.breaker ∨ c'.breaker = (c.breaker.read now).1
  pushEnabled : c'.pushEnabled = c.pushEnabled

section Keeping

variable {c c' : Condition τ}

theorem Condition.keeps_refl (now : τ) (c : Condition τ) : c.Keeps now c :=
  ⟨rfl, rfl, Nat.le_refl _, rfl, Or.inl rfl, rfl⟩

theorem Condition.keeps_finished (hactive : c.life.active = false) : c.Keeps now c.finished := by
  have hlife := Lifecycle.finish_of_inactive hactive
  refine ⟨rfl, ?_, ?_, rfl, Or.inl rfl, rfl⟩
  · show c.life.finish.1.active = c.life.active
    rw [hlife]
    split <;> rfl
  · show c.life.finish.1.posted ≤ c.life.posted
    rw [hlife]
    split <;> exact Nat.le_refl _

theorem Condition.Looped.keeps (h : c.Looped now c') : c.Keeps now c' := by
  cases h with
  | finished hactive => exact keeps_finished hactive
  | polls _ _ => exact ⟨rfl, rfl, Nat.le_refl _, rfl, Or.inl rfl, rfl⟩
  | givenUp _ _ _ => exact ⟨rfl, rfl, Nat.le_refl _, rfl, Or.inl rfl, rfl⟩
  | held _ _ _ _ => exact ⟨rfl, rfl, Nat.le_refl _, rfl, Or.inr rfl, rfl⟩
  | tries _ _ _ _ => exact ⟨rfl, rfl, Nat.le_refl _, rfl, Or.inr rfl, rfl⟩
  | connects _ _ => exact ⟨rfl, rfl, Nat.le_refl _, rfl, Or.inl rfl, rfl⟩

theorem Condition.Onward.keeps {a : After} (h : c.Onward now a c') : c.Keeps now c' := by
  cases h with
  | works _ => exact ⟨rfl, rfl, Nat.le_refl _, rfl, Or.inl rfl, rfl⟩
  | loops _ hlooped => exact hlooped.keeps
  | idles _ _ _ => exact ⟨rfl, rfl, Nat.le_refl _, rfl, Or.inl rfl, rfl⟩
  | rests _ _ _ => exact ⟨rfl, rfl, Nat.le_refl _, rfl, Or.inl rfl, rfl⟩
  | listens _ _ => exact ⟨rfl, rfl, Nat.le_refl _, rfl, Or.inl rfl, rfl⟩
  | finished hactive => exact keeps_finished hactive
  | drops _ => exact ⟨rfl, rfl, Nat.le_refl _, rfl, Or.inl rfl, rfl⟩

theorem Condition.Passed.keeps (h : c.Passed now c') : c.Keeps now c' := by
  cases h with
  | begins _ _ => exact ⟨rfl, rfl, Nat.le_refl _, rfl, Or.inl rfl, rfl⟩
  | opens _ => exact ⟨rfl, rfl, Nat.le_refl _, rfl, Or.inl rfl, rfl⟩
  | greets _ => exact ⟨rfl, rfl, Nat.le_refl _, rfl, Or.inl rfl, rfl⟩
  | loops _ hlooped => exact hlooped.keeps
  | goesOn _ honward => exact honward.keeps

/-- A start does nothing to a session that is active. -/
theorem Condition.Touched.keeps {x : Stimulus} (h : c.Touched now x c') (hstart : x = .start → c.life.active = true)
    (hstop : x ≠ .stop) : c.Keeps now c' := by
  cases h with
  | still => exact c.keeps_refl now
  | starts hx hinactive _ => exact absurd (hinactive.symm.trans (hstart hx)) Bool.false_ne_true
  | resumes hx hinactive _ => exact absurd (hinactive.symm.trans (hstart hx)) Bool.false_ne_true
  | stops hx => exact absurd hx hstop
  | wakes _ => exact ⟨rfl, rfl, Nat.sub_le _ _, rfl, Or.inl rfl, rfl⟩
  | looks => exact ⟨rfl, rfl, Nat.le_refl _, rfl, Or.inr rfl, rfl⟩

end Keeping

/-- What a stimulus means for the accounts of a watcher. -/
inductive Passage (now : τ) (x : Stimulus) (w : Watcher τ) : Prop
  | keeps (hends : w.endsSession x = false) (hack : w.acknowledges x = false)
      (h : w.condition.Keeps now (w.react now x).condition)
  | acknowledged (hends : w.endsSession x = false) (hack : w.acknowledges x = true)
      (h : w.condition.acknowledged.Keeps now (w.react now x).condition)
  | ended (hends : w.endsSession x = true) (hack : w.acknowledges x = false)
      (h : w.condition.SessionEnd now (w.react now x).condition)

/-- Unless a watcher is started anew or stopped, its accounts change with acknowledgements and the ends of sessions. -/
theorem passage (now : τ) {x : Stimulus} (hstart : x = .start → w.life.active = true) (hstop : x ≠ .stop) :
    Passage now x w := by
  cases move now x w with
  | touched hends hack _ htouched => exact .keeps hends hack (htouched.keeps hstart hstop)
  | passed hends hack _ hpassed => exact .keeps hends hack hpassed.keeps
  | acknowledged hends hack _ _ _ honward => exact .acknowledged hends hack honward.keeps
  | catchesUp hends hack _ _ _ hreact =>
    refine .acknowledged hends hack ?_
    rw [hreact]
    exact ⟨rfl, rfl, Nat.le_refl _, rfl, Or.inl rfl, rfl⟩
  | ended hends hack _ hended => exact .ended hends hack hended

/-! ## Attempts to connect -/

/-- A task that connects comes to that position. -/
theorem position_of_connects {x : Stimulus} (h : .connecting ∈ w.deeds now x) : (w.react now x).position = .connecting := by
  rcases react_cases now x w with ⟨hnone, -⟩ | ⟨-, hdeeds⟩
  · rw [hnone] at h
    cases h
  · rw [hdeeds] at h
    rcases List.mem_append.mp h with h | h
    · exact absurd rfl (List.countP_eq_zero.mp (connecting_occasion x w) _ h)
    · cases hp : (w.react now x).position with
      | connecting => rfl
      | querying s a => rw [hp] at h; cases s <;> simp [Position.entering] at h
      | _ => rw [hp] at h; simp [Position.entering] at h

/-- The top of the loop leads to an attempt in a session that goes on. -/
theorem Condition.Looped.active_of_connecting {c c' : Condition τ} (h : c.Looped now c')
    (hp : c'.position = .connecting) : c.life.active = true := by
  cases h with
  | tries hactive _ _ _ => exact hactive
  | connects hactive _ => exact hactive
  | _ => cases hp

theorem Condition.Onward.active_of_connecting {a : After} {c c' : Condition τ} (h : c.Onward now a c')
    (hp : c'.position = .connecting) : c.life.active = true := by
  cases h with
  | works hwork =>
    obtain rfl : _ = Position.connecting := hp
    exact hwork.elim
  | loops _ hlooped => exact hlooped.active_of_connecting hp
  | _ => cases hp

/-- The end of a session does not lead to an attempt at once. -/
theorem Condition.SessionEnd.position_ne {c c' : Condition τ} (h : c.SessionEnd now c') :
    c'.position ≠ .connecting := by
  intro hp
  cases h <;> cases hp

/-- A task that connects does so in a session that goes on. -/
theorem active_of_connects {x : Stimulus} (h : .connecting ∈ w.deeds now x) : w.life.active = true := by
  have hp : (w.react now x).condition.position = .connecting := position_of_connects h
  cases move now x w with
  | touched _ _ hdeeds _ =>
    rw [hdeeds] at h
    cases h
  | passed _ _ _ hpassed =>
    generalize (w.react now x).condition = c' at hpassed hp
    cases hpassed with
    | loops _ hlooped => exact hlooped.active_of_connecting hp
    | goesOn _ honward => exact honward.active_of_connecting hp
    | _ => cases hp
  | acknowledged _ _ _ _ _ honward => exact honward.active_of_connecting hp
  | catchesUp _ _ _ _ _ hreact =>
    rw [hreact] at hp
    cases hp
  | ended _ _ _ hended => exact absurd hp hended.position_ne

/-! ## Places -/

/-- A watcher of a strategy whose task stands where a task of that strategy can stand. -/
structure Condition.Placed (s : Strategy τ) (c : Condition τ) : Prop where
  strategy : c.strategy = s
  fits : c.position.Fits s

variable {s : Strategy τ} {c c' : Condition τ}

omit [Scalar τ] in
theorem fits_fallback_of_hasFallback (hs : s.hasFallback = true) : After.fallback.Fits s := by
  cases s with
  | polling interval => cases hs
  | push url backed interval patience => exact hs

theorem Condition.Looped.placed (h : c.Looped now c') (hc : c.strategy = s) : c'.Placed s := by
  cases h with
  | finished _ => exact ⟨hc, trivial⟩
  | polls _ hs => exact ⟨hc, by rw [← hc, hs]; trivial⟩
  | givenUp _ hs _ => exact ⟨hc, by rw [← hc, hs]; rfl⟩
  | held _ hs _ _ => exact ⟨hc, by rw [← hc, hs]; rfl⟩
  | tries _ hs _ _ => exact ⟨hc, by rw [← hc, hs]; trivial⟩
  | connects _ hs => exact ⟨hc, by rw [← hc, hs]; trivial⟩

theorem Condition.SessionEnd.placed (h : c.SessionEnd now c') (hc : c.strategy = s) : c'.Placed s := by
  cases h with
  | finished _ => exact ⟨hc, trivial⟩
  | givesUp _ _ _ => exact ⟨hc, trivial⟩
  | disables _ _ hs => exact ⟨hc, fits_fallback_of_hasFallback (hc ▸ hs)⟩
  | diverts _ _ hs _ => exact ⟨hc, fits_fallback_of_hasFallback (hc ▸ hs)⟩
  | draws _ _ _ => exact ⟨hc, trivial⟩

theorem Condition.Onward.placed {a : After} (h : c.Onward now a c') (hc : c.strategy = s) (ha : a.Fits s) :
    c'.Placed s := by
  cases h with
  | works hp => exact ⟨hc, hp.fits ha⟩
  | loops _ h => exact h.placed hc
  | idles _ _ _ => exact ⟨hc, trivial⟩
  | rests _ _ _ => exact ⟨hc, trivial⟩
  | listens hreceive _ =>
    subst hreceive
    exact ⟨hc, ha⟩
  | finished _ => exact ⟨hc, trivial⟩
  | drops _ => exact ⟨hc, trivial⟩

/-- Whatever happens, the strategy stays the same and the task stands where it can. -/
theorem placed_react (h : w.condition.Placed s) (now : τ) (x : Stimulus) : (w.react now x).condition.Placed s := by
  have hs := h.strategy
  cases move now x w with
  | touched _ _ _ htouched =>
    generalize (w.react now x).condition = c' at htouched ⊢
    cases htouched with
    | still => exact h
    | starts _ _ _ => exact ⟨hs, trivial⟩
    | resumes _ _ _ => exact ⟨hs, h.fits⟩
    | stops _ => exact ⟨hs, h.fits⟩
    | wakes _ => exact ⟨hs, h.fits⟩
    | looks => exact ⟨hs, h.fits⟩
  | passed _ _ _ hpassed =>
    generalize (w.react now x).condition = c' at hpassed ⊢
    cases hpassed with
    | begins _ _ => exact ⟨hs, After.fits_loop s⟩
    | opens hp =>
      have hfits := h.fits
      rw [hp] at hfits
      exact ⟨hs, hfits⟩
    | greets hp =>
      have hfits := h.fits
      rw [hp] at hfits
      exact ⟨hs, hfits⟩
    | loops _ hlooped => exact hlooped.placed hs
    | goesOn hp honward => exact honward.placed hs (h.fits.of_after? hp)
  | acknowledged _ _ hp _ _ honward =>
    have hfits := h.fits
    rw [show w.condition.position = .receiving from hp] at hfits
    exact honward.placed hs hfits
  | catchesUp _ _ hp _ _ hreact =>
    have hfits := h.fits
    rw [show w.condition.position = .receiving from hp] at hfits
    rw [hreact]
    exact ⟨hs, hfits⟩
  | ended _ _ _ hended => exact hended.placed hs

/-! ## Watchers without a task -/

theorem carryOn_of_absent {x : Stimulus} (hp : w.position = .absent) : w.carryOn now x = none := by
  cases x <;> simp [carryOn, hp]

/-- A watcher without a task does nothing before it is started. -/
theorem run_of_absent (hp : w.position = .absent) {ys : List (τ × Stimulus)} (hys : ∀ y ∈ ys, y.2 ≠ .start) :
    (w.run ys).position = .absent ∧ w.history ys = [] := by
  induction ys generalizing w with
  | nil => exact ⟨hp, rfl⟩
  | cons y ys ih =>
    obtain ⟨now, x⟩ := y
    obtain ⟨hx, hys⟩ := List.forall_mem_cons.mp hys
    have hcarry : w.carryOn now x = none := carryOn_of_absent hp
    have hposition : (w.react now x).position = .absent := by
      have htouched := touched_of_carryOn_none hcarry
      show (w.react now x).condition.position = .absent
      generalize (w.react now x).condition = c' at htouched ⊢
      cases htouched with
      | starts hstart => exact absurd hstart hx
      | _ => exact hp
    obtain ⟨hrun, hhistory⟩ := ih hposition hys
    refine ⟨hrun, ?_⟩
    rw [history, deeds, hcarry, hhistory]
    rfl

end Watcher

end MediaWatch
