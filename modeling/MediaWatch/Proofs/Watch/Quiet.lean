import MediaWatch.Proofs.Watch.Move

/-!
# Watchers that were stopped

What a watcher still does after a stop, wherever its task stood. In a session that is over a task finishes the work at
hand and looks at the flag: at the top of its loop, before a nap, before the next frame and at the end of its session
(`Condition.Looped.eq_finished`, `Condition.SessionEnd.eq_finished`, `Condition.Onward.of_inactive`). So it has at most one frame
and one sweep left (`Position.framesLeft`, `Position.sweepsLeft`, `Watcher.left_step`), its accounts are spared
(`Condition.Spared`), and it ends stopped unless it had failed before (`Watcher.quiet_after_stop`).
-/

namespace MediaWatch

namespace Watcher

variable {τ : Type} [Scalar τ] {now : τ} {w : Watcher τ} {c c' : Condition τ}

/-! ## Tasks and their ends -/

/-- What becomes of a condition with a task that has not failed: the task goes on, or it ends and leaves the watcher
stopped, or failed in a session that was active. -/
inductive Condition.TurnsOut (c c' : Condition τ) : Prop
  | goesOn (hp : c'.position ≠ .absent) (htask : c'.life.task = c.life.task) (hstatus : c'.life.status ≠ .failed)
  | stopped (hp : c'.position = .absent) (htask : c'.life.task = none) (hstatus : c'.life.status = .stopped)
  | failed (hactive : c.life.active = true) (hp : c'.position = .absent) (htask : c'.life.task = none)
      (hstatus : c'.life.status = .failed)

omit [Scalar τ] in
theorem Condition.turnsOut_finished (hactive : c.life.active = false) (htask : c.life.task ≠ none)
    (hstatus : c.life.status ≠ .failed) : c.TurnsOut c.finished := by
  have hlife : c.finished.life = { c.life with task := none, status := .stopped } := by
    show c.life.finish.1 = _
    rw [Lifecycle.finish_of_inactive hactive, if_neg htask, if_neg hstatus]
  exact .stopped rfl (by rw [hlife]) (by rw [hlife])

theorem Condition.Looped.turnsOut (h : c.Looped now c') (htask : c.life.task ≠ none)
    (hstatus : c.life.status ≠ .failed) : c.TurnsOut c' := by
  cases h with
  | finished hactive => exact turnsOut_finished hactive htask hstatus
  | polls _ _ => exact .goesOn nofun rfl nofun
  | givenUp _ _ _ => exact .goesOn nofun rfl nofun
  | held _ _ _ _ => exact .goesOn nofun rfl nofun
  | tries _ _ _ _ => exact .goesOn nofun rfl nofun
  | connects _ _ => exact .goesOn nofun rfl nofun

theorem Condition.SessionEnd.turnsOut (h : c.SessionEnd now c') (htask : c.life.task ≠ none)
    (hstatus : c.life.status ≠ .failed) : c.TurnsOut c' := by
  cases h with
  | finished hactive => exact turnsOut_finished hactive htask hstatus
  | givesUp hactive _ _ =>
    have hlife : ({ c.life with active := false, status := .failed } : Lifecycle).finish.1 =
        { c.life with active := false, status := .failed, task := none } := by
      rw [Lifecycle.finish_of_inactive rfl, if_neg htask, if_pos rfl]
    exact .failed hactive rfl (congrArg Lifecycle.task hlife) (congrArg Lifecycle.status hlife)
  | disables _ _ _ => exact .goesOn nofun rfl nofun
  | diverts _ _ _ _ => exact .goesOn nofun rfl nofun
  | draws _ _ _ =>
    refine .goesOn nofun rfl ?_
    show (if ((c.breaker.fail now).1.read now).1.isOpen then Status.degraded else .reconnecting) ≠ .failed
    split <;> simp

theorem Condition.Onward.turnsOut {a : After} (h : c.Onward now a c') (ha : a.Fits c.strategy)
    (htask : c.life.task ≠ none) (hstatus : c.life.status ≠ .failed) : c.TurnsOut c' := by
  cases h with
  | @works p hwork =>
    refine .goesOn ?_ rfl hstatus
    rintro rfl
    exact hwork.elim
  | loops _ hlooped => exact hlooped.turnsOut htask hstatus
  | idles _ _ _ => exact .goesOn nofun rfl nofun
  | rests _ _ _ => exact .goesOn nofun rfl hstatus
  | listens _ _ => exact .goesOn nofun rfl hstatus
  | finished hactive => exact turnsOut_finished hactive htask hstatus
  | drops hno => exact absurd ha hno

theorem Condition.Passed.turnsOut (h : c.Passed now c') (hfits : c.position.Fits c.strategy)
    (htask : c.life.task ≠ none) (hstatus : c.life.status ≠ .failed) : c.TurnsOut c' := by
  cases h with
  | begins _ _ => exact .goesOn nofun rfl hstatus
  | opens _ => exact .goesOn nofun rfl hstatus
  | greets _ => exact .goesOn nofun rfl hstatus
  | loops _ hlooped => exact hlooped.turnsOut htask hstatus
  | goesOn ha honward => exact honward.turnsOut (hfits.of_after? ha) htask hstatus

/-- A watcher in order: its task stands where it can, it has a position while it has a task, and a watcher without a task
has failed or is stopped. -/
structure Condition.InOrder (c : Condition τ) : Prop where
  fits : c.position.Fits c.strategy
  idle : c.position = .absent ↔ c.life.task = none
  ended : c.life.task = none → c.life.status = .failed ∨ c.life.status = .stopped
  running : c.life.task ≠ none → c.life.status ≠ .failed

omit [Scalar τ] in
theorem Condition.InOrder.of_turnsOut (htask : c.life.task ≠ none) (hfits : c'.position.Fits c'.strategy)
    (h : c.TurnsOut c') : c'.InOrder := by
  cases h with
  | goesOn hp hsame hstatus =>
    have htask' : c'.life.task ≠ none := hsame ▸ htask
    exact ⟨hfits, iff_of_false hp htask', fun hnone => absurd hnone htask', fun _ => hstatus⟩
  | stopped hp hnone hstatus =>
    exact ⟨hfits, iff_of_true hp hnone, fun _ => Or.inr hstatus, fun hsome => absurd hnone hsome⟩
  | failed _ hp hnone hstatus =>
    exact ⟨hfits, iff_of_true hp hnone, fun _ => Or.inl hstatus, fun hsome => absurd hnone hsome⟩

theorem Condition.InOrder.of_touched {x : Stimulus} (h : c.InOrder) (htouched : c.Touched now x c') : c'.InOrder := by
  cases htouched with
  | still => exact h
  | starts _ _ _ => exact ⟨trivial, iff_of_false nofun nofun, nofun, fun _ => nofun⟩
  | resumes _ _ _ => exact ⟨h.fits, h.idle, h.ended, h.running⟩
  | stops _ => exact ⟨h.fits, h.idle, h.ended, h.running⟩
  | wakes _ => exact ⟨h.fits, h.idle, h.ended, h.running⟩
  | looks => exact ⟨h.fits, h.idle, h.ended, h.running⟩

/-- A watcher in order is touched from outside, or its task goes on or ends. -/
theorem Condition.InOrder.react_cases (h : w.condition.InOrder) (now : τ) (x : Stimulus) :
    w.condition.Touched now x (w.react now x).condition ∨
      w.life.task ≠ none ∧ w.condition.TurnsOut (w.react now x).condition := by
  cases hcarry : w.carryOn now x with
  | none => exact Or.inl (touched_of_carryOn_none hcarry)
  | some w' =>
    have htask : w.life.task ≠ none := fun hnone => by
      have hposition : w.position = .absent := h.idle.mpr hnone
      rw [carryOn_of_absent hposition] at hcarry
      cases hcarry
    have hstatus := h.running htask
    cases move now x w with
    | touched _ _ _ htouched => exact Or.inl htouched
    | passed _ _ _ hpassed => exact Or.inr ⟨htask, hpassed.turnsOut h.fits htask hstatus⟩
    | acknowledged _ _ hp _ _ honward =>
      have hfits := h.fits
      rw [show w.condition.position = .receiving from hp] at hfits
      refine Or.inr ⟨htask, ?_⟩
      cases honward.turnsOut hfits htask nofun with
      | goesOn hp hsame hstatus => exact .goesOn hp hsame hstatus
      | stopped hp hnone hstatus => exact .stopped hp hnone hstatus
      | failed hactive hp hnone hstatus => exact .failed hactive hp hnone hstatus
    | catchesUp _ _ _ _ _ hreact =>
      rw [hreact]
      exact Or.inr ⟨htask, .goesOn nofun rfl nofun⟩
    | ended _ _ _ hended => exact Or.inr ⟨htask, hended.turnsOut htask hstatus⟩

theorem Condition.InOrder.react (h : w.condition.InOrder) (now : τ) (x : Stimulus) :
    (w.react now x).condition.InOrder := by
  have hplaced := placed_react ⟨rfl, h.fits⟩ now x
  have hfits := hplaced.fits
  rw [← hplaced.strategy] at hfits
  rcases h.react_cases now x with htouched | ⟨htask, hturns⟩
  · exact h.of_touched htouched
  · exact .of_turnsOut htask hfits hturns

omit [Scalar τ] in
theorem condition_cancel (w : Watcher τ) :
    w.cancel.condition =
      { w.condition with
        life := w.life.finish.1
        position := if w.life.finish.2 = .handedOver then .created else .absent } := by
  unfold cancel
  split <;> exact condition_finish_eq _

omit [Scalar τ] in
/-- A task that is cancelled ends, and leaves its watcher in order. -/
theorem Condition.InOrder.cancel (h : w.condition.InOrder) : w.cancel.condition.InOrder := by
  rw [condition_cancel]
  cases htask : w.life.task with
  | none =>
    have hfinish : w.life.finish = (w.life, .stopped) := by simp [Lifecycle.finish, htask]
    rw [hfinish]
    exact ⟨trivial, iff_of_true rfl htask, h.ended, h.running⟩
  | some t =>
    have hstatus : w.life.status ≠ .failed := h.running (by simp [condition, htask])
    cases hactive : w.life.active with
    | false =>
      have hfinish : w.life.finish = ({ w.life with task := none, status := .stopped }, .stopped) := by
        simp [Lifecycle.finish, Lifecycle.settle, htask, hactive, hstatus]
      rw [hfinish]
      exact ⟨trivial, iff_of_true rfl rfl, fun _ => Or.inr rfl, fun hsome => absurd rfl hsome⟩
    | true =>
      by_cases hsession : t.session = w.life.generation
      · have hfinish : w.life.finish = ({ w.life with task := none, active := false, status := .failed }, .crashed) := by
          simp [Lifecycle.finish, Lifecycle.settle, htask, hactive, hsession]
        rw [hfinish]
        exact ⟨trivial, iff_of_true rfl rfl, fun _ => Or.inl rfl, fun hsome => absurd rfl hsome⟩
      · have hfinish : w.life.finish = (w.life.spawn, .handedOver) := by
          simp [Lifecycle.finish, Lifecycle.settle, htask, hactive, hsession]
        rw [hfinish]
        refine ⟨trivial, iff_of_false (fun hp => ?_) (fun hnone => ?_), fun hno => ?_, fun _ => hstatus⟩
        · cases hp
        · cases hnone
        · cases hno

/-! ## Where a watcher can get -/

/-- The watchers that a new one becomes, whatever happens to it and however often its task is cancelled. -/
inductive Reached : Watcher τ → Prop
  | fresh (strategy : Strategy τ) (detector : Detector) (listeners : List String) (timeout : Option τ)
      (backoff : Backoff τ) (breaker : Breaker τ) : Reached (fresh strategy detector listeners timeout backoff breaker)
  | react {w : Watcher τ} (now : τ) (x : Stimulus) : Reached w → Reached (w.react now x)
  | cancel {w : Watcher τ} : Reached w → Reached w.cancel

theorem Reached.inOrder (h : Reached w) : w.condition.InOrder := by
  induction h with
  | fresh strategy detector listeners timeout backoff breaker =>
    exact ⟨trivial, iff_of_true rfl rfl, fun _ => Or.inr rfl, fun hsome => absurd rfl hsome⟩
  | react now x _ ih => exact ih.react now x
  | cancel _ ih => exact ih.cancel

theorem Reached.run (h : Reached w) (xs : List (τ × Stimulus)) : Reached (w.run xs) := by
  induction xs generalizing w with
  | nil => exact h
  | cons x xs ih => exact ih (h.react x.1 x.2)

/-! ## In a session that is over -/

theorem Condition.Looped.eq_finished (h : c.Looped now c') (hactive : c.life.active = false) : c' = c.finished := by
  cases h with
  | finished _ => rfl
  | polls hyes _ => exact absurd (hactive.symm.trans hyes) Bool.false_ne_true
  | givenUp hyes _ _ => exact absurd (hactive.symm.trans hyes) Bool.false_ne_true
  | held hyes _ _ _ => exact absurd (hactive.symm.trans hyes) Bool.false_ne_true
  | tries hyes _ _ _ => exact absurd (hactive.symm.trans hyes) Bool.false_ne_true
  | connects hyes _ => exact absurd (hactive.symm.trans hyes) Bool.false_ne_true

theorem Condition.SessionEnd.eq_finished (h : c.SessionEnd now c') (hactive : c.life.active = false) : c' = c.finished := by
  cases h with
  | finished _ => rfl
  | givesUp hyes _ _ => exact absurd (hactive.symm.trans hyes) Bool.false_ne_true
  | disables hyes _ _ => exact absurd (hactive.symm.trans hyes) Bool.false_ne_true
  | diverts hyes _ _ _ => exact absurd (hactive.symm.trans hyes) Bool.false_ne_true
  | draws hyes _ _ => exact absurd (hactive.symm.trans hyes) Bool.false_ne_true

end Watcher

/-! ## What is left to do -/

def Deed.isSweeping : Deed → Bool
  | .sweeping _ => true
  | _ => false

def Deed.isHandled : Deed → Bool
  | .handled _ => true
  | _ => false

namespace Position

variable {τ : Type}

/-- The sweeps that a task may begin in a session that is over: the one at its start, and the one that catches up. -/
def sweepsLeft (fallback : Bool) : Position τ → Nat
  | .created | .receiving => if fallback then 1 else 0
  | _ => 0

/-- The frames that a task may receive in a session that is over. -/
def framesLeft : Position τ → Nat
  | .receiving => 1
  | _ => 0

/-- Whether a task that comes to a position has nothing left to begin. -/
structure IsSpent (p : Position τ) : Prop where
  sweeping : p.entering.countP Deed.isSweeping = 0
  sweeps : ∀ fallback, p.sweepsLeft fallback = 0
  frames : p.framesLeft = 0

theorem isSpent_absent : (absent : Position τ).IsSpent := ⟨rfl, fun _ => rfl, rfl⟩

theorem isSpent_sending (frame : Opening) : (sending frame : Position τ).IsSpent := ⟨rfl, fun _ => rfl, rfl⟩

theorem IsWork.isSpent {a : After} {p : Position τ} (h : p.IsWork a) : p.IsSpent := by
  cases p with
  | querying s b =>
    cases s with
    | listing => exact h.elim
    | reading e rest => exact ⟨rfl, fun _ => rfl, rfl⟩
  | notifying d e => exact ⟨rfl, fun _ => rfl, rfl⟩
  | _ => exact h.elim

/-- Frames are not received on the way to a position. -/
theorem handled_entering (p : Position τ) : p.entering.countP Deed.isHandled = 0 := by
  cases p with
  | querying s a => cases s <;> rfl
  | _ => rfl

end Position

namespace Watcher

variable {τ : Type}

theorem sweeping_occasion (x : Stimulus) (w : Watcher τ) : (w.occasion x).countP Deed.isSweeping = 0 := by
  unfold occasion
  split
  · rfl
  · rename_i c s a hp
    cases s with
    | listing => rfl
    | reading e rest =>
      refine List.countP_eq_zero.mpr fun d hd => ?_
      obtain ⟨r, -, rfl⟩ := List.mem_map.mp hd
      exact Bool.false_ne_true
  · rfl
  · rfl
  · rfl

/-- A frame is received where the task waits for one. -/
theorem handled_occasion (x : Stimulus) (w : Watcher τ) :
    (w.occasion x).countP Deed.isHandled ≤ w.position.framesLeft := by
  unfold occasion
  split
  · exact Nat.zero_le _
  · rename_i c s a hp
    cases s with
    | listing => exact Nat.zero_le _
    | reading e rest =>
      refine (List.countP_eq_zero.mpr fun d hd => ?_).trans_le (Nat.zero_le _)
      obtain ⟨r, -, rfl⟩ := List.mem_map.mp hd
      exact Bool.false_ne_true
  · exact Nat.zero_le _
  · rename_i hp
    rw [hp]
    exact Nat.le_refl 1
  · exact Nat.zero_le _

variable [Scalar τ] {now : τ} {w : Watcher τ} {c c' : Condition τ} {x : Stimulus}

/-- The work at hand is finished, and nothing else is taken up. -/
theorem Condition.Onward.isSpent {a : After} (h : c.Onward now a c') (hactive : c.life.active = false) :
    c'.position.IsSpent := by
  cases h with
  | works hwork => exact hwork.isSpent
  | loops _ hlooped =>
    rw [hlooped.eq_finished hactive]
    exact Position.isSpent_absent
  | finished _ => exact Position.isSpent_absent
  | drops _ => exact Position.isSpent_absent
  | idles _ _ hyes => exact absurd (hactive.symm.trans hyes) Bool.false_ne_true
  | rests _ _ hyes => exact absurd (hactive.symm.trans hyes) Bool.false_ne_true
  | listens _ hyes => exact absurd (hactive.symm.trans hyes) Bool.false_ne_true

/-- What a task begins about a stimulus was left to do. -/
structure Spends (now : τ) (x : Stimulus) (w : Watcher τ) : Prop where
  sweeps : (w.deeds now x).countP Deed.isSweeping + (w.react now x).position.sweepsLeft w.hasFallback ≤
    w.position.sweepsLeft w.hasFallback
  frames : (w.deeds now x).countP Deed.isHandled + (w.react now x).position.framesLeft ≤ w.position.framesLeft

theorem spends_of_isSpent (hdeeds : w.deeds now x = w.occasion x ++ (w.react now x).position.entering)
    (h : (w.react now x).position.IsSpent) : Spends now x w := by
  have hhandled := handled_occasion x w
  constructor
  · rw [hdeeds, List.countP_append, sweeping_occasion, h.sweeping, h.sweeps]
    omega
  · rw [hdeeds, List.countP_append, Position.handled_entering, h.frames]
    omega

theorem spends_of_sweep {a : After} (hdeeds : w.deeds now x = w.occasion x ++ (w.react now x).position.entering)
    (hleft : w.position.sweepsLeft w.hasFallback = 1) (h : (w.react now x).position = .querying .listing a) :
    Spends now x w := by
  have hhandled := handled_occasion x w
  constructor
  · rw [hdeeds, List.countP_append, sweeping_occasion, h, hleft]
    exact Nat.le_refl 1
  · rw [hdeeds, List.countP_append, Position.handled_entering, h]
    exact hhandled

/-- A task in a session that is over begins what was left to do. -/
theorem spends (hactive : w.life.active = false) (hstart : x ≠ .start) (now : τ) : Spends now x w := by
  cases move now x w with
  | touched _ _ hdeeds htouched =>
    have hposition : (w.react now x).position = w.position := by
      show (w.react now x).condition.position = w.condition.position
      generalize (w.react now x).condition = c' at htouched ⊢
      cases htouched with
      | starts hx _ _ => exact absurd hx hstart
      | _ => rfl
    constructor
    · simp [hdeeds, hposition]
    · simp [hdeeds, hposition]
  | passed _ _ hdeeds hpassed =>
    obtain ⟨c', hc'⟩ : ∃ c', (w.react now x).condition = c' := ⟨_, rfl⟩
    have hposition : (w.react now x).position = c'.position := congrArg Condition.position hc'
    rw [hc'] at hpassed
    cases hpassed with
    | begins hp hs =>
      refine spends_of_sweep hdeeds ?_ hposition
      rw [show w.position = .created from hp, show w.hasFallback = true from hs]
      rfl
    | opens _ => exact spends_of_isSpent hdeeds (hposition ▸ Position.isSpent_sending _)
    | greets _ => exact spends_of_isSpent hdeeds (hposition ▸ Position.isSpent_sending _)
    | loops _ hlooped =>
      rw [hlooped.eq_finished hactive] at hposition
      exact spends_of_isSpent hdeeds (hposition ▸ Position.isSpent_absent)
    | goesOn _ honward => exact spends_of_isSpent hdeeds (hposition ▸ honward.isSpent hactive)
  | acknowledged _ _ _ hdeeds _ honward => exact spends_of_isSpent hdeeds (honward.isSpent hactive)
  | catchesUp _ _ hp hdeeds hs hreact =>
    refine spends_of_sweep hdeeds ?_ (congrArg Condition.position hreact)
    rw [hp, show w.hasFallback = true from hs]
    rfl
  | ended _ _ hdeeds hended =>
    have hposition : (w.react now x).position = .absent := congrArg Condition.position (hended.eq_finished hactive)
    exact spends_of_isSpent hdeeds (hposition ▸ Position.isSpent_absent)

/-! ## Accounts -/

/-- The accounts of a watcher are as they were, or an acknowledgement among the given deeds has started them over: no
failure is recorded, and no delay is drawn. -/
def Condition.Spared (ds : List Deed) (c c' : Condition τ) : Prop :=
  c'.backoff = c.backoff ∧ c'.breaker.failures = c.breaker.failures ∧ c'.breaker.lastFailure = c.breaker.lastFailure ∨
    (∃ f, .handled f ∈ ds ∧ Frame.read f = .acknowledged) ∧ c'.backoff = c.backoff.reset ∧
      c'.breaker.failures = 0 ∧ c'.breaker.lastFailure = none

omit [Scalar τ] in
theorem Condition.spared_of_eq (ds : List Deed) (hbackoff : c'.backoff = c.backoff) (hbreaker : c'.breaker = c.breaker) :
    c.Spared ds c' :=
  Or.inl ⟨hbackoff, by rw [hbreaker], by rw [hbreaker]⟩

omit [Scalar τ] in
theorem Condition.Spared.trans {ds es : List Deed} {c'' : Condition τ} (h : c.Spared ds c') (h' : c'.Spared es c'') :
    c.Spared (ds ++ es) c'' := by
  rcases h' with ⟨hbackoff', hfailures', hlast'⟩ | ⟨⟨f, hmem, hread⟩, hbackoff', hfailures', hlast'⟩
  · rcases h with ⟨hbackoff, hfailures, hlast⟩ | ⟨⟨f, hmem, hread⟩, hbackoff, hfailures, hlast⟩
    · exact Or.inl ⟨hbackoff'.trans hbackoff, hfailures'.trans hfailures, hlast'.trans hlast⟩
    · exact Or.inr ⟨⟨f, List.mem_append_left _ hmem, hread⟩, hbackoff'.trans hbackoff, hfailures'.trans hfailures,
        hlast'.trans hlast⟩
  · refine Or.inr ⟨⟨f, List.mem_append_right _ hmem, hread⟩, ?_, hfailures', hlast'⟩
    rcases h with ⟨hbackoff, -, -⟩ | ⟨-, hbackoff, -, -⟩
    · rw [hbackoff', hbackoff]
    · rw [hbackoff', hbackoff]
      rfl

/-- To read a breaker is not to tell it of anything. -/
theorem Condition.Keeps.spared (h : c.Keeps now c') (ds : List Deed) : c.Spared ds c' := by
  refine Or.inl ⟨h.backoff, ?_⟩
  rcases h.breaker with hsame | hread
  · exact ⟨by rw [hsame], by rw [hsame]⟩
  · rw [hread]
    rcases c.breaker.read_eq now with ⟨-, hr⟩ | ⟨-, -, hr⟩
    · exact ⟨by rw [hr], by rw [hr]⟩
    · exact ⟨by rw [hr], by rw [hr]⟩

/-- An acknowledgement is a frame that the task receives. -/
theorem handled_of_acknowledges (h : w.acknowledges x = true) (now : τ) :
    ∃ f, .handled f ∈ w.deeds now x ∧ Frame.read f = .acknowledged := by
  unfold acknowledges at h
  split at h
  · rename_i f hp
    refine ⟨f, by simp [deeds, carryOn, occasion, hp], ?_⟩
    cases hread : Frame.read f with
    | acknowledged => rfl
    | _ =>
      rw [hread] at h
      cases h
  · cases h

/-- Nothing that happens in a session that is over is counted, but an acknowledgement. -/
theorem spared_react (hactive : w.life.active = false) (hstart : x ≠ .start) (hstop : x ≠ .stop) (now : τ) :
    w.condition.Spared (w.deeds now x) (w.react now x).condition := by
  cases passage now (fun hx => absurd hx hstart) hstop with
  | keeps _ _ hkeeps => exact hkeeps.spared _
  | acknowledged _ hack hkeeps =>
    have hhandled := handled_of_acknowledges hack now
    rcases hkeeps.spared (w.deeds now x) with ⟨hbackoff, hfailures, hlast⟩ | ⟨-, hbackoff, hfailures, hlast⟩
    · exact Or.inr ⟨hhandled, hbackoff, hfailures, hlast⟩
    · exact Or.inr ⟨hhandled, hbackoff, hfailures, hlast⟩
  | ended _ _ hended =>
    rw [hended.eq_finished hactive]
    exact Condition.spared_of_eq _ rfl rfl

/-! ## Runs after a stop -/

/-- How a watcher whose session is over gets on while the given deeds are done. -/
structure RunsOut (ds : List Deed) (w v : Watcher τ) : Prop where
  strategy : v.strategy = w.strategy
  inactive : v.life.active = false
  quiet : .connecting ∉ ds
  sweeps : ds.countP Deed.isSweeping + v.position.sweepsLeft w.hasFallback ≤ w.position.sweepsLeft w.hasFallback
  frames : ds.countP Deed.isHandled + v.position.framesLeft ≤ w.position.framesLeft
  spared : w.condition.Spared ds v.condition
  status : v.life.status = .failed ↔ w.life.status = .failed

omit [Scalar τ] in
theorem runsOut_refl (hactive : w.life.active = false) : RunsOut [] w w :=
  ⟨rfl, hactive, by simp, by simp, by simp, Condition.spared_of_eq _ rfl rfl, Iff.rfl⟩

omit [Scalar τ] in
theorem RunsOut.trans {ds es : List Deed} {u v w : Watcher τ} (h : RunsOut ds w v) (h' : RunsOut es v u) :
    RunsOut (ds ++ es) w u := by
  have hfallback : v.hasFallback = w.hasFallback := congrArg Strategy.hasFallback h.strategy
  have hsweeps := h.sweeps
  have hsweeps' := h'.sweeps
  have hframes := h.frames
  have hframes' := h'.frames
  rw [hfallback] at hsweeps'
  refine ⟨h'.strategy.trans h.strategy, h'.inactive, ?_, ?_, ?_, h.spared.trans h'.spared, h'.status.trans h.status⟩
  · rw [List.mem_append]
    rintro (hmem | hmem)
    · exact h.quiet hmem
    · exact h'.quiet hmem
  · rw [List.countP_append]
    omega
  · rw [List.countP_append]
    omega

/-- A watcher whose session is over has failed after a step if it had failed before. -/
theorem Condition.InOrder.failed_iff (h : w.condition.InOrder) (hactive : w.life.active = false) (hstart : x ≠ .start)
    (now : τ) : (w.react now x).life.status = .failed ↔ w.life.status = .failed := by
  rcases h.react_cases now x with htouched | ⟨htask, hturns⟩
  · show (w.react now x).condition.life.status = .failed ↔ w.condition.life.status = .failed
    generalize (w.react now x).condition = c' at htouched ⊢
    cases htouched with
    | starts hx _ _ => exact absurd hx hstart
    | _ => exact Iff.rfl
  · have hrunning : w.life.status ≠ .failed := h.running htask
    cases hturns with
    | goesOn _ _ hstatus => exact iff_of_false hstatus hrunning
    | stopped _ _ hstatus =>
      refine iff_of_false ?_ hrunning
      rw [show (w.react now x).life.status = .stopped from hstatus]
      exact nofun
    | failed hyes _ _ _ => exact absurd (hactive.symm.trans hyes) Bool.false_ne_true

/-- A session that is over stays so until the watcher is started. -/
theorem active_react (hactive : w.life.active = false) (hstart : x ≠ .start) (now : τ) :
    (w.react now x).strategy = w.strategy ∧ (w.react now x).life.active = false := by
  by_cases hstop : x = .stop
  · subst hstop
    have hcondition := condition_stop w
    exact ⟨congrArg Condition.strategy hcondition, congrArg (Lifecycle.active ∘ Condition.life) hcondition⟩
  · cases passage now (fun hx => absurd hx hstart) hstop with
    | keeps _ _ hkeeps => exact ⟨hkeeps.strategy, hkeeps.active.trans hactive⟩
    | acknowledged _ _ hkeeps => exact ⟨hkeeps.strategy, hkeeps.active.trans hactive⟩
    | ended _ _ hended =>
      have hfinished : w.condition.Keeps now w.condition.finished := Condition.keeps_finished hactive
      rw [← hended.eq_finished hactive] at hfinished
      exact ⟨hfinished.strategy, hfinished.active.trans hactive⟩

theorem runsOut_react (h : w.condition.InOrder) (hactive : w.life.active = false) (hstart : x ≠ .start) (now : τ) :
    RunsOut (w.deeds now x) w (w.react now x) := by
  obtain ⟨hstrategy, hactive'⟩ := active_react hactive hstart now
  have hspends := spends hactive hstart now
  refine ⟨hstrategy, hactive', fun hmem => ?_, hspends.sweeps, hspends.frames, ?_, h.failed_iff hactive hstart now⟩
  · exact absurd (hactive.symm.trans (active_of_connects hmem)) Bool.false_ne_true
  · by_cases hstop : x = .stop
    · subst hstop
      have hstopped : (w.react now .stop).condition = { w.condition with life := w.life.stop } := condition_stop w
      rw [hstopped]
      exact Condition.spared_of_eq _ rfl rfl
    · exact spared_react hactive hstart hstop now

theorem runsOut_run (h : w.condition.InOrder) (hactive : w.life.active = false) {ys : List (τ × Stimulus)}
    (hys : ∀ y ∈ ys, y.2 ≠ .start) : RunsOut (w.history ys) w (w.run ys) := by
  induction ys generalizing w with
  | nil => exact runsOut_refl hactive
  | cons y ys ih =>
    obtain ⟨now, x⟩ := y
    obtain ⟨hx, hys⟩ := List.forall_mem_cons.mp hys
    have hstep := runsOut_react h hactive hx now
    exact hstep.trans (ih (h.react now x) hstep.inactive hys)

omit [Scalar τ] in
/-- A watcher in order that has no task any more has failed if it had failed before, and is stopped otherwise. -/
theorem Condition.InOrder.status_eq (h : c.InOrder) (htask : c.life.task = none)
    (hfailed : c.life.status = .failed ↔ c'.life.status = .failed) :
    c.life.status = if c'.life.status = .failed then .failed else .stopped := by
  by_cases hbefore : c'.life.status = .failed
  · rw [if_pos hbefore, hfailed.mpr hbefore]
  · rw [if_neg hbefore]
    exact (h.ended htask).resolve_left fun hstatus => hbefore (hfailed.mp hstatus)

omit [Scalar τ] in
/-- A task that is cancelled in a session that is over ends like any other. -/
theorem cancel_of_inactive (hactive : w.life.active = false) :
    w.cancel.condition = w.condition.finished ∧ w.cancel.life.task = none ∧
      (w.cancel.life.status = .failed ↔ w.life.status = .failed) := by
  have hended : w.life.finish.2 ≠ .handedOver := by
    cases htask : w.life.task with
    | none => simp [Lifecycle.finish, htask]
    | some t => simp [Lifecycle.finish, Lifecycle.settle, htask, hactive]
  have hcancel : w.cancel.condition = w.condition.finished := by
    rw [condition_cancel, if_neg hended]
    rfl
  have hlife : w.cancel.life = w.life.finish.1 := congrArg Condition.life hcancel
  rw [hlife, Lifecycle.finish_of_inactive hactive]
  refine ⟨hcancel, ?_, ?_⟩
  · split
    · assumption
    · rfl
  · split
    · exact Iff.rfl
    · by_cases hstatus : w.life.status = .failed
      · simp [hstatus]
      · simp [hstatus]

/-- **Quiet after a stop.** Let a watcher, wherever it has got, be stopped, and nobody start it again. Then it does not
connect, it receives one more frame at most and begins one more sweep at most, and its accounts are spared. Another stop
does nothing but post another callback. When the task has ended, also where it is cancelled, the watcher has failed if it
had failed before the stop, and is stopped otherwise; and then nothing is done any more. -/
theorem quiet_after_stop {w : Watcher τ} (hw : Reached w) (ys : List (τ × Stimulus)) (hys : ∀ y ∈ ys, y.2 ≠ .start) :
    let ds := w.stop.history ys
    let v := w.stop.run ys
    let final : Status := if w.life.status = .failed then .failed else .stopped
    .connecting ∉ ds ∧ ds.countP Deed.isHandled ≤ 1 ∧ ds.countP Deed.isSweeping ≤ 1 ∧
    w.condition.Spared ds v.condition ∧
    v.stop = { v with life := { v.life with posted := v.life.posted + 1 }, journal := .posted :: v.journal } ∧
    (v.position = .absent ↔ v.life.task = none) ∧
    (v.life.task = none → v.life.status = final ∧ ∀ zs, (∀ z ∈ zs, z.2 ≠ .start) → v.history zs = []) ∧
    v.cancel.life.task = none ∧ v.cancel.life.status = final ∧ w.condition.Spared ds v.cancel.condition ∧
      ∀ zs, (∀ z ∈ zs, z.2 ≠ .start) → v.cancel.history zs = [] := by
  intro ds v final
  have hstopped := condition_stop w
  have hstatus : w.stop.life.status = w.life.status := congrArg (Lifecycle.status ∘ Condition.life) hstopped
  have hinactive : w.stop.life.active = false := congrArg (Lifecycle.active ∘ Condition.life) hstopped
  have horder : w.stop.condition.InOrder := (hw.react (Scalar.ofInt 0) .stop).inOrder
  have hrun : RunsOut ds w.stop v := runsOut_run horder hinactive hys
  have hv : v.condition.InOrder := ((hw.react (Scalar.ofInt 0) .stop).run ys).inOrder
  have hspared : w.condition.Spared ds v.condition := by
    have hstop : w.condition.Spared [] w.stop.condition := by
      rw [hstopped]
      exact Condition.spared_of_eq _ rfl rfl
    exact hstop.trans hrun.spared
  have hfailed : v.life.status = .failed ↔ w.life.status = .failed := hrun.status.trans (by rw [hstatus])
  obtain ⟨hcancel, hnone, hcancelled⟩ := cancel_of_inactive hrun.inactive
  have hframes := hrun.frames
  have hsweeps := hrun.sweeps
  have hone : w.stop.position.framesLeft ≤ 1 ∧ w.stop.position.sweepsLeft w.stop.hasFallback ≤ 1 := by
    cases w.stop.position with
    | created => exact ⟨by simp [Position.framesLeft], by simp only [Position.sweepsLeft]; split <;> simp⟩
    | receiving => exact ⟨by simp [Position.framesLeft], by simp only [Position.sweepsLeft]; split <;> simp⟩
    | _ => exact ⟨Nat.zero_le _, Nat.zero_le _⟩
  refine ⟨hrun.quiet, by omega, by omega, hspared, ?_, hv.idle, fun htask => ⟨?_, fun zs hzs => ?_⟩, hnone, ?_, ?_,
    fun zs hzs => ?_⟩
  · have hlife : v.life.stop = { v.life with posted := v.life.posted + 1 } := by
      show { v.life with active := false, posted := v.life.posted + 1 } = { v.life with posted := v.life.posted + 1 }
      rw [← show v.life.active = false from hrun.inactive]
    have hstop : v.stop = note .posted { v with life := v.life.stop } := if_neg (by simp [hrun.inactive])
    rw [hstop, hlife]
    rfl
  · exact hv.status_eq htask (show _ ↔ w.condition.life.status = .failed from hfailed)
  · exact (run_of_absent (hv.idle.mpr htask) hzs).2
  · exact hv.cancel.status_eq hnone (show _ ↔ w.condition.life.status = .failed from hcancelled.trans hfailed)
  · rw [hcancel]
    have hfinished : v.condition.Spared [] v.condition.finished := Condition.spared_of_eq _ rfl rfl
    exact List.append_nil ds ▸ hspared.trans hfinished
  · exact (run_of_absent (hv.cancel.idle.mpr hnone) hzs).2

/-! ## A stop before the acknowledgement -/

/-- A watcher that waits for the first frame of its session. -/
def expectant : Watcher Rat :=
  (fresh (.push "ws://stump.local/api/graphql" true 60 30) ⟨500, true⟩ [] none (Backoff.fresh 1 8 2 0 none [])
    (Breaker.fresh "test" 1 10)).run [(0, .start), (0, .begun), (0, .reply fun _ => .error "down"),
      (0, .opened (.ok ())), (0, .sent (.ok ())), (0, .sent (.ok ()))]

def acknowledgement : TextFrame := ⟨"\x7b\"type\": \"connection_ack\"\x7d", 1⟩

theorem read_acknowledgement : Frame.read acknowledgement = .acknowledged := by
  have hack : (Frame.read acknowledgement).acknowledges = true := by decide +kernel
  cases hread : Frame.read acknowledgement with
  | acknowledged => rfl
  | _ =>
    rw [hread] at hack
    cases hack

/-- The acknowledgement is the last frame, and the sweep that catches up is the last one. -/
def farewell : List (Rat × Stimulus) :=
  [(1, .woken), (2, .arrival (.text acknowledgement)), (2, .stop), (2, .reply fun _ => .error "down")]

/-- A watcher that waits for a frame and is backed by sweeps catches up when the connection is acknowledged. -/
theorem react_acknowledgement {f : TextFrame} (hread : Frame.read f = .acknowledged) (hp : w.position = .receiving)
    (hs : w.hasFallback = true) : w.react now (.arrival (.text f)) = w.acknowledge.sweep .receive := by
  have hfallback : w.acknowledge.hasFallback = true := by
    have hcondition := condition_acknowledge w
    exact (congrArg (Strategy.hasFallback ∘ Condition.strategy) hcondition).trans hs
  simp [react, carryOn, hp, received, handle, hread, Frame.ends, hfallback]

theorem task_farewell : (expectant.stop.run farewell).life.task = none := by
  have hp : (expectant.stop.react 1 .woken).position = .receiving := by with_unfolding_all rfl
  have hs : (expectant.stop.react 1 .woken).hasFallback = true := by with_unfolding_all rfl
  simp only [farewell, run]
  rw [react_acknowledgement read_acknowledgement hp hs]
  with_unfolding_all rfl

/-- It ends stopped. -/
theorem quiet_after_stop_of_farewell :
    Reached expectant ∧ (∀ y ∈ farewell, y.2 ≠ .start) ∧ expectant.position = .receiving ∧
      (expectant.stop.run farewell).life.task = none ∧ (expectant.stop.run farewell).life.status = .stopped ∧
      (expectant.stop.history farewell).countP Deed.isHandled ≤ 1 ∧
      (expectant.stop.history farewell).countP Deed.isSweeping ≤ 1 := by
  have hreached : Reached expectant := (Reached.fresh _ _ _ _ _ _).run _
  have hunstarted : ∀ y ∈ farewell, y.2 ≠ .start := by simp [farewell]
  have hrunning : expectant.life.status ≠ .failed := by
    have hstatus : expectant.life.status = .connecting := by with_unfolding_all rfl
    rw [hstatus]
    exact nofun
  obtain ⟨-, hhandled, hsweeping, -, -, -, hended, -⟩ := quiet_after_stop hreached farewell hunstarted
  refine ⟨hreached, hunstarted, by with_unfolding_all rfl, task_farewell, ?_, hhandled, hsweeping⟩
  exact (hended task_farewell).1.trans (if_neg hrunning)

end Watcher

end MediaWatch
