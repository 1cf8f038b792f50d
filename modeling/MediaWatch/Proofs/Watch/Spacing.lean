import MediaWatch.Proofs.Watch.Fallback
import MediaWatch.Proofs.Watch.Reconnect

/-!
# The time between two attempts

How long a watcher waits before it connects again. In a run that keeps to the clock (`Watcher.Punctual`) a session whose
end was counted as a failure is followed by the cooldown of the breaker, in which sweeps stand in, or by the delay that
was drawn, or the watcher has given up and is started anew (`Watcher.Wait`, `Watcher.attempts_spaced`). Each of these has
an invariant of its own that a run keeps up to the next attempt: the breaker is shut since the failure
(`Breaker.ShutSince`), the nap is not over (`Watcher.le_of_napping`), or there is no task (`Watcher.start_of_absent`).
Between two attempts there is always such an end (`Watcher.exists_end_of_inTouch`).
-/

namespace MediaWatch

/-- Scalars that are summed up without loss. -/
class Scalar.Exact (τ : Type) [Scalar τ] : Prop extends Scalar.Lawful τ where
  le_total (a b : τ) : a ≤ b ∨ b ≤ a
  le_sub_iff {a b c : τ} : c ≤ b - a ↔ a + c ≤ b

instance : Scalar.Exact Rat where
  le_total := fun a b : Rat => le_total a b
  le_sub_iff := fun {_ _ _ : Rat} => le_sub_iff_add_le'

/-- Delays are not negative. -/
theorem Backoff.zero_le_next {τ : Type} [Scalar τ] [Scalar.Exact τ] (b : Backoff τ) : Scalar.ofInt 0 ≤ b.next.1 := by
  have hclamp (a : τ) : Scalar.ofInt 0 ≤ Scalar.clamp a := by
    unfold Scalar.clamp Scalar.greatest
    split
    · rename_i hpos
      exact (Scalar.Exact.le_total _ _).resolve_right (Scalar.Lawful.lt_iff_not_le.mp hpos)
    · exact (Scalar.Exact.le_total _ _).elim id id
  exact hclamp _

/-! ## Breakers that are shut -/

namespace Breaker

variable {τ : Type} [Scalar τ]

/-- A breaker that last failed at the time `t` and has let nothing through since: it is open, or was seen by now to have
cooled down. -/
structure ShutSince (cooldown t now : τ) (b : Breaker τ) : Prop where
  cooldown_eq : b.cooldown = cooldown
  last : b.lastFailure = some t
  phase : b.phase = .opened ∨ b.phase = .halfOpen ∧ cooldown ≤ now - t

variable {cooldown t now later : τ} {b : Breaker τ}

/-- A breaker that is open right after a failure. -/
theorem shutSince_fail (h : ((b.fail t).1.read t).1.isOpen = true) :
    ((b.fail t).1.read t).1.ShutSince b.cooldown t t := by
  have hphase : ((b.fail t).1.read t).1.phase = .opened := eq_of_beq h
  rcases (b.fail t).1.read_eq t with ⟨-, hr⟩ | ⟨-, -, hr⟩
  · rw [hr] at hphase ⊢
    exact ⟨by rw [fail_eq], by rw [fail_eq], Or.inl hphase⟩
  · rw [hr] at hphase
    cases hphase

theorem ShutSince.mono [Scalar.Lawful τ] (h : b.ShutSince cooldown t now) (hle : now ≤ later) :
    b.ShutSince cooldown t later where
  cooldown_eq := h.cooldown_eq
  last := h.last
  phase := h.phase.imp_right fun hhalf =>
    ⟨hhalf.1, Scalar.Lawful.le_trans hhalf.2 (Scalar.Lawful.sub_le_sub t hle)⟩

theorem ShutSince.read (h : b.ShutSince cooldown t now) : (b.read now).1.ShutSince cooldown t now := by
  rcases b.read_eq now with ⟨-, hr⟩ | ⟨-, ⟨f, hlast, hcooled⟩, hr⟩
  · rw [hr]
    exact h
  · rw [h.last] at hlast
    cases hlast
    rw [hr]
    exact ⟨h.cooldown_eq, h.last, Or.inr ⟨rfl, h.cooldown_eq ▸ hcooled⟩⟩

/-- A breaker that lets something through has cooled down. -/
theorem ShutSince.cooled (h : b.ShutSince cooldown t now) (hopen : (b.read now).1.isOpen = false) :
    cooldown ≤ now - t := by
  rcases h.read.phase with hopened | ⟨-, hcooled⟩
  · rw [isOpen, hopened] at hopen
    cases hopen
  · exact hcooled

end Breaker

namespace Watcher

variable {τ : Type} [Scalar τ] {now : τ} {w : Watcher τ}

/-! ## Runs by the clock -/

/-- The time since which the task is where it is after a stimulus, if it was there since the given time before. -/
def sinceAfter (now : τ) (x : Stimulus) (w : Watcher τ) (since : τ) : τ :=
  if (w.carryOn now x).isSome then now else since

/-- Whether a run keeps to a clock that shows the given time at first, and whose task is where it is since another: the
clock does not go back, a nap lasts until its time is over or the task is to wake up, and only callbacks that were posted
run. -/
def Punctual (since clock : τ) (w : Watcher τ) : List (τ × Stimulus) → Prop
  | [] => True
  | (now, x) :: xs =>
    clock ≤ now ∧
    (∀ seconds, x = .rested → w.position = .napping seconds → since + seconds ≤ now ∨ w.life.wakeup = true) ∧
    (x = .woken → 0 < w.life.posted) ∧
    Punctual (w.sinceAfter now x since) now (w.react now x) xs

/-- A run up to the next attempt to connect, with `ys` before and `y` leading to it at the time `u`. Nobody stops the
watcher. -/
structure NextAttempt (since clock : τ) (w : Watcher τ) (ys : List (τ × Stimulus)) (u : τ) (y : Stimulus) : Prop where
  punctual : w.Punctual since clock (ys ++ [(u, y)])
  unstopped : ∀ z ∈ ys ++ [(u, y)], z.2 ≠ .stop
  first : .connecting ∉ w.history ys
  connects : .connecting ∈ (w.run ys).deeds u y

variable {since clock u : τ} {ys : List (τ × Stimulus)} {x y : Stimulus}

/-- What happens before the next attempt may be looked at step by step. -/
theorem NextAttempt.of_cons (h : NextAttempt since clock w ((now, x) :: ys) u y) :
    (clock ≤ now ∧ x ≠ .stop ∧ .connecting ∉ w.deeds now x) ∧
      (∀ seconds, x = .rested → w.position = .napping seconds → since + seconds ≤ now ∨ w.life.wakeup = true) ∧
      (x = .woken → 0 < w.life.posted) ∧
      NextAttempt (w.sinceAfter now x since) now (w.react now x) ys u y := by
  obtain ⟨hclock, hnap, hwoken, hpunctual⟩ := h.punctual
  obtain ⟨hstop, hunstopped⟩ := List.forall_mem_cons.mp h.unstopped
  obtain ⟨hnow, hfirst⟩ := not_or.mp (fun hmem => h.first (List.mem_append.mpr hmem))
  exact ⟨⟨hclock, hstop, hnow⟩, hnap, hwoken, hpunctual, hunstopped, hfirst, h.connects⟩

variable [Scalar.Exact τ]

/-- The next attempt does not come before the present time. -/
theorem NextAttempt.clock_le (h : NextAttempt since clock w ys u y) : clock ≤ u := by
  induction ys generalizing w since clock with
  | nil => exact h.punctual.1
  | cons z ys ih =>
    obtain ⟨now, x⟩ := z
    obtain ⟨⟨hclock, -, -⟩, -, -, hnext⟩ := h.of_cons
    exact Scalar.Lawful.le_trans hclock (ih hnext)

/-! ## Waiting -/

variable {url : String} {interval patience cooldown t seconds : τ}

/-- Sweeps stand in until the breaker has cooled down. -/
theorem NextAttempt.cooled (h : NextAttempt since clock w ys u y) (hstands : w.condition.StandsIn url interval patience)
    (hshut : w.breaker.ShutSince cooldown t clock) : t + cooldown ≤ u := by
  induction ys generalizing w since clock with
  | nil =>
    have hconnects : .connecting ∈ w.deeds u y := h.connects
    have hstop : y ≠ .stop := h.unstopped (u, y) (by simp)
    cases standIn_step hstands.strategy hstands.active hstands.position u hstop with
    | stays hdeeds _ => exact (hdeeds _ hconnects).elim
    | returns _ _ hopen => exact Scalar.Exact.le_sub_iff.mp ((hshut.mono h.clock_le).cooled hopen)
  | cons z ys ih =>
    obtain ⟨now, x⟩ := z
    obtain ⟨⟨hclock, hstop, hfirst⟩, -, -, hnext⟩ := h.of_cons
    have hshut' := hshut.mono hclock
    refine ih hnext (hstands.next hstop (Or.inr hfirst)).1 ?_
    rcases (hstands.keeps now hstop).breaker with hsame | hread
    · exact (show (w.react now x).breaker = w.breaker from hsame) ▸ hshut'
    · exact (show (w.react now x).breaker = (w.breaker.read now).1 from hread) ▸ hshut'.read

omit [Scalar.Exact τ] in
/-- A watcher that has given up its subscription does not connect. -/
theorem not_nextAttempt_of_resigned (hstands : w.condition.StandsIn url interval patience)
    (hpush : w.pushEnabled = false) : ¬ NextAttempt since clock w ys u y := by
  intro h
  have hunstopped : ∀ z ∈ ys, z.2 ≠ .stop := fun z hz => h.unstopped z (List.mem_append_left _ hz)
  obtain ⟨hrun, hpush', -⟩ := hstands.run hunstopped (Or.inl hpush)
  have hstop : y ≠ .stop := h.unstopped (u, y) (by simp)
  exact (hrun.next hstop (Or.inl (hpush'.trans hpush))).2 _ h.connects

omit [Scalar.Exact τ] in
/-- Only the end of its nap gets a task out of it. -/
theorem carryOn_of_napping (hp : w.position = .napping seconds) (hx : x ≠ .rested) : w.carryOn now x = none := by
  cases x <;> simp_all [carryOn]

/-- A nap that nothing is going to cut short is over before the next attempt. -/
theorem NextAttempt.le_of_napping (h : NextAttempt since clock w ys u y) (hp : w.position = .napping seconds)
    (hactive : w.life.active = true) (hwakeup : w.life.wakeup = false) (hposted : w.life.posted = 0) :
    since + seconds ≤ u := by
  induction ys generalizing w clock with
  | nil =>
    by_cases hy : y = .rested
    · obtain ⟨-, hnap, -⟩ := h.punctual
      exact (hnap seconds hy hp).resolve_right (by rw [hwakeup]; exact Bool.false_ne_true)
    · have hconnects : .connecting ∈ w.deeds u y := h.connects
      rw [deeds, carryOn_of_napping hp hy] at hconnects
      cases hconnects
  | cons z ys ih =>
    obtain ⟨now, x⟩ := z
    obtain ⟨⟨-, hstop, -⟩, hnap, hwoken, hnext⟩ := h.of_cons
    by_cases hx : x = .rested
    · have hwaited := (hnap seconds hx hp).resolve_right (by rw [hwakeup]; exact Bool.false_ne_true)
      exact Scalar.Lawful.le_trans hwaited hnext.clock_le
    · have hcarry : w.carryOn now x = none := carryOn_of_napping hp hx
      have hsince : w.sinceAfter now x since = since := by simp [sinceAfter, hcarry]
      have htouched := touched_of_carryOn_none hcarry
      rw [hsince] at hnext
      have hlife : (w.react now x).position = w.position ∧ (w.react now x).life = w.life := by
        show (w.react now x).condition.position = w.condition.position ∧ (w.react now x).condition.life = w.condition.life
        generalize (w.react now x).condition = c' at htouched ⊢
        cases htouched with
        | still => exact ⟨rfl, rfl⟩
        | starts _ hinactive _ => exact absurd (hinactive.symm.trans hactive) Bool.false_ne_true
        | resumes _ hinactive _ => exact absurd (hinactive.symm.trans hactive) Bool.false_ne_true
        | stops hx => exact absurd hx hstop
        | wakes hx => exact absurd (hwoken hx) (by omega)
        | looks => exact ⟨rfl, rfl⟩
      obtain ⟨hposition, hlife⟩ := hlife
      exact ih hnext (hposition.trans hp) (hlife ▸ hactive) (hlife ▸ hwakeup) (hlife ▸ hposted)

omit [Scalar.Exact τ] in
/-- A watcher without a task does not connect before it is started. -/
theorem NextAttempt.start_of_absent (h : NextAttempt since clock w ys u y) (hp : w.position = .absent) :
    ∃ z ∈ ys, z.2 = .start := by
  by_contra hnone
  have hys : ∀ z ∈ ys, z.2 ≠ .start := fun z hz hstart => hnone ⟨z, hz, hstart⟩
  have hconnects := h.connects
  rw [deeds, carryOn_of_absent (run_of_absent hp hys).1] at hconnects
  cases hconnects

/-! ## The end of a session -/

/-- Whether sweeps stand in when a session ends at the given time: the breaker is found open right after the failure. -/
def divertsAt (now : τ) (w : Watcher τ) : Bool := w.hasFallback && ((w.breaker.fail now).1.read now).1.isOpen

/-- Whether a watcher has given up: it has no task, is not active and says that it has failed. -/
structure GaveUp (w : Watcher τ) : Prop where
  position : w.position = .absent
  active : w.life.active = false
  status : w.life.status = .failed

/-- What lies between the end of a session, which `x` brings to the watcher `w` at the time `t`, and the next attempt at
the time `u`, with `ys` in between. -/
inductive Wait (t : τ) (x : Stimulus) (w : Watcher τ) (ys : List (τ × Stimulus)) (u : τ) : Prop
  /-- The breaker cools down, and sweeps stand in. No delay is drawn. -/
  | cooldown (hopen : w.divertsAt t = true) (hleft : w.backoff.exhausted = false)
      (hundrawn : (w.react t x).backoff = w.backoff) (hpolls : ∀ d ∈ (w.react t x).history ys, d.IsPoll)
      (hu : t + w.breaker.cooldown ≤ u)
  /-- A delay is drawn and waited for. -/
  | delay (hclosed : w.divertsAt t = false) (hleft : w.backoff.exhausted = false)
      (hdrawn : (w.react t x).backoff = w.backoff.next.2) (hdelay : Scalar.ofInt 0 ≤ w.backoff.next.1)
      (hu : t + w.backoff.next.1 ≤ u)
  /-- All attempts are used up. No delay is drawn, the watcher gives up, and someone starts it anew. -/
  | renewal (hs : w.hasFallback = false) (hexhausted : w.backoff.exhausted = true)
      (hundrawn : (w.react t x).backoff = w.backoff) (hgaveUp : (w.react t x).GaveUp) (hstart : ∃ z ∈ ys, z.2 = .start)

omit [Scalar.Exact τ] in
/-- Where the breaker is open after a session, sweeps stand in. -/
theorem standsIn_of_divertsAt {fallback : Bool} (hs : w.strategy = .push url fallback interval patience)
    (hactive : w.life.active = true) (hends : w.endsSession x = true) (hopen : w.divertsAt t = true) :
    (w.react t x).condition.StandsIn url interval patience := by
  obtain ⟨hfallback, hopened⟩ := Bool.and_eq_true_iff.mp hopen
  have hfallback : w.strategy.hasFallback = true := hfallback
  obtain rfl : fallback = true := by rwa [hs] at hfallback
  have hended := sessionEnd_of_endsSession hends t
  generalize (w.react t x).condition = c' at hended ⊢
  cases hended with
  | finished hinactive => exact absurd (hinactive.symm.trans hactive) Bool.false_ne_true
  | givesUp _ _ hno => exact absurd (hno.symm.trans hfallback) Bool.false_ne_true
  | disables _ _ _ => exact ⟨hs, hactive, rfl⟩
  | diverts _ _ _ _ => exact ⟨hs, hactive, rfl⟩
  | draws _ _ hpasses => exact absurd ((hpasses hfallback).symm.trans hopened) Bool.false_ne_true

omit [Scalar.Exact τ] in
/-- A session that ends when all attempts are used up draws no delay. Without sweeps the watcher gives up, and with them
it does not connect again. -/
theorem resigns_of_exhausted {fallback : Bool} (hs : w.strategy = .push url fallback interval patience)
    (hactive : w.life.active = true) (hends : w.endsSession x = true) (hexhausted : w.backoff.exhausted = true) :
    (w.react t x).backoff = w.backoff ∧ (w.hasFallback = false → (w.react t x).GaveUp) ∧
      (w.hasFallback = true → ∀ ys u y, ¬ NextAttempt t t (w.react t x) ys u y) := by
  have hended := sessionEnd_of_endsSession hends t
  obtain ⟨c', hc'⟩ : ∃ c', (w.react t x).condition = c' := ⟨_, rfl⟩
  rw [hc'] at hended
  cases hended with
  | finished hinactive => exact absurd (hinactive.symm.trans hactive) Bool.false_ne_true
  | givesUp _ _ hno =>
    have hlife : (w.react t x).life = ({ w.life with active := false, status := .failed } : Lifecycle).finish.1 :=
      congrArg Condition.life hc'
    have hfinish : (w.react t x).life.active = false ∧ (w.react t x).life.status = .failed := by
      rw [hlife, Lifecycle.finish]
      cases w.life.task <;> exact ⟨rfl, rfl⟩
    exact ⟨congrArg Condition.backoff hc', fun _ => ⟨congrArg Condition.position hc', hfinish.1, hfinish.2⟩,
      fun hfallback => absurd (hno.symm.trans hfallback) Bool.false_ne_true⟩
  | disables _ _ hfallback =>
    obtain rfl : fallback = true := by rwa [show w.condition.strategy = _ from hs] at hfallback
    have hstands : (w.react t x).condition.StandsIn url interval patience := by
      rw [hc']
      exact ⟨hs, hactive, rfl⟩
    exact ⟨congrArg Condition.backoff hc', fun hno => absurd (hno.symm.trans hfallback) Bool.false_ne_true,
      fun _ _ _ _ => not_nextAttempt_of_resigned hstands (congrArg Condition.pushEnabled hc')⟩
  | diverts _ hleft _ _ => exact absurd (hleft.symm.trans hexhausted) Bool.false_ne_true
  | draws _ hleft _ => exact absurd (hleft.symm.trans hexhausted) Bool.false_ne_true

/-- What lies between the end of a session and the next attempt. -/
theorem wait_of_nextAttempt {fallback : Bool} (hs : w.strategy = .push url fallback interval patience)
    (hactive : w.life.active = true) (hposted : w.life.posted = 0) (hends : w.endsSession x = true)
    (h : NextAttempt t t (w.react t x) ys u y) : Wait t x w ys u := by
  have hunstopped : ∀ z ∈ ys, z.2 ≠ .stop := fun z hz => h.unstopped z (List.mem_append_left _ hz)
  have hresigns := resigns_of_exhausted (t := t) hs hactive hends
  have hended := sessionEnd_of_endsSession hends t
  obtain ⟨c', hc'⟩ : ∃ c', (w.react t x).condition = c' := ⟨_, rfl⟩
  rw [hc'] at hended
  cases hended with
  | finished hinactive => exact absurd (hinactive.symm.trans hactive) Bool.false_ne_true
  | givesUp _ hexhausted hno =>
    obtain ⟨hundrawn, hgaveUp, -⟩ := hresigns hexhausted
    exact .renewal hno hexhausted hundrawn (hgaveUp hno) (h.start_of_absent (hgaveUp hno).position)
  | disables _ hexhausted hfallback => exact absurd h ((hresigns hexhausted).2.2 hfallback ys u y)
  | diverts _ hleft hfallback hopen =>
    have hdiverts : w.divertsAt t = true := Bool.and_eq_true_iff.mpr ⟨hfallback, hopen⟩
    have hstands := standsIn_of_divertsAt hs hactive hends hdiverts
    have hbreaker : (w.react t x).breaker = ((w.breaker.fail t).1.read t).1 := congrArg Condition.breaker hc'
    exact .cooldown hdiverts hleft (congrArg Condition.backoff hc') (hstands.run hunstopped (Or.inr h.first)).2.2
      (h.cooled hstands (hbreaker ▸ Breaker.shutSince_fail hopen))
  | draws _ hleft hpasses =>
    have hclosed : w.divertsAt t = false := by
      cases hfallback : w.hasFallback with
      | false => rw [divertsAt, hfallback, Bool.false_and]
      | true => exact Bool.and_eq_false_iff.mpr (Or.inr (hpasses hfallback))
    have hlife : (w.react t x).life = { w.life with
        status := if ((w.breaker.fail t).1.read t).1.isOpen then .degraded else .reconnecting
        wakeup := false } := congrArg Condition.life hc'
    exact .delay hclosed hleft (congrArg Condition.backoff hc') w.backoff.zero_le_next
      (h.le_of_napping (congrArg Condition.position hc') (by rw [hlife]; exact hactive) (by rw [hlife])
        (by rw [hlife]; exact hposted))

end Watcher

/-! ## From one attempt to the next -/

/-- Whether the task connects or is in a session. -/
def Position.InTouch {τ : Type} : Position τ → Prop
  | .connecting | .sending _ | .receiving => True
  | .querying _ a => a = .receive
  | .notifying _ e => e.after = .receive
  | _ => False

theorem Position.InTouch.after?_eq {τ : Type} {p : Position τ} (h : p.InTouch) {a : After} (ha : p.after? = some a) :
    a = .receive := by
  cases p with
  | querying s b => exact (Option.some.inj ha).symm.trans h
  | notifying d e => exact (Option.some.inj ha).symm.trans h
  | sending frame =>
    cases frame with
    | hello => cases ha
    | subscribe => exact (Option.some.inj ha).symm
  | receiving => exact (Option.some.inj ha).symm
  | connecting => cases ha
  | _ => exact h.elim

namespace Watcher

variable {τ : Type} [Scalar τ] {now since clock u : τ} {w : Watcher τ} {ys : List (τ × Stimulus)} {x y : Stimulus}

variable {url : String} {fallback : Bool} {interval patience : τ}

/-- What the task goes on with in a session keeps it there. -/
theorem Condition.Onward.inTouch {c c' : Condition τ} (h : c.Onward now .receive c')
    (hs : c.strategy = .push url fallback interval patience) (hactive : c.life.active = true) :
    c'.position.InTouch ∧ c'.position ≠ .connecting := by
  cases h with
  | @works p hwork =>
    cases p with
    | querying s a =>
      cases s with
      | listing => exact hwork.elim
      | reading e rest => exact ⟨hwork, by simp [atPosition]⟩
    | notifying d e => exact ⟨hwork, by simp [atPosition]⟩
    | _ => exact hwork.elim
  | listens _ _ => exact ⟨trivial, by simp [atPosition]⟩
  | loops ha => cases ha
  | idles ha => cases ha
  | rests ha => cases ha
  | finished hinactive => exact absurd (hinactive.symm.trans hactive) Bool.false_ne_true
  | drops hno => exact absurd (by rw [hs]; trivial) hno

/-- A task that connects or is in a session stays so until the session ends, and does not connect again. -/
theorem inTouch_step (hs : w.strategy = .push url fallback interval patience) (hactive : w.life.active = true)
    (hp : w.position.InTouch) (hstop : x ≠ .stop) (hends : w.endsSession x = false) (now : τ) :
    (w.react now x).position.InTouch ∧ .connecting ∉ w.deeds now x := by
  have hquiet (h : (w.react now x).condition.position.InTouch ∧ (w.react now x).condition.position ≠ .connecting) :
      (w.react now x).position.InTouch ∧ .connecting ∉ w.deeds now x :=
    ⟨h.1, fun hmem => h.2 (position_of_connects hmem)⟩
  have hcreated : w.position ≠ .created := fun h => by rw [h] at hp; exact hp
  cases move now x w with
  | touched _ _ hdeeds htouched =>
    refine ⟨?_, by simp [hdeeds]⟩
    show (w.react now x).condition.position.InTouch
    generalize (w.react now x).condition = c' at htouched ⊢
    cases htouched with
    | starts _ hinactive _ => exact absurd (hinactive.symm.trans hactive) Bool.false_ne_true
    | stops hx => exact absurd hx hstop
    | _ => exact hp
  | passed _ _ _ hpassed =>
    refine hquiet ?_
    generalize (w.react now x).condition = c' at hpassed ⊢
    cases hpassed with
    | begins hno _ => exact absurd hno hcreated
    | opens _ => exact ⟨trivial, by simp [Condition.atPosition]⟩
    | greets _ => exact ⟨trivial, by simp [Condition.atPosition]⟩
    | loops hno _ =>
      rcases hno with hno | ⟨seconds, hno⟩
      · exact absurd hno hcreated
      · rw [show w.position = .napping seconds from hno] at hp
        exact hp.elim
    | @goesOn a _ ha honward =>
      obtain rfl := hp.after?_eq ha
      exact honward.inTouch hs hactive
  | acknowledged _ _ _ _ _ honward => exact hquiet (honward.inTouch hs hactive)
  | catchesUp _ _ _ _ _ hreact =>
    refine hquiet ?_
    rw [hreact]
    exact ⟨rfl, by simp [Condition.atPosition]⟩
  | ended hyes _ _ _ =>
    rw [hends] at hyes
    cases hyes

/-- What does not end a session leaves the strategy and the life of a watcher as they are, but that fewer callbacks may
be left to run. -/
theorem life_of_endsSession_false (hactive : w.life.active = true) (hstop : x ≠ .stop) (hends : w.endsSession x = false)
    (now : τ) :
    (w.react now x).strategy = w.strategy ∧ (w.react now x).life.active = true ∧
      (w.react now x).life.posted ≤ w.life.posted := by
  cases passage now (fun _ => hactive) hstop with
  | keeps _ _ hkeeps => exact ⟨hkeeps.strategy, hkeeps.active.trans hactive, hkeeps.posted⟩
  | acknowledged _ _ hkeeps => exact ⟨hkeeps.strategy, hkeeps.active.trans hactive, hkeeps.posted⟩
  | ended hyes _ _ =>
    rw [hends] at hyes
    cases hyes

/-- Before the next attempt the session ends that a task is in. -/
theorem NextAttempt.exists_end (h : NextAttempt since clock w ys u y)
    (hs : w.strategy = .push url fallback interval patience) (hactive : w.life.active = true)
    (hposted : w.life.posted = 0) (hp : w.position.InTouch) :
    ∃ before s e after, ys = before ++ (s, e) :: after ∧
      let v := w.run before
      v.strategy = .push url fallback interval patience ∧ v.life.active = true ∧ v.life.posted = 0 ∧
        v.endsSession e = true ∧ NextAttempt s s (v.react s e) after u y := by
  induction ys generalizing w since clock with
  | nil =>
    have hconnects : .connecting ∈ w.deeds u y := h.connects
    have hstop : y ≠ .stop := h.unstopped (u, y) (by simp)
    cases hends : w.endsSession y with
    | true => exact absurd (position_of_connects hconnects) (sessionEnd_of_endsSession hends u).position_ne
    | false => exact absurd hconnects (inTouch_step hs hactive hp hstop hends u).2
  | cons z ys ih =>
    obtain ⟨now, x⟩ := z
    obtain ⟨⟨-, hstop, -⟩, -, -, hnext⟩ := h.of_cons
    cases hends : w.endsSession x with
    | true =>
      have hcarry : w.carryOn now x ≠ none := fun hnone =>
        absurd (hends.symm.trans (inert_of_carryOn_none hnone).1) (by simp)
      have hsince : w.sinceAfter now x since = now := if_pos (Option.isSome_iff_ne_none.mpr hcarry)
      rw [hsince] at hnext
      exact ⟨[], now, x, ys, rfl, hs, hactive, hposted, hends, hnext⟩
    | false =>
      obtain ⟨hstrategy, hactive', hposted'⟩ := life_of_endsSession_false hactive hstop hends now
      obtain ⟨before, s, e, after, rfl, hlast⟩ := ih hnext (hstrategy.trans hs) hactive'
        (by omega) (inTouch_step hs hactive hp hstop hends now).1
      exact ⟨(now, x) :: before, s, e, after, rfl, hlast⟩

variable [Scalar.Exact τ]

/-- **Attempts are spaced.** Let no callback of an earlier stop be left to run, and nobody stop the watcher from now on.

* When a session ends and counts as a failure, the next attempt to connect does not come before the breaker has cooled
  down, if it is open right after the failure, or before the delay is over that is drawn, or else all attempts were used
  up, the watcher has given up and someone starts it anew.
* When all attempts are used up no delay is drawn. Without sweeps the watcher gives up, and if sweeps stand in there is
  no next attempt.
* As long as the task does not connect after an end that opens the breaker, it only sweeps, and naps for the interval of
  its sweeps.
* Between two attempts there is the end of a session with one of these waits. -/
theorem attempts_spaced (url : String) (fallback : Bool) (interval patience : τ) (w : Watcher τ)
    (hs : w.strategy = .push url fallback interval patience) (hposted : w.life.posted = 0) :
    (∀ t x, w.life.active = true → w.endsSession x = true →
      (∀ ys u y, NextAttempt t t (w.react t x) ys u y → Wait t x w ys u) ∧
      (w.divertsAt t = true → ∀ ys, (∀ y ∈ ys, y.2 ≠ .stop) → .connecting ∉ (w.react t x).history ys →
        ((w.react t x).run ys).position.StandsIn interval ∧ ∀ d ∈ (w.react t x).history ys, d.IsPoll) ∧
      (w.backoff.exhausted = true → (w.react t x).backoff = w.backoff ∧
        (w.hasFallback = false → (w.react t x).GaveUp) ∧
        (w.hasFallback = true → ∀ ys u y, ¬ NextAttempt t t (w.react t x) ys u y))) ∧
    (∀ t x, .connecting ∈ w.deeds t x → ∀ ys u y, NextAttempt t t (w.react t x) ys u y →
      ∃ before s e after, ys = before ++ (s, e) :: after ∧
        let v := (w.react t x).run before
        v.life.active = true ∧ v.endsSession e = true ∧ Wait s e v after u) := by
  refine ⟨fun t x hactive hends => ⟨fun ys u y h => ?_, fun hopen ys hys hfirst => ?_,
    resigns_of_exhausted hs hactive hends⟩, fun t x hconnects ys u y h => ?_⟩
  · exact wait_of_nextAttempt hs hactive hposted hends h
  · obtain ⟨hstands, -, hpolls⟩ := (standsIn_of_divertsAt hs hactive hends hopen).run hys (Or.inr hfirst)
    exact ⟨hstands.position, hpolls⟩
  · have hactive := active_of_connects hconnects
    have hposition := position_of_connects hconnects
    have hstop : x ≠ .stop := by
      rintro rfl
      simp [deeds, carryOn] at hconnects
    have hends : w.endsSession x = false := by
      cases hends : w.endsSession x with
      | false => rfl
      | true => exact absurd hposition (sessionEnd_of_endsSession hends t).position_ne
    obtain ⟨hstrategy, hactive', hposted'⟩ := life_of_endsSession_false hactive hstop hends t
    obtain ⟨before, s, e, after, rfl, hs', hgoing, hnone, hend, hlast⟩ :=
      h.exists_end (hstrategy.trans hs) hactive' (by omega) (by rw [hposition]; trivial)
    exact ⟨before, s, e, after, rfl, hgoing, hend, wait_of_nextAttempt hs' hgoing hnone hend hlast⟩

/-! ## Two attempts without a delay -/

/-- A watcher that must not reconnect, at a server that refuses the first connection. -/
def repelled : Watcher Rat :=
  (subscribed "ws://stump.local/api/graphql" 60 30 ⟨500, true⟩ [] none (Backoff.fresh 1 8 2 0 (some 0) [])
    (Breaker.fresh "test" 5 60)).react 0 .begun

/-- It is started anew half a second after it has given up. -/
theorem nextAttempt_repelled : NextAttempt 0 0 (repelled.react 0 (.opened (.error (.other "refused")))) [(1 / 2, .start)]
    (1 / 2) .begun where
  punctual := by
    refine ⟨by with_unfolding_all decide, ?_, ?_, by with_unfolding_all decide, ?_, ?_, trivial⟩
    all_goals simp
  unstopped := by simp
  first := by
    have hhistory : (repelled.react 0 (.opened (.error (.other "refused")))).history [(1 / 2, .start)] = [] := by
      with_unfolding_all rfl
    rw [hhistory]
    simp
  connects := by
    have hdeeds : ((repelled.react 0 (.opened (.error (.other "refused")))).run [(1 / 2, .start)]).deeds (1 / 2) .begun =
        [.began, .connecting] := by
      with_unfolding_all rfl
    rw [hdeeds]
    simp

/-- A watcher that was stopped and started again while it connects; the callback of the stop has not run. -/
def jolted : Watcher Rat :=
  ((subscribed "ws://stump.local/api/graphql" 60 30 ⟨500, true⟩ [] none (Backoff.fresh 1 8 2 0 none [])
    (Breaker.fresh "test" 5 60)).react 0 .begun).stop.start

/-- The callback wakes it from the nap that it takes when the connection is refused. -/
theorem nextAttempt_jolted :
    NextAttempt 0 0 (jolted.react 0 (.opened (.error (.other "refused")))) [(0, .woken)] 0 .rested where
  punctual := by
    refine ⟨by with_unfolding_all decide, by simp, fun _ => by with_unfolding_all decide, by with_unfolding_all decide,
      fun seconds _ _ => Or.inr ?_, by simp, trivial⟩
    with_unfolding_all rfl
  unstopped := by simp
  first := by
    have hhistory : (jolted.react 0 (.opened (.error (.other "refused")))).history [(0, .woken)] = [] := by
      with_unfolding_all rfl
    rw [hhistory]
    simp
  connects := by
    have hdeeds : ((jolted.react 0 (.opened (.error (.other "refused")))).run [(0, .woken)]).deeds 0 .rested =
        [.connecting] := by
      with_unfolding_all rfl
    rw [hdeeds]
    simp

/-- A watcher that has given up and is started anew connects without a wait, and so does one that is woken by the callback
of a stop from before: the first delay would be one second. -/
theorem attempt_without_delay :
    (repelled.position = .connecting ∧ repelled.life.active = true ∧ repelled.life.posted = 0 ∧
      repelled.endsSession (.opened (.error (.other "refused"))) = true ∧ repelled.divertsAt 0 = false ∧
      NextAttempt 0 0 (repelled.react 0 (.opened (.error (.other "refused")))) [(1 / 2, .start)] (1 / 2) .begun ∧
      ¬ 0 + repelled.backoff.next.1 ≤ 1 / 2) ∧
    jolted.position = .connecting ∧ jolted.life.active = true ∧ jolted.life.posted = 1 ∧
      jolted.endsSession (.opened (.error (.other "refused"))) = true ∧ jolted.divertsAt 0 = false ∧
      NextAttempt 0 0 (jolted.react 0 (.opened (.error (.other "refused")))) [(0, .woken)] 0 .rested ∧
      ¬ 0 + jolted.backoff.next.1 ≤ 0 := by
  refine ⟨⟨by with_unfolding_all rfl, by with_unfolding_all rfl, by with_unfolding_all rfl, by with_unfolding_all rfl,
    by with_unfolding_all rfl, nextAttempt_repelled, ?_⟩, by with_unfolding_all rfl, by with_unfolding_all rfl,
    by with_unfolding_all rfl, by with_unfolding_all rfl, by with_unfolding_all rfl, nextAttempt_jolted, ?_⟩
  · with_unfolding_all decide
  · with_unfolding_all decide

/-- A watcher whose breaker opens at the first failure, about to connect. -/
def cautious : Watcher Rat :=
  (fresh (.push "ws://stump.local/api/graphql" true 4 30) ⟨500, true⟩ [] none (Backoff.fresh 1 8 2 0 none [])
    (Breaker.fresh "test" 1 10)).start.run [(0, .begun), (0, .reply fun _ => .error "down")]

/-- Between two attempts it sweeps and naps until the breaker has cooled down. -/
def sheltered : List (Rat × Stimulus) :=
  [(0, .reply fun _ => .error "down"), (4, .rested), (4, .reply fun _ => .error "down"), (8, .rested),
    (8, .reply fun _ => .error "down")]

theorem nextAttempt_cautious :
    NextAttempt 0 0 (cautious.react 0 (.opened (.error (.other "refused")))) sheltered 12 .rested where
  punctual := by
    have hnap : ∀ {p : Position Rat} {since now : Rat}, p = .napping 4 → since + 4 ≤ now →
        ∀ seconds, p = .napping seconds → since + seconds ≤ now := by
      rintro p since now rfl hle seconds hp
      cases hp
      exact hle
    refine ⟨by with_unfolding_all decide, by simp, by simp, by with_unfolding_all decide, fun seconds _ hp => Or.inl ?_,
      by simp, by with_unfolding_all decide, by simp, by simp, by with_unfolding_all decide,
      fun seconds _ hp => Or.inl ?_, by simp, by with_unfolding_all decide, by simp, by simp,
      by with_unfolding_all decide, fun seconds _ hp => Or.inl ?_, by simp, trivial⟩
    · exact hnap (by with_unfolding_all rfl) (by with_unfolding_all decide) seconds hp
    · exact hnap (by with_unfolding_all rfl) (by with_unfolding_all decide) seconds hp
    · exact hnap (by with_unfolding_all rfl) (by with_unfolding_all decide) seconds hp
  unstopped := by simp [sheltered]
  first := by
    have hhistory : (cautious.react 0 (.opened (.error (.other "refused")))).history sheltered =
        [.listed (.error "down"), .napping, .sweeping .fallback, .listed (.error "down"), .napping,
          .sweeping .fallback, .listed (.error "down"), .napping] := by
      with_unfolding_all rfl
    rw [hhistory]
    simp
  connects := by
    have hdeeds : ((cautious.react 0 (.opened (.error (.other "refused")))).run sheltered).deeds 12 .rested =
        [.connecting] := by
      with_unfolding_all rfl
    rw [hdeeds]
    simp

/-- An outage that is bridged by three sweeps. -/
theorem attempts_spaced_of_sheltered :
    cautious.life.posted = 0 ∧ cautious.life.active = true ∧
      cautious.endsSession (.opened (.error (.other "refused"))) = true ∧ cautious.divertsAt 0 = true ∧
      Wait 0 (.opened (.error (.other "refused"))) cautious sheltered 12 := by
  have hposted : cautious.life.posted = 0 := by with_unfolding_all rfl
  have hactive : cautious.life.active = true := by with_unfolding_all rfl
  have hends : cautious.endsSession (.opened (.error (.other "refused"))) = true := by with_unfolding_all rfl
  obtain ⟨hspaced, -⟩ := attempts_spaced "ws://stump.local/api/graphql" true 4 30 cautious
    (by with_unfolding_all rfl) hposted
  exact ⟨hposted, hactive, hends, by with_unfolding_all rfl, (hspaced 0 _ hactive hends).1 _ _ _ nextAttempt_cautious⟩

end Watcher

end MediaWatch
