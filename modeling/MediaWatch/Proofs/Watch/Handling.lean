import MediaWatch.Proofs.Watch.FanOut
import MediaWatch.Proofs.Watch.Turns

/-!
# Handling a frame

A text frame can be handled from outside the task as well (`After.caller`): the call then waits for the server and for
the listeners, and returns where there is no more to do. Each frame is of one of four kinds, and what is done about it
is exact (`Watcher.handle_exact`). One that ends the subscription, and one that says nothing, are done with at once. An
announcement makes one delivery, whose calls are made one after the other (`Watcher.run_delivery`). An acknowledgement
makes one sweep, if there are sweeps at all: while it is under way nothing but the store and the deliveries change, and
when it is whole the call returns (`Watcher.run_sweep`).
-/

namespace MediaWatch

open Json

/-! ## Kinds of frames -/

/-- A frame that acknowledges the connection: an envelope of type `connection_ack`. -/
def Frame.Acknowledges (f : TextFrame) : Prop :=
  ∃ envelope : Members, f.Holds (.obj envelope) ∧ Members.value? "type" envelope = some (.str "connection_ack")

namespace Frame

theorem eq_acknowledged_of_acknowledges {f : Frame} (h : f.acknowledges = true) : f = .acknowledged := by
  cases f with
  | acknowledged => rfl
  | _ => cases h

theorem read_eq_acknowledged_iff (f : TextFrame) : read f = .acknowledged ↔ Acknowledges f := by
  constructor
  · intro h
    rcases read_cases f with ⟨envelope, hholds, hread⟩ | hread <;> rw [hread] at h
    · unfold ofEnvelope at h
      dsimp only at h
      split at h
      case h_1 => split at h <;> cases h
      case h_2 htype => exact ⟨envelope, hholds, htype⟩
      all_goals cases h
    · cases h
  · rintro ⟨envelope, hholds, htype⟩
    simp only [read_of_holds hholds, ofEnvelope, htype]

end Frame

/-! ## Calls from outside -/

/-- Whether a stimulus is what a call waits for: an answer of the server, or the end of a listener's call. -/
def Stimulus.IsAnswer : Stimulus → Prop
  | .reply _ | .called .. => True
  | _ => False

namespace Watcher

variable {τ : Type} [Scalar τ] {now : τ} {w v : Watcher τ} {x : Stimulus}

omit [Scalar τ] in
/-- What is said goes to the journal alone. -/
theorem sayAll_eq (ns : List Notice) (w : Watcher τ) : sayAll ns w = { w with journal := (sayAll ns w).journal } := by
  induction ns generalizing w with
  | nil => rfl
  | cons n ns ih => exact ih (w.say n)

omit [Scalar τ] in
theorem setStatus_eq (s : Status) (w : Watcher τ) :
    w.setStatus s = { w with life := { w.life with status := s }, journal := (w.setStatus s).journal } := by
  unfold setStatus noteStatus
  split <;> rfl

omit [Scalar τ] in
/-- An acknowledgement of the connection starts the backoff over, closes the breaker and sets the status. -/
theorem acknowledge_eq (w : Watcher τ) :
    w.acknowledge = { w with
      life := { w.life with status := .connected }
      backoff := w.backoff.reset
      breaker := w.breaker.reset
      journal := w.acknowledge.journal } := by
  unfold acknowledge
  dsimp only
  rw [sayAll_eq, setStatus_eq]
  split <;> rfl

theorem goOn_caller (now : τ) (w : Watcher τ) : w.goOn now .caller = w.goto .absent := by
  unfold goOn
  cases w.strategy <;> rfl

/-- What a call does not wait for changes nothing. -/
theorem react_of_carryOn_none (hx : x.IsAnswer) (hnone : w.carryOn now x = none) :
    w.react now x = w ∧ w.deeds now x = [] := by
  refine ⟨?_, by rw [deeds, hnone]⟩
  cases x with
  | reply c => exact congrArg (·.getD w) hnone
  | called o left => exact congrArg (·.getD w) hnone
  | _ => exact hx.elim

/-- A call that has returned is over. -/
theorem run_of_returned (hp : w.position = .absent) {xs : List (τ × Stimulus)} (hxs : ∀ x ∈ xs, x.2.IsAnswer) :
    w.run xs = w ∧ w.history xs = [] := by
  induction xs with
  | nil => exact ⟨rfl, rfl⟩
  | cons x xs ih =>
    obtain ⟨hx, hrest⟩ := List.forall_mem_cons.mp hxs
    have hnone : w.carryOn x.1 x.2 = none := carryOn_of_absent hp
    obtain ⟨hreact, hdeeds⟩ := react_of_carryOn_none hx hnone
    obtain ⟨hrun, hhistory⟩ := ih hrest
    rw [run, history, hreact, hdeeds, hrun, hhistory]
    exact ⟨rfl, rfl⟩

/-- A call that makes deliveries, or reads on, changes nothing else until it returns. -/
theorem Engaged.of_caller {libraries : List Text} (h : Engaged libraries .caller w v) :
    Alike w v ∧ (v.position = .absent ∨ v.position.IsWork .caller) := by
  cases h with
  | telling hp _ hafter hlike => exact ⟨hlike, Or.inr (by rw [hp]; exact hafter)⟩
  | @onward u now hlike hv =>
    subst hv
    cases libraries with
    | nil =>
      have hreturned : pursue now [] .caller [] u = u.goto .absent := goOn_caller now u
      rw [hreturned]
      exact ⟨hlike.goto .absent, Or.inl rfl⟩
    | cons library rest => exact ⟨hlike.goto _, Or.inr rfl⟩

end Watcher

/-! ## A delivery -/

/-- Calls of the listeners from the `i`-th on, each of which finds the batch as the one before has left it. -/
def callsInTurn (hook : Hook) : ℕ → List Event → List (List Event) → List Call
  | _, _, [] => []
  | i, batch, left :: rest => ⟨i, hook, batch, left⟩ :: callsInTurn hook (i + 1) left rest

/-- How the calls of listeners end: when, in which way, and as what they leave the batch. -/
abbrev Endings (τ : Type) := List (τ × Outcome × List Event)

namespace Endings

variable {τ : Type}

/-- The calls end. -/
def stimuli (es : Endings τ) : List (τ × Stimulus) := es.map fun e => (e.1, .called e.2.1 e.2.2)

/-- What the calls leave of the batch, one after the other. -/
def lefts (es : Endings τ) : List (List Event) := es.map (·.2.2)

theorem isAnswer_stimuli (es : Endings τ) : ∀ x ∈ es.stimuli, x.2.IsAnswer := by
  intro x hx
  obtain ⟨e, -, rfl⟩ := List.mem_map.mp hx
  trivial

end Endings

namespace Watcher

variable {τ : Type} [Scalar τ] {now : τ} {w v : Watcher τ}

/-- Where a call from outside stands that makes one delivery. -/
def delivering (hook : Hook) (batch : List Event) (i : ℕ) : Position τ := .notifying ⟨hook, batch, i⟩ ⟨[], [], .caller⟩

/-- However a listener's call ends, the next listener has its turn, or the call from outside returns. -/
theorem notified_delivering (now : τ) (o : Outcome) (hook : Hook) (batch left : List Event) (i : ℕ) (hv : Alike w v) :
    Alike w (v.notified now o left ⟨hook, batch, i⟩ ⟨[], [], .caller⟩) ∧
      (v.notified now o left ⟨hook, batch, i⟩ ⟨[], [], .caller⟩).lastEventAt = v.lastEventAt ∧
      (v.notified now o left ⟨hook, batch, i⟩ ⟨[], [], .caller⟩).position =
        if i + 1 < w.listeners.length then delivering hook left (i + 1) else .absent := by
  have hgoOn (u : Watcher τ) (hu : Alike w u) (htime : u.lastEventAt = v.lastEventAt) :
      let next := if i + 1 < u.listeners.length then u.goto (delivering hook left (i + 1)) else u.goOn now .caller
      Alike w next ∧ next.lastEventAt = v.lastEventAt ∧
        next.position = if i + 1 < w.listeners.length then delivering hook left (i + 1) else .absent := by
    rw [hu.listeners, goOn_caller]
    dsimp only
    split
    · exact ⟨hu.goto _, htime, rfl⟩
    · exact ⟨hu.goto _, htime, rfl⟩
  cases o with
  | returned => exact hgoOn v hv rfl
  | late => exact hgoOn (v.say _) (hv.say _) rfl
  | failed => exact hgoOn (v.say _) (hv.say _) rfl

/-- A delivery, as its calls end one after the other: every listener is called once and in order, and after the last
one the call from outside returns. Nothing else changes. -/
theorem run_delivery (hook : Hook) (es : Endings τ) {i : ℕ} {batch : List Event} (hv : Alike w v)
    (hp : v.position = delivering hook batch i) (hi : i < w.listeners.length) :
    callsIn (v.history es.stimuli) = callsInTurn hook i batch (es.lefts.take (w.listeners.length - i)) ∧
      Alike w (v.run es.stimuli) ∧ (v.run es.stimuli).lastEventAt = v.lastEventAt ∧
      (v.run es.stimuli).position =
        if i + es.length < w.listeners.length then delivering hook (es.lefts.getLastD batch) (i + es.length)
        else .absent := by
  induction es generalizing v i batch with
  | nil =>
    refine ⟨?_, hv, rfl, ?_⟩
    · rw [Endings.lefts, List.map_nil, List.take_nil]
      rfl
    · rw [List.length_nil, Nat.add_zero, if_pos hi]
      exact hp
  | cons e es ih =>
    obtain ⟨now, o, left⟩ := e
    obtain ⟨hlike, htime, hposition⟩ := notified_delivering now o hook batch left i hv
    have hreact : v.react now (.called o left) = v.notified now o left ⟨hook, batch, i⟩ ⟨[], [], .caller⟩ := by
      simp [react, carryOn, hp, delivering]
    have hcalls : callsIn (v.deeds now (.called o left)) = [⟨i, hook, batch, left⟩] := callsIn_deeds_called hp now o left
    have hhistory : callsIn (v.history (Endings.stimuli ((now, o, left) :: es))) =
        ⟨i, hook, batch, left⟩ :: callsIn ((v.react now (.called o left)).history (Endings.stimuli es)) := by
      show callsIn (v.deeds now (.called o left) ++ _) = _
      rw [callsIn, List.filterMap_append]
      exact congrArg (· ++ _) hcalls
    have hrun : v.run (Endings.stimuli ((now, o, left) :: es)) =
        (v.react now (.called o left)).run (Endings.stimuli es) := rfl
    have hlefts : Endings.lefts ((now, o, left) :: es) = left :: Endings.lefts es := rfl
    rw [hhistory, hrun, hreact, hlefts, List.length_cons, List.getLastD_cons]
    generalize v.notified now o left ⟨hook, batch, i⟩ ⟨[], [], .caller⟩ = u at hlike htime hposition ⊢
    by_cases hmore : i + 1 < w.listeners.length
    · rw [if_pos hmore] at hposition
      obtain ⟨hcalls', hlike', htime', hposition'⟩ := ih hlike hposition hmore
      have htake : w.listeners.length - i = (w.listeners.length - (i + 1)) + 1 := by omega
      rw [hcalls', htake, List.take_succ_cons]
      refine ⟨rfl, hlike', htime'.trans htime, ?_⟩
      rw [hposition', Nat.add_right_comm, Nat.add_assoc]
    · rw [if_neg hmore] at hposition
      obtain ⟨hover, hnothing⟩ := run_of_returned hposition (Endings.isAnswer_stimuli es)
      have htake : w.listeners.length - i = 1 := by omega
      rw [hover, hnothing, htake, List.take_succ_cons, List.take_zero, if_neg (by omega)]
      exact ⟨rfl, hlike, htime, hposition⟩

/-! ## A sweep -/

/-- Whether a watcher differs from another one at most in what a sweep changes: its store, its position, its journal
and the time of its last event. -/
def SweepAlike (w v : Watcher τ) : Prop :=
  v = { w with store := v.store, position := v.position, journal := v.journal, lastEventAt := v.lastEventAt }

omit [Scalar τ] in
theorem Alike.sweepAlike (h : Alike w v) : SweepAlike w v := by
  unfold Alike at h
  unfold SweepAlike
  rw [h]

omit [Scalar τ] in
theorem SweepAlike.trans {u : Watcher τ} (h : SweepAlike w v) (h' : SweepAlike v u) : SweepAlike w u := by
  unfold SweepAlike at h h' ⊢
  rw [h', h]

omit [Scalar τ] in
theorem sweepAlike_goto (p : Position τ) (w : Watcher τ) : SweepAlike w (w.goto p) := rfl

omit [Scalar τ] in
/-- What is stored and said changes nothing else. -/
theorem sweepAlike_sayAll (store : Store) (ns : List Notice) (w : Watcher τ) :
    SweepAlike w (sayAll ns { w with store }) := by
  unfold SweepAlike
  rw [sayAll_eq]

/-- An answer of the server leads on in the sweep, or it has been the last one and the call returns. -/
theorem answered_caller (now : τ) (w : Watcher τ) (s : Sweep) (reply : Except Text (s.query w.detector).Reply) :
    SweepAlike w (w.answered now s .caller reply) ∧
      ((w.answered now s .caller reply).position = .absent ∨
        (w.answered now s .caller reply).position.IsWork .caller) := by
  let stored := sayAll (s.step w.detector w.store reply).notices { w with
    store := (s.step w.detector w.store reply).store }
  have hstored : SweepAlike w stored := sweepAlike_sayAll _ _ w
  cases hprogress : (s.step w.detector w.store reply).progress with
  | ask next =>
    have hanswered : w.answered now s .caller reply = stored.goto (.querying next .caller) := by
      simp only [answered, hprogress, stored]
    rw [hanswered]
    cases next with
    | listing => exact absurd hprogress (s.step_ne_listing w.detector w.store reply)
    | reading e rest => exact ⟨hstored.trans (sweepAlike_goto _ stored), Or.inr rfl⟩
  | report changes rest =>
    have hanswered : w.answered now s .caller reply = stored.emit now changes rest .caller := by
      simp only [answered, hprogress, stored]
    have hengaged : Engaged rest .caller stored (stored.emit now changes rest .caller) :=
      engaged_pursue now (batches changes) rfl
    obtain ⟨hlike, hplace⟩ := hengaged.of_caller
    rw [hanswered]
    exact ⟨hstored.trans hlike.sweepAlike, hplace⟩
  | done =>
    have hanswered : w.answered now s .caller reply = stored.goto .absent := by
      simp only [answered, hprogress, stored, goOn_caller]
    rw [hanswered]
    exact ⟨hstored.trans (sweepAlike_goto _ stored), Or.inl rfl⟩

/-- A watcher with a sweep that a call from outside has asked for, or after it. -/
structure Sweeping (v : Watcher τ) : Prop where
  backed : v.basis.strategy.hasFallback = true
  sound : v.position.Sound
  place : v.position = .absent ∨ v.position.after? = some .caller

end Watcher

/-- Nothing is done without a task. -/
theorem Mood.Run.nil_of_absent {ds : List Deed} {m : Mood} (h : Mood.Run .absent ds m) (hds : .began ∉ ds) :
    ds = [] := by
  cases h with
  | nil _ => rfl
  | cons hd _ =>
    cases hd
    exact absurd List.mem_cons_self hds

/-- Whether a deed belongs to a sweep that a call from outside has asked for, the return of the call included. -/
def Deed.OfSweep : Deed → Prop
  | .listed _ | .read .. | .told .. | .ended => True
  | _ => False

namespace Watcher

variable {τ : Type} [Scalar τ] {now : τ} {w v : Watcher τ} {x : Stimulus}

omit [Scalar τ] in
theorem ofSweep_occasion (hx : x.IsAnswer) : ∀ d ∈ w.occasion x, d.OfSweep := by
  intro d hd
  unfold occasion at hd
  split at hd
  · exact hx.elim
  · rename_i c s a hp
    cases s with
    | listing =>
      rw [Sweep.deeds, List.mem_singleton] at hd
      rw [hd]
      trivial
    | reading e rest =>
      obtain ⟨r, -, rfl⟩ := List.mem_map.mp hd
      trivial
  · rw [List.mem_singleton] at hd
    rw [hd]
    trivial
  · exact hx.elim
  · cases hd

omit [Scalar τ] in
theorem ofSweep_entering {p : Position τ} (hp : p = .absent ∨ p.IsWork .caller) : ∀ d ∈ p.entering, d.OfSweep := by
  intro d hd
  rcases hp with rfl | hp
  · rw [Position.entering, List.mem_singleton] at hd
    rw [hd]
    trivial
  · cases p with
    | querying s a =>
      cases s with
      | listing => exact hp.elim
      | reading e rest => cases hd
    | notifying d' e => cases hd
    | _ => exact hp.elim

/-- What a call waits for leads on in its sweep. -/
theorem Sweeping.react (h : v.Sweeping) (now : τ) (hx : x.IsAnswer) :
    v.position.mood.Run (v.deeds now x) (v.react now x).position.mood ∧ (∀ d ∈ v.deeds now x, d.OfSweep) ∧
      SweepAlike v (v.react now x) ∧ (v.react now x).Sweeping := by
  cases hcarry : v.carryOn now x with
  | none =>
    obtain ⟨hreact, hdeeds⟩ := react_of_carryOn_none hx hcarry
    rw [hreact, hdeeds]
    exact ⟨.nil _, by simp, rfl, h⟩
  | some v' =>
    have hturn := turn_of_carryOn hcarry
    rw [hturn.react_eq, hturn.deeds_eq]
    have hled : ∃ m, v.position.mood.Run (v.occasion x) m ∧ m.Run v'.position.entering v'.position.mood ∧
        v'.position.Sound ∧ SweepAlike v v' ∧ (v'.position = .absent ∨ v'.position.IsWork .caller) := by
      have hafter := h.place.resolve_left hturn.position_ne
      cases hturn with
      | @reply s a c hp =>
        have hsound := h.sound
        rw [hp] at hafter hsound
        obtain rfl : a = .caller := Option.some.inj hafter
        have hfollows := follows_answered now h.backed hsound (c (s.query v.detector))
        obtain ⟨hkept, hplace⟩ := answered_caller now v s (c (s.query v.detector))
        refine ⟨_, ?_, hfollows.mood, hfollows.sound, hkept, hplace⟩
        rw [hp]
        simp only [occasion, hp]
        exact run_answer v.detector v.store s .caller (c (s.query v.detector)) (τ := τ)
      | @called d e o left hp =>
        rw [hp] at hafter
        have he : e.after = .caller := Option.some.inj hafter
        have hfollows := follows_notified now h.backed o left d e
        obtain ⟨hlike, hplace⟩ := (engaged_notified now o left d (e := e) rfl he (rfl : Alike v v)).of_caller
        refine ⟨_, ?_, hfollows.mood, hfollows.sound, hlike.sweepAlike, hplace⟩
        rw [hp]
        simp only [occasion, hp]
        exact (Mood.Next.told _ _ _ _ _ _).run
      | _ => exact hx.elim
    obtain ⟨m, hbefore, hentering, hsound, hkept, hplace⟩ := hled
    refine ⟨hbefore.append hentering, fun d hd => ?_, hkept, ?_, hsound, hplace.imp_right Position.IsWork.after?_eq⟩
    · exact (List.mem_append.mp hd).elim (ofSweep_occasion hx d) (ofSweep_entering hplace d)
    · have hstrategy : v'.strategy = v.strategy := by
        unfold SweepAlike at hkept
        rw [hkept]
      exact (congrArg Strategy.hasFallback hstrategy).trans h.backed

/-- The same of a run. -/
theorem Sweeping.run (h : v.Sweeping) {xs : List (τ × Stimulus)} (hxs : ∀ x ∈ xs, x.2.IsAnswer) :
    v.position.mood.Run (v.history xs) (v.run xs).position.mood ∧ (∀ d ∈ v.history xs, d.OfSweep) ∧
      SweepAlike v (v.run xs) ∧ (v.run xs).Sweeping := by
  induction xs generalizing v with
  | nil => exact ⟨.nil _, by simp [history], rfl, h⟩
  | cons x xs ih =>
    obtain ⟨hx, hrest⟩ := List.forall_mem_cons.mp hxs
    obtain ⟨hmood, hdeeds, hkept, hnext⟩ := h.react x.1 hx
    obtain ⟨hmood', hdeeds', hkept', hlast⟩ := ih hnext hrest
    refine ⟨hmood.append hmood', fun d hd => ?_, hkept.trans hkept', hlast⟩
    exact (List.mem_append.mp hd).elim (hdeeds d) (hdeeds' d)

omit [Scalar τ] in
theorem Sweeping.returned_of_mood (h : v.Sweeping) (hmood : v.position.mood = .absent) : v.position = .absent := by
  refine h.place.resolve_right fun hafter => ?_
  cases hp : v.position with
  | querying s a =>
    rw [hp] at hmood
    cases s <;> cases hmood
  | notifying d e =>
    rw [hp] at hmood
    cases hmood
  | _ => rw [hp] at hafter hmood; first | cases hafter | cases hmood

/-- A sweep that was asked for from outside is under way, and waits for an answer, or it is whole and the call has
returned. Meanwhile nothing changes but what a sweep changes. -/
theorem run_sweep (hbacked : w.hasFallback = true) {xs : List (τ × Stimulus)} (hxs : ∀ x ∈ xs, x.2.IsAnswer) :
    SweepAlike w ((w.sweep .caller).run xs) ∧
      ((UnderWay ((w.sweep .caller).history xs) ∧ ((w.sweep .caller).run xs).position.after? = some .caller) ∨
        ∃ sweep, (w.sweep .caller).history xs = sweep ++ [.ended] ∧ Swept [] sweep ∧
          ((w.sweep .caller).run xs).position = .absent) := by
  have hsweeping : (w.sweep .caller).Sweeping := ⟨hbacked, trivial, Or.inr rfl⟩
  obtain ⟨hmood, hdeeds, hkept, hlast⟩ := hsweeping.run hxs
  refine ⟨(sweepAlike_goto _ w).trans hkept, ?_⟩
  have hwaits (hm : ((w.sweep .caller).run xs).position.mood ≠ .absent) :
      ((w.sweep .caller).run xs).position.after? = some .caller := by
    refine hlast.place.resolve_left fun hp => hm ?_
    rw [hp]
    rfl
  rcases hmood.of_asking with ⟨hnone, hm⟩ | ⟨left, hswept, hm⟩ | ⟨sweep, d, after, rest, hds, hswept, hwork, hd, hrest⟩
  · exact Or.inl ⟨Or.inl hnone, hwaits (by rw [hm]; simp)⟩
  · exact Or.inl ⟨Or.inr ⟨left, hswept⟩, hwaits (by rw [hm]; simp)⟩
  · -- of what can follow a whole sweep only the return belongs to it
    rw [hds] at hdeeds
    have hofSweep : d.OfSweep := hdeeds d (by simp)
    cases hd with
    | told _ _ _ _ _ _ => cases hwork
    | finish _ =>
      have hbegan : .began ∉ rest := fun hmem => hdeeds .began (by simp [hmem])
      obtain rfl := hrest.nil_of_absent hbegan
      exact Or.inr ⟨sweep, hds, hswept, hlast.returned_of_mood (hrest.eq_nil_of_absent hbegan)⟩
    | _ => exact hofSweep.elim

/-! ## Every frame -/

omit [Scalar τ] in
theorem hasFallback_acknowledge (w : Watcher τ) : w.acknowledge.hasFallback = w.hasFallback :=
  congrArg (Strategy.hasFallback ∘ Basis.strategy) (basis_acknowledge w)

theorem handle_of_acknowledges (w : Watcher τ) (now : τ) {f : TextFrame} (hf : Frame.Acknowledges f)
    (after : After) : w.handle now f after =
      if w.hasFallback then w.acknowledge.sweep after else w.acknowledge.goOn now after := by
  rw [handle, (Frame.read_eq_acknowledged_iff f).mpr hf, ← hasFallback_acknowledge]

theorem handle_of_announces (w : Watcher τ) (now : τ) {f : TextFrame} {e : BookEvent} (hf : Frame.Announces f e)
    (after : After) : w.handle now f after = pursue now [] after [(.booksAdded, [.book e])] w := by
  rw [handle, (Frame.read_eq_created_iff f e).mpr hf]

/-- Any other frame is skipped, perhaps with a notice. -/
theorem handle_of_none (w : Watcher τ) (now : τ) {f : TextFrame} (hcloses : ¬ Frame.Closes f)
    (hacknowledges : ¬ Frame.Acknowledges f) (hannounces : ∀ e, ¬ Frame.Announces f e) (after : After) :
    ∃ v, (v = w ∨ ∃ n, v = w.say n) ∧ w.handle now f after = v.goOn now after := by
  rw [← Frame.ends_read_iff] at hcloses
  unfold handle
  cases hread : Frame.read f with
  | acknowledged => exact absurd ((Frame.read_eq_acknowledged_iff f).mp hread) hacknowledges
  | created e => exact absurd ((Frame.read_eq_created_iff f e).mp hread) (hannounces e)
  | complained payload => exact ⟨_, Or.inr ⟨_, rfl⟩, rfl⟩
  | unreadable => exact ⟨_, Or.inr ⟨_, rfl⟩, rfl⟩
  | silent => exact ⟨w, Or.inl rfl, rfl⟩
  | completed => exact absurd (by rw [hread]; rfl) hcloses
  | rejected payload => exact absurd (by rw [hread]; rfl) hcloses

/-- The delivery of an announcement, as its calls end one after the other. -/
theorem run_announced (w : Watcher τ) (now : τ) {f : TextFrame} {e : BookEvent} (hf : Frame.Announces f e)
    (es : Endings τ) :
    let v := w.handle now f .caller
    callsIn (v.history es.stimuli) = callsInTurn .booksAdded 0 [.book e] (es.lefts.take w.listeners.length) ∧
      Alike w (v.run es.stimuli) ∧ (v.run es.stimuli).lastEventAt = some now ∧
      (v.run es.stimuli).position =
        if es.length < w.listeners.length then delivering .booksAdded (es.lefts.getLastD [.book e]) es.length
        else .absent := by
  intro v
  let told : Watcher τ := { w with lastEventAt := some now }
  have hhandle : v = if w.listeners.isEmpty then told.goOn now .caller
      else told.goto (delivering .booksAdded [.book e] 0) := handle_of_announces w now hf .caller
  rcases hnobody : w.listeners with _ | ⟨name, names⟩
  · rw [hnobody, List.isEmpty_nil, if_pos rfl, goOn_caller] at hhandle
    have hreturned : v.position = .absent := by rw [hhandle]; rfl
    obtain ⟨hrun, hhistory⟩ := run_of_returned hreturned es.isAnswer_stimuli
    rw [hrun, hhistory, hhandle]
    exact ⟨rfl, rfl, rfl, rfl⟩
  · rw [hnobody, List.isEmpty_cons, if_neg Bool.false_ne_true] at hhandle
    have hlike : Alike w v := by rw [hhandle]; rfl
    have hdelivery := run_delivery .booksAdded es hlike (by rw [hhandle]; rfl) (by rw [hnobody]; simp)
    rw [Nat.sub_zero, Nat.zero_add, hnobody] at hdelivery
    obtain ⟨hcalls, hlike', htime, hposition⟩ := hdelivery
    exact ⟨hcalls, hlike', htime.trans (by rw [hhandle]; rfl), hposition⟩

/-- **Every frame is handled, and exactly.** Whatever a frame says, whatever state the watcher is in and however the
listeners behave:

* the result is false (`Frame.ends`) just if the frame is an envelope of type `complete` or `connection_error`, and
  nothing but a notice comes of it then;
* one of type `connection_ack` sets the status, starts the backoff over and closes the breaker, which is all without
  sweeps. With them it makes one sweep, which leaves these as they are, and returns when the sweep is whole;
* one of type `data` with a complete `CreatedMedia` event makes one delivery of that event alone: each listener is called
  once and in order with the batch, which they share, and the call returns after the last one, however they end. All but
  the time of the last event is as before;
* any other frame is skipped, perhaps with a notice: one that is no JSON or no envelope, that has a part of the wrong kind
  at any level, or that nests deeper than there is room for. -/
theorem handle_exact (w : Watcher τ) (now : τ) (f : TextFrame) :
    ((Frame.read f).ends = true ↔ Frame.Closes f) ∧
    (Frame.Closes f → ∀ after, ∃ n, w.handle now f after = w.say n) ∧
    (Frame.Acknowledges f →
      w.acknowledge = { w with
        life := { w.life with status := .connected }
        backoff := w.backoff.reset
        breaker := w.breaker.reset
        journal := w.acknowledge.journal } ∧
      (w.hasFallback = false → ∀ after, w.handle now f after = w.acknowledge.goOn now after) ∧
      (w.hasFallback = true → (∀ after, w.handle now f after = w.acknowledge.sweep after) ∧
        ∀ xs : List (τ × Stimulus), (∀ x ∈ xs, x.2.IsAnswer) →
          let v := w.handle now f .caller
          SweepAlike w.acknowledge (v.run xs) ∧
          ((UnderWay (v.history xs) ∧ (v.run xs).position.after? = some .caller) ∨
            ∃ sweep, v.history xs = sweep ++ [.ended] ∧ Swept [] sweep ∧ (v.run xs).position = .absent))) ∧
    (∀ e, Frame.Announces f e →
      (∀ after, w.handle now f after = pursue now [] after [(.booksAdded, [.book e])] w) ∧
      ∀ es : Endings τ,
        let v := w.handle now f .caller
        callsIn (v.history es.stimuli) = callsInTurn .booksAdded 0 [.book e] (es.lefts.take w.listeners.length) ∧
        Alike w (v.run es.stimuli) ∧ (v.run es.stimuli).lastEventAt = some now ∧
        (v.run es.stimuli).position =
          if es.length < w.listeners.length then delivering .booksAdded (es.lefts.getLastD [.book e]) es.length
          else .absent) ∧
    (¬ Frame.Closes f → ¬ Frame.Acknowledges f → (∀ e, ¬ Frame.Announces f e) →
      ∀ after, ∃ v, (v = w ∨ ∃ n, v = w.say n) ∧ w.handle now f after = v.goOn now after) := by
  refine ⟨Frame.ends_read_iff f, fun hcloses after => ?_,
    fun hacknowledges => ⟨acknowledge_eq w, fun halone after => ?_, fun hbacked => ?_⟩,
    fun e hannounces => ⟨handle_of_announces w now hannounces, run_announced w now hannounces⟩, handle_of_none w now⟩
  · exact (handle_of_ends now ((Frame.ends_read_iff f).mpr hcloses) after).2
  · rw [handle_of_acknowledges w now hacknowledges, if_neg (by simp [halone])]
  · have hhandle (after : After) : w.handle now f after = w.acknowledge.sweep after := by
      rw [handle_of_acknowledges w now hacknowledges, if_pos hbacked]
    refine ⟨hhandle, fun xs hxs => ?_⟩
    rw [hhandle]
    exact run_sweep ((hasFallback_acknowledge w).trans hbacked) hxs

/-- A frame that acknowledges the connection. -/
def confirmation : TextFrame := ⟨"\x7b\"type\": \"connection_ack\"\x7d", 900⟩

/-- A frame that would end the subscription, if there were room for it. -/
def cramped : TextFrame := ⟨Feed.completion.text, 0⟩

/-- A watcher with two listeners and sweeps beside its subscription. -/
def flanked : Watcher Rat :=
  .fresh (.push "ws://stump.local/api/graphql" true 60 30) ⟨500, true⟩ ["shelf", "index"] none
    (Backoff.fresh 1 8 2 0 none []) (Breaker.fresh "test" 5 60)

/-- A frame of each kind. The server does not list its libraries, and the first listener empties the batch. -/
theorem handle_exact_of_each_kind :
    (Frame.Closes Feed.completion ∧ ∃ n, flanked.handle 0 Feed.completion .caller = flanked.say n) ∧
    (Frame.Acknowledges confirmation ∧ flanked.hasFallback = true ∧ Stimulus.IsAnswer (.reply fun _ => .error "down") ∧
      SweepAlike flanked.acknowledge ((flanked.handle 0 confirmation .caller).run [(1, .reply fun _ => .error "down")]) ∧
      (flanked.handle 0 confirmation .caller).history [(1, .reply fun _ => .error "down")] =
        [.listed (.error "down"), .ended]) ∧
    (Frame.Announces Feed.announcement ⟨"L", "s", "m"⟩ ∧
      callsIn ((flanked.handle 0 Feed.announcement .caller).history
        (Endings.stimuli [(1, .failed, []), (2, .returned, [])])) =
        [⟨0, .booksAdded, [.book ⟨"L", "s", "m"⟩], []⟩, ⟨1, .booksAdded, [], []⟩]) ∧
    (¬ Frame.Closes cramped ∧ ¬ Frame.Acknowledges cramped ∧ (∀ e, ¬ Frame.Announces cramped e) ∧
      ∃ v, (v = flanked ∨ ∃ n, v = flanked.say n) ∧ flanked.handle 0 cramped .caller = v.goOn 0 .caller) := by
  have hcloses : Frame.Closes Feed.completion := (Frame.ends_read_iff _).mp (by decide +kernel)
  have hacknowledges : Frame.Acknowledges confirmation :=
    (Frame.read_eq_acknowledged_iff _).mp (Frame.eq_acknowledged_of_acknowledges (by decide +kernel))
  have hannounces : Frame.Announces Feed.announcement ⟨"L", "s", "m"⟩ :=
    (Frame.read_eq_created_iff _ _).mp ((Frame.created?_eq_some_iff _ _).mp (by decide +kernel))
  obtain ⟨hends, hack, hcreated⟩ : (Frame.read cramped).ends = false ∧ (Frame.read cramped).acknowledges = false ∧
      (Frame.read cramped).created? = none := by
    decide +kernel
  have hopen : ¬ Frame.Closes cramped := by
    rw [← Frame.ends_read_iff, hends]
    exact Bool.false_ne_true
  have hunknown : ¬ Frame.Acknowledges cramped := by
    intro h
    rw [(Frame.read_eq_acknowledged_iff _).mpr h] at hack
    cases hack
  have hsilent (e : BookEvent) : ¬ Frame.Announces cramped e := by
    intro h
    rw [(Frame.read_eq_created_iff _ _).mpr h] at hcreated
    cases hcreated
  have hbacked : flanked.hasFallback = true := rfl
  have hanswers : ∀ x ∈ [((1 : Rat), Stimulus.reply fun _ => .error "down")], x.2.IsAnswer := by simp [Stimulus.IsAnswer]
  obtain ⟨hsweep, hrun⟩ := ((handle_exact flanked 0 confirmation).2.2.1 hacknowledges).2.2 hbacked
  refine ⟨⟨hcloses, (handle_exact flanked 0 _).2.1 hcloses .caller⟩,
    ⟨hacknowledges, hbacked, trivial, (hrun _ hanswers).1, ?_⟩, ⟨hannounces, ?_⟩, hopen, hunknown, hsilent,
    (handle_exact flanked 0 _).2.2.2.2 hopen hunknown hsilent .caller⟩
  · rw [hsweep]
    rfl
  · exact (((handle_exact flanked 0 _).2.2.2.1 _ hannounces).2 [(1, .failed, []), (2, .returned, [])]).1.trans rfl

end Watcher

end MediaWatch
