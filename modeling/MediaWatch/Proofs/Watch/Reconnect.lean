import MediaWatch.Proofs.Policy.Outage
import MediaWatch.Proofs.Watch.Session

/-!
# Reconnecting

A watcher that follows a subscription without sweeps counts the ends of its sessions twice: its breaker counts
failures, and its backoff counts the delays before the next attempt. A `Watcher.Tally` counts them from the outside,
since the connection was last acknowledged. The invariant `Standing.Online` says that the three stay in step, whatever
happens, until the attempts are used up and the watcher gives up (`Standing.Online.next`); so what a run amounts to at
the end of each session can be read off its tally (`Watcher.reconnects_up_to_ceiling`).
-/

namespace MediaWatch

/-! ## Delays and failures -/

def Deed.isConnecting : Deed → Bool
  | .connecting => true
  | _ => false

namespace Backoff

variable {τ : Type} [Scalar τ]

/-- The backoff after so many more delays. -/
def after (b : Backoff τ) : Nat → Backoff τ
  | 0 => b
  | k + 1 => (b.after k).next.2

@[simp] theorem attempt_after (b : Backoff τ) (k : Nat) : (b.after k).attempt = b.attempt + k := by
  induction k with
  | zero => rfl
  | succ k ih => exact congrArg (· + 1) ih

@[simp] theorem maxAttempts_after (b : Backoff τ) (k : Nat) : (b.after k).maxAttempts = b.maxAttempts := by
  induction k with
  | zero => rfl
  | succ k ih => exact ih

end Backoff

namespace Breaker

variable {τ : Type} [Scalar τ]

/-- A breaker with the given bounds that has counted so many failures. -/
structure HasCounted (bounds : String × Int × τ) (n : Nat) (b : Breaker τ) : Prop where
  bounds : b.bounds = bounds
  reflects : ∃ failures clock, b.Reflects failures clock ∧ failures.length = n

variable {bounds : String × Int × τ} {n : Nat} {b : Breaker τ} {name : String} {threshold : Int} {cooldown : τ}

theorem HasCounted.failures_eq (h : b.HasCounted bounds n) : b.failures = n := by
  obtain ⟨failures, clock, hreflects, rfl⟩ := h.reflects
  exact hreflects.count

theorem hasCounted_fresh : (fresh name threshold cooldown).HasCounted (name, threshold, cooldown) 0 :=
  ⟨rfl, [], [], reflects_fresh name threshold cooldown, rfl⟩

theorem HasCounted.succeed (h : b.HasCounted bounds n) : b.succeed.1.HasCounted bounds 0 :=
  ⟨h.bounds, [], [], reflects_closed rfl rfl rfl, rfl⟩

theorem HasCounted.fail (h : b.HasCounted bounds n) (now : τ) : (b.fail now).1.HasCounted bounds (n + 1) := by
  obtain ⟨failures, clock, hreflects, rfl⟩ := h.reflects
  exact ⟨(bounds_fail b now).trans h.bounds, _, _, hreflects.fail now, List.length_append⟩

theorem HasCounted.read (h : b.HasCounted bounds n) (now : τ) : (b.read now).1.HasCounted bounds n := by
  obtain ⟨failures, clock, hreflects, rfl⟩ := h.reflects
  exact ⟨(bounds_read b now).trans h.bounds, _, _, hreflects.read now, rfl⟩

/-- A breaker is open right after a failure if that failure has reached the threshold. -/
theorem HasCounted.isOpen_read_fail [Scalar.Lawful τ] (h : b.HasCounted (name, threshold, cooldown) n)
    (hcooldown : Scalar.ofInt 0 < cooldown) (now : τ) :
    ((b.fail now).1.read now).1.isOpen = decide (threshold ≤ (n : Int) + 1) := by
  obtain ⟨hbounds, failures, clock, hreflects, rfl⟩ := h
  obtain ⟨-, rfl, rfl⟩ : b.name = name ∧ b.threshold = threshold ∧ b.cooldown = cooldown := by
    simpa only [Breaker.bounds, Prod.mk.injEq] using hbounds
  have hread : ((b.fail now).1.read now).1 = (b.fail now).1 := by
    rcases (b.fail now).1.read_eq now with ⟨-, hr⟩ | ⟨-, ⟨f, hlast, hcooled⟩, -⟩
    · exact hr
    · -- no time has passed since the failure
      rw [fail_eq] at hlast hcooled
      cases hlast
      rw [Scalar.Lawful.sub_self] at hcooled
      exact absurd hcooled (Scalar.Lawful.lt_iff_not_le.mp hcooldown)
  rw [hread, fail_eq, isOpen]
  by_cases hlt : (failures.length : Int) + 1 < b.threshold
  · have hphase : b.phase = .closed := hreflects.closed.mpr (Or.inr (by omega))
    simp [hphase, hreflects.count, hlt, Int.not_le.mpr hlt]
  · simp [hreflects.count, hlt, Int.not_lt.mp hlt]

end Breaker

namespace Watcher

variable {τ : Type} [Scalar τ] {now : τ} {w : Watcher τ}

/-! ## Accounts -/

/-- What has happened since the last acknowledgement, or since the start. -/
structure Tally (τ : Type) where
  /-- The sessions that have ended. -/
  ends : Nat
  /-- The attempts to connect. -/
  connects : Nat
  /-- The backoff as it was then. -/
  origin : Backoff τ

/-- The tally after a stimulus. -/
def Tally.next (now : τ) (x : Stimulus) (w : Watcher τ) (c : Tally τ) : Tally τ :=
  if w.acknowledges x then ⟨0, 0, (w.react now x).backoff⟩
  else
    { c with
      ends := c.ends + if w.endsSession x then 1 else 0
      connects := c.connects + (w.deeds now x).countP Deed.isConnecting }

/-- The tally of a run that begins with the given one. -/
def tally (w : Watcher τ) (c : Tally τ) : List (τ × Stimulus) → Tally τ
  | [] => c
  | (now, x) :: xs => tally (w.react now x) (c.next now x w) xs

omit [Scalar τ] in
theorem connecting_occasion (x : Stimulus) (w : Watcher τ) : (w.occasion x).countP Deed.isConnecting = 0 := by
  unfold occasion
  split
  · rfl
  · rename_i c s after hp
    cases s with
    | listing => rfl
    | reading e rest =>
      refine List.countP_eq_zero.mpr fun d hd => ?_
      obtain ⟨r, -, rfl⟩ := List.mem_map.mp hd
      exact Bool.false_ne_true
  · rfl
  · rfl
  · rfl

/-- A task connects when it comes to that position, and only then. -/
theorem connecting_deeds_le (now : τ) (x : Stimulus) (w : Watcher τ) :
    (w.deeds now x).countP Deed.isConnecting ≤ (w.react now x).position.entering.countP Deed.isConnecting := by
  rcases react_cases now x w with ⟨hnone, -⟩ | ⟨-, hdeeds⟩
  · rw [hnone]
    exact Nat.zero_le _
  · rw [hdeeds, List.countP_append, connecting_occasion, Nat.zero_add]

theorem connecting_deeds_eq_zero {p : Position τ} {x : Stimulus} (hreact : (w.react now x).position = p)
    (hp : p.entering.countP Deed.isConnecting = 0) : (w.deeds now x).countP Deed.isConnecting = 0 := by
  have hle := connecting_deeds_le now x w
  rw [hreact, hp] at hle
  exact Nat.le_zero.mp hle

omit [Scalar τ] in
theorem not_isBetween {p : Position τ} (hp : p.inSession) : ¬ p.isBetween := by
  cases p with
  | created => exact hp.elim
  | napping seconds => exact hp.elim
  | _ => exact id

omit [Scalar τ] in
theorem connecting_entering_of_inSession {p : Position τ} (hp : p.inSession) :
    p.entering.countP Deed.isConnecting = 0 := by
  cases p with
  | sending frame => rfl
  | receiving => rfl
  | notifying d e => rfl
  | _ => cases hp

/-- The account of a watcher that is online. The breaker has counted the sessions that have ended, the backoff has
counted the delays between them, and there are no more of them than attempts. -/
structure Standing.Online (ceiling : Option Int) (bounds : String × Int × τ) (s : Standing τ) (c : Tally τ) :
    Prop where
  strategy : ∃ url interval patience, s.strategy = .push url false interval patience
  active : s.active = true
  place : s.position.isBetween ∨ s.position = .connecting ∨ s.position.inSession
  connects : c.connects ≤ c.ends + 1
  between : s.position.isBetween → c.connects ≤ c.ends
  breaker : s.breaker.HasCounted bounds c.ends
  backoff : s.backoff = c.origin.after c.ends
  origin : c.origin.attempt = 0
  maxAttempts : c.origin.maxAttempts = ceiling
  allowed : ∀ m, ceiling = some m → (c.ends : Int) ≤ m

/-- The account of a watcher that has given up. -/
structure Standing.GivenUp (ceiling : Option Int) (s : Standing τ) (c : Tally τ) : Prop where
  inactive : s.active = false
  failed : s.status = .failed
  absent : s.position = .absent
  used : ∃ m, ceiling = some m ∧ (c.ends : Int) = m + 1
  connects : c.connects ≤ c.ends

variable {ceiling : Option Int} {name : String} {threshold : Int} {cooldown : τ} {c : Tally τ} {s : Standing τ}

/-- The attempts are used up when as many sessions have ended as there may be delays. -/
theorem Standing.Online.exhausted_iff {bounds : String × Int × τ} (h : s.Online ceiling bounds c) :
    s.backoff.exhausted = true ↔ ceiling = some (c.ends : Int) := by
  rw [Backoff.exhausted_iff, h.backoff, Backoff.maxAttempts_after, Backoff.attempt_after, h.maxAttempts, h.origin,
    Nat.zero_add]
  constructor
  · rintro ⟨m, hm, hle⟩
    rw [hm, Int.le_antisymm hle (h.allowed m hm)]
  · exact fun hm => ⟨c.ends, hm, Int.le_refl _⟩

/-- There are attempts left unless as many sessions have ended as there may be delays. -/
theorem Standing.Online.more_of_ne {bounds : String × Int × τ} (h : s.Online ceiling bounds c)
    (hne : ceiling ≠ some (c.ends : Int)) : ∀ m, ceiling = some m → (c.ends : Int) + 1 ≤ m := by
  intro m hm
  have hle := h.allowed m hm
  have hends : (c.ends : Int) ≠ m := fun heq => hne (heq ▸ hm)
  omega

/-- The end of the last session. -/
theorem Standing.Online.sessionEnded_of_eq {bounds : String × Int × τ} (h : s.Online ceiling bounds c)
    (hlast : ceiling = some (c.ends : Int)) (now : τ) :
    ∃ breaker : Breaker τ, breaker.HasCounted bounds (c.ends + 1) ∧ s.sessionEnded now =
      { s with
        active := false
        status := .failed
        breaker := breaker
        position := .absent } :=
  ⟨_, h.breaker.fail now, if_pos (h.exhausted_iff.mpr hlast)⟩

variable [Scalar.Lawful τ]

/-- The end of a session that is not the last one. -/
theorem Standing.Online.sessionEnded_of_lt (h : s.Online ceiling (name, threshold, cooldown) c)
    (hcooldown : Scalar.ofInt 0 < cooldown) (hmore : ∀ m, ceiling = some m → (c.ends : Int) + 1 ≤ m) (now : τ) :
    ∃ breaker : Breaker τ, breaker.HasCounted (name, threshold, cooldown) (c.ends + 1) ∧ s.sessionEnded now =
      { s with
        wakeup := false
        status := if threshold ≤ (c.ends : Int) + 1 then .degraded else .reconnecting
        backoff := c.origin.after (c.ends + 1)
        breaker := breaker
        position := .napping (c.origin.after c.ends).next.1 } := by
  have hnot : ¬ s.backoff.exhausted = true := by
    rw [h.exhausted_iff]
    intro hm
    have hle := hmore _ hm
    omega
  refine ⟨_, (h.breaker.fail now).read now, ?_⟩
  rw [sessionEnded, if_neg hnot, h.breaker.isOpen_read_fail hcooldown now, h.backoff]
  simp only [decide_eq_true_eq]
  rfl

/-- The end of a session keeps the account, or the watcher gives up. -/
theorem Standing.Online.next_of_ended (h : w.standing.Online ceiling (name, threshold, cooldown) c)
    (hcooldown : Scalar.ofInt 0 < cooldown) {x : Stimulus} (hends : w.endsSession x = true)
    (hack : w.acknowledges x = false) (hreact : (w.react now x).standing = w.standing.sessionEnded now) :
    (w.react now x).standing.Online ceiling (name, threshold, cooldown) (c.next now x w) ∨
      (w.react now x).standing.GivenUp ceiling (c.next now x w) := by
  by_cases hlast : ceiling = some (c.ends : Int)
  · obtain ⟨breaker, -, hended⟩ := h.sessionEnded_of_eq hlast now
    rw [hended] at hreact
    have hnone := connecting_deeds_eq_zero (congrArg Standing.position hreact) rfl
    have hc : c.next now x w = { c with ends := c.ends + 1 } := by simp [Tally.next, hack, hends, hnone]
    rw [hreact, hc]
    exact Or.inr ⟨rfl, rfl, rfl, ⟨c.ends, hlast, rfl⟩, h.connects⟩
  · have hmore := h.more_of_ne hlast
    obtain ⟨breaker, hbreaker, hended⟩ := h.sessionEnded_of_lt hcooldown hmore now
    rw [hended] at hreact
    have hnone := connecting_deeds_eq_zero (congrArg Standing.position hreact) rfl
    have hc : c.next now x w = { c with ends := c.ends + 1 } := by simp [Tally.next, hack, hends, hnone]
    rw [hreact, hc]
    exact Or.inl { h with
      place := Or.inl trivial
      connects := Nat.le_succ_of_le h.connects
      between := fun _ => h.connects
      breaker := hbreaker
      backoff := rfl
      allowed := hmore }

/-- A watcher that is online keeps its account, until it gives up. -/
theorem Standing.Online.next (h : w.standing.Online ceiling (name, threshold, cooldown) c)
    (hcooldown : Scalar.ofInt 0 < cooldown) (now : τ) {x : Stimulus} (hx : x.isControl = false) :
    (w.react now x).standing.Online ceiling (name, threshold, cooldown) (c.next now x w) ∨
      (w.react now x).standing.GivenUp ceiling (c.next now x w) := by
  obtain ⟨url, interval, patience, hs⟩ := h.strategy
  cases online_step now x hs h.active h.place hx with
  | quiet hends hack hdeeds hreact =>
    have hc : c.next now x w = c := by simp [Tally.next, hack, hends, hdeeds]
    rw [hc]
    rcases hreact with hreact | hreact
    · rw [hreact]
      exact Or.inl h
    · rw [hreact]
      exact Or.inl { h with breaker := h.breaker.read now }
  | connects hends hack hplace hreact =>
    have hc : c.next now x w = { c with connects := c.connects + (w.deeds now x).countP Deed.isConnecting } := by
      simp [Tally.next, hack, hends]
    have hone := connecting_deeds_le now x w
    rw [show (w.react now x).position = .connecting from congrArg Standing.position hreact] at hone
    rw [hreact, hc]
    exact Or.inl { h with
      place := Or.inr (Or.inl rfl)
      connects := Nat.add_le_add (h.between hplace) hone
      between := False.elim }
  | @within p hends hack hplace hp hreact =>
    have hnone := connecting_deeds_eq_zero (congrArg Standing.position hreact) (connecting_entering_of_inSession hp)
    have hc : c.next now x w = c := by simp [Tally.next, hack, hends, hnone]
    rw [hreact, hc]
    exact Or.inl { h with
      place := Or.inr (Or.inr hp)
      between := fun hbetween => absurd hbetween (not_isBetween hp) }
  | acknowledged hends hack hplace hreact =>
    have hreset : (w.react now x).backoff = w.backoff.reset := congrArg Standing.backoff hreact
    have hc : c.next now x w = ⟨0, 0, w.backoff.reset⟩ := by rw [Tally.next, if_pos hack, hreset]
    have hmax : w.backoff.maxAttempts = ceiling := by
      rw [← h.maxAttempts, ← Backoff.maxAttempts_after c.origin c.ends]
      exact congrArg Backoff.maxAttempts h.backoff
    rw [hreact, hc]
    exact Or.inl { h with
      place := Or.inr (Or.inr trivial)
      connects := Nat.zero_le _
      between := False.elim
      breaker := h.breaker.succeed
      backoff := rfl
      origin := rfl
      maxAttempts := hmax
      allowed := fun m hm => (Int.natCast_nonneg c.ends).trans (h.allowed m hm) }
  | ended hends hack _ hreact => exact h.next_of_ended hcooldown hends hack hreact

omit [Scalar.Lawful τ] in
/-- A watcher that has given up stays so. -/
theorem Standing.GivenUp.next (h : w.standing.GivenUp ceiling c) (now : τ) {x : Stimulus} (hx : x.isControl = false) :
    (w.react now x).standing.GivenUp ceiling (c.next now x w) := by
  have hnone : w.carryOn now x = none := by
    have hp : w.position = .absent := h.absent
    cases x <;> simp [carryOn, hp]
  obtain ⟨hends, hack, hdeeds, hreact⟩ := quiet_of_carryOn_none hnone hx
  have hc : c.next now x w = c := by simp [Tally.next, hack, hends, hdeeds]
  rw [hc]
  rcases hreact with hreact | hreact
  · rw [hreact]
    exact h
  · rw [hreact]
    exact { h with }

/-- Every run keeps an account. -/
theorem account_run (hcooldown : Scalar.ofInt 0 < cooldown) {xs : List (τ × Stimulus)}
    (hxs : ∀ x ∈ xs, x.2.isControl = false)
    (h : w.standing.Online ceiling (name, threshold, cooldown) c ∨ w.standing.GivenUp ceiling c) :
    (w.run xs).standing.Online ceiling (name, threshold, cooldown) (w.tally c xs) ∨
      (w.run xs).standing.GivenUp ceiling (w.tally c xs) := by
  induction xs generalizing w c with
  | nil => exact h
  | cons x xs ih =>
    obtain ⟨now, x⟩ := x
    obtain ⟨hx, hxs⟩ := List.forall_mem_cons.mp hxs
    rcases h with h | h
    · exact ih hxs (h.next hcooldown now hx)
    · exact ih hxs (Or.inr (h.next now hx))

/-! ## Reconnecting -/

/-- A watcher that has just been started on a subscription without sweeps. -/
def subscribed (url : String) (interval patience : τ) (detector : Detector) (listeners : List String)
    (timeout : Option τ) (backoff : Backoff τ) (breaker : Breaker τ) : Watcher τ :=
  (fresh (.push url false interval patience) detector listeners timeout backoff breaker).start

omit [Scalar.Lawful τ] in
/-- The end of a session of a watcher that is online. -/
theorem Standing.Online.react_of_endsSession {bounds : String × Int × τ} (h : w.standing.Online ceiling bounds c)
    {x : Stimulus} (hends : w.endsSession x = true) (now : τ) :
    (w.react now x).standing = w.standing.sessionEnded now := by
  obtain ⟨url, interval, patience, hs⟩ := h.strategy
  have hx : x.isControl = false := by
    cases x with
    | start => cases hends
    | stop => cases hends
    | woken => cases hends
    | _ => rfl
  cases online_step now x hs h.active h.place hx with
  | ended _ _ _ hreact => exact hreact
  | quiet hnot => rw [hends] at hnot; cases hnot
  | connects hnot => rw [hends] at hnot; cases hnot
  | within hnot => rw [hends] at hnot; cases hnot
  | acknowledged hnot => rw [hends] at hnot; cases hnot

/-- A watcher that has attempts left waits, does nothing until the wait is over, and connects. -/
theorem Standing.Online.waits (h : w.standing.Online ceiling (name, threshold, cooldown) c)
    (hcooldown : Scalar.ofInt 0 < cooldown) {x : Stimulus} (hends : w.endsSession x = true)
    (hmore : ∀ m, ceiling = some m → (c.ends : Int) + 1 ≤ m) :
    let w' := w.react now x
    w'.breaker.failures = c.ends + 1 ∧ w'.life.active = true ∧ w'.backoff.attempt = c.ends + 1 ∧
      w'.position = .napping (c.origin.after c.ends).next.1 ∧ w'.life.wakeup = false ∧
      w'.life.status = (if threshold ≤ (c.ends : Int) + 1 then .degraded else .reconnecting) ∧
      ∀ ys, (∀ y ∈ ys, y.2.isControl = false ∧ y.2 ≠ .rested) →
        let v := w'.run ys
        w'.history ys = [] ∧ v.position = w'.position ∧ v.life.status = w'.life.status ∧ v.life.active = true ∧
          v.life.wakeup = false ∧ ∀ later, v.deeds later .rested = [.connecting] := by
  intro w'
  obtain ⟨url, interval, patience, hs⟩ := h.strategy
  obtain ⟨breaker, hbreaker, hended⟩ := h.sessionEnded_of_lt hcooldown hmore now
  have hreact := (h.react_of_endsSession hends now).trans hended
  have hfailures := hbreaker.failures_eq
  rw [← show w'.breaker = breaker from congrArg Standing.breaker hreact] at hfailures
  have hactive : w'.life.active = true := (congrArg Standing.active hreact).trans h.active
  have hattempt : w'.backoff.attempt = c.ends + 1 := by
    rw [show w'.backoff = c.origin.after (c.ends + 1) from congrArg Standing.backoff hreact, Backoff.attempt_after,
      h.origin, Nat.zero_add]
  have hposition : w'.position = .napping (c.origin.after c.ends).next.1 := congrArg Standing.position hreact
  have hwakeup : w'.life.wakeup = false := congrArg Standing.wakeup hreact
  have hstrategy : w'.strategy = .push url false interval patience := (congrArg Standing.strategy hreact).trans hs
  refine ⟨hfailures, hactive, hattempt, hposition, hwakeup, congrArg Standing.status hreact, fun ys hys => ?_⟩
  have hdeaf : ∀ y ∈ ys, ∀ v : Watcher τ, v.position = w'.position → v.carryOn y.1 y.2 = none := by
    intro y hy v hv
    rw [hposition] at hv
    have hne := (hys y hy).2
    cases hx : y.2 <;> simp_all [carryOn]
  obtain ⟨hhistory, breaker', hrun⟩ := run_of_carryOn_none hdeaf (fun y hy => (hys y hy).1) rfl
  have hstill : (w'.run ys).position = w'.position := congrArg Standing.position hrun
  have hgoing : (w'.run ys).life.active = true := (congrArg Standing.active hrun).trans hactive
  have hsame : (w'.run ys).strategy = .push url false interval patience :=
    (congrArg Standing.strategy hrun).trans hstrategy
  refine ⟨hhistory, hstill, congrArg Standing.status hrun, hgoing, (congrArg Standing.wakeup hrun).trans hwakeup,
    fun later => ?_⟩
  rw [hposition] at hstill
  have hconnects : ((w'.run ys).rested later).position = .connecting :=
    congrArg Standing.position (standing_loop hsame hgoing)
  simp [deeds, carryOn, occasion, hstill, hconnects, Position.entering]

omit [Scalar.Lawful τ] in
/-- A watcher without attempts left gives up for good. -/
theorem Standing.Online.givesUp {bounds : String × Int × τ} (h : w.standing.Online ceiling bounds c) {x : Stimulus}
    (hends : w.endsSession x = true) (hlast : ceiling = some (c.ends : Int)) :
    let w' := w.react now x
    w'.breaker.failures = c.ends + 1 ∧ w'.life.active = false ∧ w'.life.status = .failed ∧ w'.position = .absent ∧
      ∀ ys, (∀ y ∈ ys, y.2.isControl = false) →
        let v := w'.run ys
        w'.history ys = [] ∧ v.life.active = false ∧ v.life.status = .failed ∧ v.position = .absent := by
  intro w'
  obtain ⟨breaker, hbreaker, hended⟩ := h.sessionEnded_of_eq hlast now
  have hreact := (h.react_of_endsSession hends now).trans hended
  have hfailures := hbreaker.failures_eq
  rw [← show w'.breaker = breaker from congrArg Standing.breaker hreact] at hfailures
  have hactive : w'.life.active = false := congrArg Standing.active hreact
  have hstatus : w'.life.status = .failed := congrArg Standing.status hreact
  have hposition : w'.position = .absent := congrArg Standing.position hreact
  refine ⟨hfailures, hactive, hstatus, hposition, fun ys hys => ?_⟩
  have hdeaf : ∀ y ∈ ys, ∀ v : Watcher τ, v.position = w'.position → v.carryOn y.1 y.2 = none := by
    intro y _ v hv
    rw [hposition] at hv
    cases hx : y.2 <;> simp [carryOn, hv]
  obtain ⟨hhistory, breaker', hrun⟩ := run_of_carryOn_none hdeaf hys rfl
  exact ⟨hhistory, (congrArg Standing.active hrun).trans hactive, (congrArg Standing.status hrun).trans hstatus,
    (congrArg Standing.position hrun).trans hposition⟩

/-- **A subscription without sweeps reconnects until its attempts are used up.** Whatever happens to a watcher that
nobody stops, let `i` be the number of sessions that have ended since the connection was last acknowledged, or since
the start, at the end of one. The breaker has counted `i` failures.

* While `i` is within the ceiling, the session of the watcher goes on, its backoff has counted `i` attempts, and the
  task waits for the `i`-th delay since the backoff was last reset, as a degraded one from the threshold on. Until the
  wait is over nothing else is done, and then the task connects.
* When `i` is one more than the ceiling, the watcher gives up: it has failed, its session is over, and nothing is done
  any more.

So a watcher does not give up before that many sessions have ended one after the other, and there are never more
sessions or attempts to connect without an acknowledgement. -/
theorem reconnects_up_to_ceiling (url : String) (interval patience : τ) (detector : Detector) (listeners : List String)
    (timeout : Option τ) (initial maximum factor jitter : τ) (ceiling : Option Int) (draws : List τ) (name : String)
    (threshold : Int) (cooldown : τ) (hceiling : ∀ m, ceiling = some m → 0 ≤ m) (hcooldown : Scalar.ofInt 0 < cooldown)
    (xs : List (τ × Stimulus)) (hxs : ∀ x ∈ xs, x.2.isControl = false) :
    let start := subscribed url interval patience detector listeners timeout
      (Backoff.fresh initial maximum factor jitter ceiling draws) (Breaker.fresh name threshold cooldown)
    let w := start.run xs
    let c := start.tally ⟨0, 0, start.backoff⟩ xs
    (∀ m, ceiling = some m → (c.ends : Int) ≤ m + 1 ∧ (c.connects : Int) ≤ m + 1) ∧
    (w.life.active = false → ∃ m, ceiling = some m ∧ (c.ends : Int) = m + 1) ∧
    ∀ now x, w.endsSession x = true →
      let i := c.ends + 1
      let w' := w.react now x
      w'.breaker.failures = i ∧
      ((∀ m, ceiling = some m → (i : Int) ≤ m) →
        w'.life.active = true ∧ w'.backoff.attempt = i ∧ w'.position = .napping (c.origin.after (i - 1)).next.1 ∧
        w'.life.wakeup = false ∧ w'.life.status = (if threshold ≤ (i : Int) then .degraded else .reconnecting) ∧
        ∀ ys, (∀ y ∈ ys, y.2.isControl = false ∧ y.2 ≠ .rested) →
          let v := w'.run ys
          w'.history ys = [] ∧ v.position = w'.position ∧ v.life.status = w'.life.status ∧ v.life.active = true ∧
            v.life.wakeup = false ∧ ∀ later, v.deeds later .rested = [.connecting]) ∧
      (∀ m, ceiling = some m → (i : Int) = m + 1 →
        w'.life.active = false ∧ w'.life.status = .failed ∧ w'.position = .absent ∧
        ∀ ys, (∀ y ∈ ys, y.2.isControl = false) →
          let v := w'.run ys
          w'.history ys = [] ∧ v.life.active = false ∧ v.life.status = .failed ∧ v.position = .absent) := by
  intro start w c
  have hstart : start.standing.Online ceiling (name, threshold, cooldown) ⟨0, 0, start.backoff⟩ :=
    { strategy := ⟨url, interval, patience, rfl⟩
      active := rfl
      place := Or.inl trivial
      connects := Nat.zero_le _
      between := fun _ => Nat.le_refl _
      breaker := Breaker.hasCounted_fresh
      backoff := rfl
      origin := rfl
      maxAttempts := rfl
      allowed := hceiling }
  have haccount := account_run hcooldown hxs (Or.inl hstart)
  refine ⟨fun m hm => ?_, fun hinactive => ?_, fun now x hends => ?_⟩
  · rcases haccount with h | h
    · have hends : (c.ends : Int) ≤ m := h.allowed m hm
      have hconnects : c.connects ≤ c.ends + 1 := h.connects
      omega
    · obtain ⟨m', hm', hends⟩ := h.used
      obtain rfl : m = m' := Option.some.inj (hm.symm.trans hm')
      have hconnects : c.connects ≤ c.ends := h.connects
      have hended : (c.ends : Int) = m + 1 := hends
      omega
  · rcases haccount with h | h
    · have hactive : w.life.active = true := h.active
      rw [hinactive] at hactive
      cases hactive
    · exact h.used
  · have honline : w.standing.Online ceiling (name, threshold, cooldown) c := haccount.resolve_right fun h => by
      have hposition : w.position = .absent := h.absent
      unfold endsSession at hends
      split at hends <;> simp_all
    refine ⟨?_, fun hmore => (honline.waits hcooldown hends hmore).2, fun m hm hlast => ?_⟩
    · by_cases hlast : ceiling = some (c.ends : Int)
      · exact (honline.givesUp hends hlast).1
      · exact (honline.waits hcooldown hends (honline.more_of_ne hlast)).1
    · have hm' : m = c.ends := by
        push_cast at hlast
        omega
      exact (honline.givesUp hends (hm' ▸ hm)).2

/-- Two attempts that are refused. -/
def refusals : List (Rat × Stimulus) :=
  [(0, .begun), (0, .opened (.error (.other "refused"))), (1, .rested)]

/-- A watcher that may reconnect once. -/
def insistent : Watcher Rat :=
  subscribed "ws://stump.local/api/graphql" 60 30 ⟨500, true⟩ [] none (Backoff.fresh 1 8 2 0 (some 1) [])
    (Breaker.fresh "push" 2 10)

/-- It gives up at the second refusal. -/
theorem reconnects_up_to_ceiling_of_refusals :
    (∀ m, some (1 : Int) = some m → 0 ≤ m) ∧ Scalar.ofInt 0 < (10 : Rat) ∧ (∀ x ∈ refusals, x.2.isControl = false) ∧
      (insistent.run refusals).endsSession (.opened (.error (.other "refused"))) = true ∧
      ((insistent.run refusals).react 1 (.opened (.error (.other "refused")))).breaker.failures = 2 ∧
      ((insistent.run refusals).react 1 (.opened (.error (.other "refused")))).life.status = .failed := by
  have hone : ∀ m, some (1 : Int) = some m → 0 ≤ m := by rintro m ⟨⟩; decide
  have hcooldown : Scalar.ofInt 0 < (10 : Rat) := by with_unfolding_all decide
  have hquiet : ∀ x ∈ refusals, x.2.isControl = false := by simp [refusals, Stimulus.isControl]
  have hends : (insistent.run refusals).endsSession (.opened (.error (.other "refused"))) = true := by
    with_unfolding_all rfl
  have hone' : (insistent.tally ⟨0, 0, insistent.backoff⟩ refusals).ends = 1 := by with_unfolding_all rfl
  obtain ⟨-, -, hend⟩ := reconnects_up_to_ceiling "ws://stump.local/api/graphql" (60 : Rat) 30 ⟨500, true⟩ [] none
    1 8 2 0 (some 1) [] "push" 2 10 hone hcooldown refusals hquiet
  obtain ⟨hfailures, -, hlast⟩ := hend 1 (.opened (.error (.other "refused"))) hends
  refine ⟨hone, hcooldown, hquiet, hends, hfailures.trans (congrArg (· + 1) hone'), (hlast 1 rfl ?_).2.1⟩
  show (((insistent.tally ⟨0, 0, insistent.backoff⟩ refusals).ends + 1 : Nat) : Int) = 1 + 1
  rw [hone']
  rfl

end Watcher

end MediaWatch
