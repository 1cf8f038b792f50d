import MediaWatch.Proofs.Watch.Fallback
import MediaWatch.Proofs.Watch.Reconnect

/-!
# A ceiling out of reach

A watcher whose subscription is backed by sweeps gives it up when its attempts are used up. Attempts are counted where a
delay is drawn, and no delay is drawn where an open breaker diverts the task to its sweeps: of the sessions that end in a
row, only those below the threshold count (`Watcher.delaysDrawn`). So the subscription is given up at the end of the
session after the last attempt when the ceiling lies below the threshold, or the breaker never keeps the task waiting
(`Watcher.CeilingInReach`), and never otherwise (`Watcher.push_disabled_iff_ceiling_in_reach`).
-/

namespace MediaWatch

/-- A breaker with a cooldown is open right after a failure that reaches the threshold; without one it never is. -/
theorem Breaker.HasCounted.isOpen_read_fail_iff {τ : Type} [Scalar τ] [Scalar.Lawful τ] {name : String} {threshold : Int}
    {cooldown : τ} {n : Nat} {b : Breaker τ} (h : b.HasCounted (name, threshold, cooldown) n) (now : τ) :
    ((b.fail now).1.read now).1.isOpen = true ↔ Scalar.ofInt 0 < cooldown ∧ threshold ≤ (n : Int) + 1 := by
  by_cases hcooldown : Scalar.ofInt 0 < cooldown
  · rw [h.isOpen_read_fail hcooldown now, decide_eq_true_eq]
    exact ⟨fun hreached => ⟨hcooldown, hreached⟩, And.right⟩
  · refine ⟨fun hopen => absurd ?_ Bool.false_ne_true, fun hno => absurd hno.1 hcooldown⟩
    obtain rfl : b.cooldown = cooldown := congrArg (·.2.2) h.bounds
    have hzero : b.cooldown ≤ now - now := by
      rw [Scalar.Lawful.sub_self]
      exact Decidable.not_not.mp fun hle => hcooldown (Scalar.Lawful.lt_iff_not_le.mpr hle)
    rw [← hopen, fail_eq]
    by_cases hphase : b.phase = .closed ∧ (b.failures : Int) + 1 < b.threshold
    · simp [Breaker.read, Breaker.cooled, Breaker.isOpen, hphase]
    · simp [Breaker.read, Breaker.cooled, Breaker.isOpen, hphase, hzero]

namespace Watcher

variable {τ : Type} [Scalar τ] {now : τ} {w : Watcher τ}

/-! ## Delays and the ceiling -/

/-- The number of delays that are drawn while so many sessions end in a row. -/
def delaysDrawn (threshold : Int) (cooldown : τ) (ends : Nat) : Nat :=
  if Scalar.ofInt 0 < cooldown then min ends (threshold - 1).toNat else ends

/-- Whether a ceiling lies below the threshold of the breaker, or the breaker has no cooldown. -/
def CeilingInReach (threshold : Int) (cooldown : τ) (ceiling : Int) : Prop :=
  Scalar.ofInt 0 < cooldown → ceiling < max 1 threshold

variable {threshold ceiling : Int} {cooldown : τ} {ends : Nat}

/-- No delay is drawn when the breaker is open. -/
theorem delaysDrawn_succ_of_open (hopen : Scalar.ofInt 0 < cooldown ∧ threshold ≤ (ends : Int) + 1) :
    delaysDrawn threshold cooldown (ends + 1) = delaysDrawn threshold cooldown ends := by
  obtain ⟨hcooldown, hreached⟩ := hopen
  rw [delaysDrawn, delaysDrawn, if_pos hcooldown, if_pos hcooldown]
  omega

theorem delaysDrawn_succ_of_not_open (hopen : ¬ (Scalar.ofInt 0 < cooldown ∧ threshold ≤ (ends : Int) + 1)) :
    delaysDrawn threshold cooldown (ends + 1) = delaysDrawn threshold cooldown ends + 1 := by
  by_cases hcooldown : Scalar.ofInt 0 < cooldown
  · have hbelow : ¬ threshold ≤ (ends : Int) + 1 := fun hreached => hopen ⟨hcooldown, hreached⟩
    rw [delaysDrawn, delaysDrawn, if_pos hcooldown, if_pos hcooldown]
    omega
  · rw [delaysDrawn, delaysDrawn, if_neg hcooldown, if_neg hcooldown]

/-- A ceiling that is reached is in reach. -/
theorem ceilingInReach_of_le (h : ceiling ≤ delaysDrawn threshold cooldown ends) :
    CeilingInReach threshold cooldown ceiling := by
  intro hcooldown
  rw [delaysDrawn, if_pos hcooldown] at h
  omega

/-- A ceiling that is in reach has been reached when as many sessions have ended. -/
theorem CeilingInReach.lt_of_lt (hreach : CeilingInReach threshold cooldown ceiling)
    (h : (delaysDrawn threshold cooldown ends : Int) < ceiling) : (ends : Int) < ceiling := by
  by_cases hcooldown : Scalar.ofInt 0 < cooldown
  · have hbelow := hreach hcooldown
    rw [delaysDrawn, if_pos hcooldown] at h
    omega
  · rwa [delaysDrawn, if_neg hcooldown] at h

theorem le_of_le_delaysDrawn (h : ceiling ≤ delaysDrawn threshold cooldown ends) : ceiling ≤ ends := by
  unfold delaysDrawn at h
  split at h <;> omega

/-! ## Accounts -/

/-- The account of a watcher that follows its subscription when so many sessions have ended in a row. -/
structure Condition.Following (url : String) (interval patience : τ) (bounds : String × Int × τ) (ceiling : Int)
    (c : Condition τ) (ends : Nat) : Prop where
  strategy : c.strategy = .push url true interval patience
  active : c.life.active = true
  push : c.pushEnabled = true
  breaker : c.breaker.HasCounted bounds ends
  attempt : c.backoff.attempt = delaysDrawn bounds.2.1 bounds.2.2 ends
  maxAttempts : c.backoff.maxAttempts = some ceiling
  within : (c.backoff.attempt : Int) ≤ ceiling
  allowed : CeilingInReach bounds.2.1 bounds.2.2 ceiling → (ends : Int) ≤ ceiling

/-- The account of a watcher that has given up its subscription. -/
structure Condition.Resigned (url : String) (interval patience : τ) (bounds : String × Int × τ) (ceiling : Int)
    (c : Condition τ) (ends : Nat) : Prop where
  standsIn : c.StandsIn url interval patience
  push : c.pushEnabled = false
  reach : CeilingInReach bounds.2.1 bounds.2.2 ceiling
  used : (ends : Int) = ceiling + 1

variable {url name : String} {interval patience : τ} {c c' : Condition τ}

theorem Condition.Following.exhausted_iff {bounds : String × Int × τ}
    (h : c.Following url interval patience bounds ceiling ends) :
    c.backoff.exhausted = true ↔ ceiling ≤ c.backoff.attempt := by
  rw [Backoff.exhausted_iff, h.maxAttempts]
  constructor
  · rintro ⟨m, hm, hle⟩
    cases hm
    exact hle
  · exact fun hle => ⟨ceiling, rfl, hle⟩

/-- What keeps the condition keeps the account. -/
theorem Condition.Following.of_keeps {bounds : String × Int × τ} (h : c.Following url interval patience bounds ceiling ends)
    (hkeeps : c.Keeps now c') : c'.Following url interval patience bounds ceiling ends where
  strategy := hkeeps.strategy.trans h.strategy
  active := hkeeps.active.trans h.active
  push := hkeeps.pushEnabled.trans h.push
  breaker := by
    rcases hkeeps.breaker with hsame | hread
    · exact hsame ▸ h.breaker
    · exact hread ▸ h.breaker.read now
  attempt := by rw [hkeeps.backoff, h.attempt]
  maxAttempts := by rw [hkeeps.backoff, h.maxAttempts]
  within := by rw [hkeeps.backoff]; exact h.within
  allowed := h.allowed

/-- An acknowledgement starts the account over. -/
theorem Condition.Following.acknowledged {bounds : String × Int × τ}
    (h : c.Following url interval patience bounds ceiling ends) (hceiling : 0 ≤ ceiling) :
    c.acknowledged.Following url interval patience bounds ceiling 0 where
  strategy := h.strategy
  active := h.active
  push := h.push
  breaker := h.breaker.succeed
  attempt := by
    show 0 = delaysDrawn _ _ 0
    unfold delaysDrawn
    split <;> simp
  maxAttempts := h.maxAttempts
  within := hceiling
  allowed := fun _ => hceiling

variable [Scalar.Lawful τ]

/-- The end of a session counts, and the delay with it unless the breaker is open. At the ceiling the subscription is
given up. -/
theorem Condition.Following.sessionEnd (h : c.Following url interval patience (name, threshold, cooldown) ceiling ends)
    (hended : c.SessionEnd now c') :
    c'.Following url interval patience (name, threshold, cooldown) ceiling (ends + 1) ∨
      c'.Resigned url interval patience (name, threshold, cooldown) ceiling (ends + 1) := by
  have hopen := h.breaker.isOpen_read_fail_iff now
  have hfallback : c.strategy.hasFallback = true := by rw [h.strategy]; rfl
  have hattempt : c.backoff.attempt = delaysDrawn threshold cooldown ends := h.attempt
  have hleft (hexhausted : c.backoff.exhausted = false) : (delaysDrawn threshold cooldown ends : Int) < ceiling := by
    have hlt : ¬ ceiling ≤ c.backoff.attempt := by
      rw [← h.exhausted_iff, hexhausted]
      exact Bool.false_ne_true
    rw [hattempt] at hlt
    omega
  have hallowed (hexhausted : c.backoff.exhausted = false) (hreach : CeilingInReach threshold cooldown ceiling) :
      ((ends + 1 : Nat) : Int) ≤ ceiling := by
    have hends := hreach.lt_of_lt (hleft hexhausted)
    push_cast
    omega
  cases hended with
  | finished hinactive => exact absurd (hinactive.symm.trans h.active) Bool.false_ne_true
  | givesUp _ _ hno => exact absurd (hno.symm.trans hfallback) Bool.false_ne_true
  | disables _ hexhausted _ =>
    have hle := h.exhausted_iff.mp hexhausted
    rw [hattempt] at hle
    have hreach := ceilingInReach_of_le hle
    refine Or.inr ⟨⟨h.strategy, h.active, rfl⟩, rfl, hreach, ?_⟩
    have hge := le_of_le_delaysDrawn hle
    have hends := h.allowed hreach
    push_cast
    omega
  | diverts _ hexhausted _ hdiverts =>
    exact Or.inl { h with
      breaker := (h.breaker.fail now).read now
      attempt := hattempt.trans (delaysDrawn_succ_of_open (hopen.mp hdiverts)).symm
      allowed := hallowed hexhausted }
  | draws _ hexhausted hpasses =>
    have hclosed : ¬ (Scalar.ofInt 0 < cooldown ∧ threshold ≤ (ends : Int) + 1) := by
      rw [← hopen, hpasses hfallback]
      exact Bool.false_ne_true
    have hnext : c.backoff.next.2.attempt = delaysDrawn threshold cooldown ends + 1 := congrArg (· + 1) hattempt
    refine Or.inl { h with
      breaker := (h.breaker.fail now).read now
      attempt := hnext.trans (delaysDrawn_succ_of_not_open hclosed).symm
      within := ?_
      allowed := hallowed hexhausted }
    show (c.backoff.next.2.attempt : Int) ≤ ceiling
    have hlt := hleft hexhausted
    rw [hnext]
    push_cast
    omega

/-! ## Runs -/

/-- A watcher that nobody stops keeps its account, until it gives up its subscription. -/
theorem Condition.Following.next {c : Tally τ}
    (h : w.condition.Following url interval patience (name, threshold, cooldown) ceiling c.ends) (hceiling : 0 ≤ ceiling)
    (now : τ) {x : Stimulus} (hstop : x ≠ .stop) :
    let ends := (c.next now x w).ends
    (w.react now x).condition.Following url interval patience (name, threshold, cooldown) ceiling ends ∨
      (w.react now x).condition.Resigned url interval patience (name, threshold, cooldown) ceiling ends := by
  intro ends
  cases passage now (fun _ => h.active) hstop with
  | keeps hends hack hkeeps =>
    rw [show ends = c.ends by simp [ends, Tally.next, hends, hack]]
    exact Or.inl (h.of_keeps hkeeps)
  | acknowledged hends hack hkeeps =>
    rw [show ends = 0 by simp [ends, Tally.next, hack]]
    exact Or.inl ((h.acknowledged hceiling).of_keeps hkeeps)
  | ended hends hack hended =>
    rw [show ends = c.ends + 1 by simp [ends, Tally.next, hends, hack]]
    exact h.sessionEnd hended

omit [Scalar.Lawful τ] in
/-- A watcher that has given up its subscription stays so, as long as nobody stops it. -/
theorem Condition.Resigned.next {bounds : String × Int × τ} {c : Tally τ}
    (h : w.condition.Resigned url interval patience bounds ceiling c.ends) (now : τ) {x : Stimulus} (hstop : x ≠ .stop) :
    (w.react now x).condition.Resigned url interval patience bounds ceiling (c.next now x w).ends := by
  obtain ⟨hends, hack⟩ := inert_of_standsIn x h.standsIn.position
  have htally : (c.next now x w).ends = c.ends := by simp [Tally.next, hends, hack]
  rw [htally]
  exact { h with
    standsIn := (h.standsIn.next hstop (Or.inl h.push)).1
    push := (h.standsIn.keeps now hstop).pushEnabled.trans h.push }

theorem following_run {c : Tally τ} (hceiling : 0 ≤ ceiling) {xs : List (τ × Stimulus)} (hxs : ∀ x ∈ xs, x.2 ≠ .stop)
    (h : w.condition.Following url interval patience (name, threshold, cooldown) ceiling c.ends ∨
      w.condition.Resigned url interval patience (name, threshold, cooldown) ceiling c.ends) :
    (w.run xs).condition.Following url interval patience (name, threshold, cooldown) ceiling (w.tally c xs).ends ∨
      (w.run xs).condition.Resigned url interval patience (name, threshold, cooldown) ceiling (w.tally c xs).ends := by
  induction xs generalizing w c with
  | nil => exact h
  | cons x xs ih =>
    obtain ⟨now, x⟩ := x
    obtain ⟨hx, hxs⟩ := List.forall_mem_cons.mp hxs
    rcases h with h | h
    · exact ih hxs (h.next hceiling now hx)
    · exact ih hxs (Or.inr (h.next now hx))

/-- A watcher that has just been started on a subscription that sweeps stand in for. -/
def secured (url : String) (interval patience : τ) (detector : Detector) (listeners : List String) (timeout : Option τ)
    (backoff : Backoff τ) (breaker : Breaker τ) : Watcher τ :=
  (fresh (.push url true interval patience) detector listeners timeout backoff breaker).start

/-- **The ceiling counts if it lies below the threshold.** Whatever happens to a watcher that nobody stops and whose
subscription is backed by sweeps, let `ends` be the number of sessions that have ended since the connection was last
acknowledged, or since the start.

* Where the ceiling is in reach, there are never more than one session above it, and with that one, not before, the
  subscription is given up.
* Where an open breaker keeps it out of reach, the subscription is never given up.
* As long as the subscription is followed, the attempts are the delays that were drawn.
* From the time that it is given up, the session of the watcher goes on, and its task does nothing but poll. -/
theorem push_disabled_iff_ceiling_in_reach (url : String) (interval patience : τ) (detector : Detector)
    (listeners : List String) (timeout : Option τ) (initial maximum factor jitter : τ) (ceiling : Int) (draws : List τ)
    (name : String) (threshold : Int) (cooldown : τ) (hceiling : 0 ≤ ceiling) (xs : List (τ × Stimulus))
    (hxs : ∀ x ∈ xs, x.2 ≠ .stop) :
    let start := secured url interval patience detector listeners timeout
      (Backoff.fresh initial maximum factor jitter (some ceiling) draws) (Breaker.fresh name threshold cooldown)
    let w := start.run xs
    let ends := (start.tally ⟨0, 0, start.backoff⟩ xs).ends
    (CeilingInReach threshold cooldown ceiling →
      (ends : Int) ≤ ceiling + 1 ∧ (w.pushEnabled = false ↔ (ends : Int) = ceiling + 1)) ∧
    (¬ CeilingInReach threshold cooldown ceiling → w.pushEnabled = true) ∧
    (w.pushEnabled = true → w.backoff.attempt = delaysDrawn threshold cooldown ends) ∧
    (w.pushEnabled = false → ∀ ys, (∀ y ∈ ys, y.2 ≠ .stop) →
      let v := w.run ys
      v.pushEnabled = false ∧ v.life.active = true ∧ v.position.StandsIn interval ∧ ∀ d ∈ w.history ys, d.IsPoll) := by
  intro start w ends
  have hstart : start.condition.Following url interval patience (name, threshold, cooldown) ceiling 0 :=
    { strategy := rfl
      active := rfl
      push := rfl
      breaker := Breaker.hasCounted_fresh
      attempt := by
        show 0 = delaysDrawn threshold cooldown 0
        unfold delaysDrawn
        split <;> simp
      maxAttempts := rfl
      within := hceiling
      allowed := fun _ => hceiling }
  have hrun : w.condition.Following url interval patience (name, threshold, cooldown) ceiling ends ∨
      w.condition.Resigned url interval patience (name, threshold, cooldown) ceiling ends :=
    following_run (c := ⟨0, 0, start.backoff⟩) hceiling hxs (Or.inl hstart)
  rcases hrun with h | h
  · have hpush : w.pushEnabled = true := h.push
    refine ⟨fun hreach => ?_, fun _ => hpush, fun _ => h.attempt, fun hno => absurd (hno.symm.trans hpush) (by simp)⟩
    have hle : (ends : Int) ≤ ceiling := h.allowed hreach
    exact ⟨by omega, fun hno => absurd (hno.symm.trans hpush) (by simp), fun hused => by omega⟩
  · have hpush : w.pushEnabled = false := h.push
    refine ⟨fun _ => ⟨Int.le_of_eq h.used, fun _ => h.used, fun _ => hpush⟩, fun hno => absurd h.reach hno,
      fun hyes => absurd (hpush.symm.trans hyes) (by simp), fun _ ys hys => ?_⟩
    obtain ⟨hstands, hpush', hdeeds⟩ := h.standsIn.run hys (Or.inl hpush)
    exact ⟨hpush'.trans hpush, hstands.active, hstands.position, hdeeds⟩

/-! ## Two outages -/

/-- A watcher that may reconnect once, at a server that cannot be reached. -/
def stranded (threshold : Int) : Watcher Rat :=
  secured "ws://stump.local/api/graphql" 10 30 ⟨500, true⟩ [] none (Backoff.fresh 1 8 2 0 (some 1) [])
    (Breaker.fresh "test" threshold 10)

/-- Its first session: the sweep at the start fails, and the connection is refused. -/
def refused : List (Rat × Stimulus) :=
  [(0, .begun), (0, .reply fun _ => .error "down"), (0, .opened (.error (.other "refused")))]

/-- A breaker that opens at the second failure lets the second session end at the ceiling. -/
theorem push_disabled_iff_ceiling_in_reach_of_refused :
    (0 : Int) ≤ 1 ∧ (∀ x ∈ refused ++ [(1, .rested), (1, .opened (.error (.other "refused")))], x.2 ≠ .stop) ∧
      CeilingInReach 2 (10 : Rat) 1 ∧
      ((stranded 2).run (refused ++ [(1, .rested), (1, .opened (.error (.other "refused")))])).pushEnabled = false ∧
      ∀ d ∈ ((stranded 2).run (refused ++ [(1, .rested), (1, .opened (.error (.other "refused")))])).history
        [(1, .reply fun _ => .error "down"), (11, .rested)], d.IsPoll := by
  have hunstopped : ∀ x ∈ refused ++ [((1 : Rat), .rested), (1, .opened (.error (.other "refused")))], x.2 ≠ .stop := by
    simp [refused]
  have hreach : CeilingInReach 2 (10 : Rat) 1 := fun _ => by decide
  obtain ⟨hin, -, -, hpolls⟩ := push_disabled_iff_ceiling_in_reach "ws://stump.local/api/graphql" (10 : Rat) 30
    ⟨500, true⟩ [] none 1 8 2 0 1 [] "test" 2 10 (by decide) _ hunstopped
  have hpush := (hin hreach).2.mpr (by with_unfolding_all rfl)
  exact ⟨by decide, hunstopped, hreach, hpush, (hpolls hpush _ (by simp)).2.2.2⟩

/-- A breaker that opens at the first failure hides the ceiling: three sessions in a row have ended, and the
subscription is still followed. -/
theorem ceiling_out_of_reach_of_refused :
    let outage := refused ++ [(0, .reply fun _ => .error "down"), (10, .rested), (10, .opened (.error (.other "refused"))),
      (10, .reply fun _ => .error "down"), (20, .rested), (20, .opened (.error (.other "refused")))]
    let w := stranded 1
    (∀ x ∈ outage, x.2 ≠ .stop) ∧ w.backoff.maxAttempts = some 1 ∧
      (w.tally ⟨0, 0, w.backoff⟩ outage).ends = 3 ∧ (w.history outage).countP Deed.isConnecting = 3 ∧
      (w.run outage).pushEnabled = true := by
  refine ⟨by simp [refused], rfl, ?_, ?_, ?_⟩
  · with_unfolding_all rfl
  · with_unfolding_all rfl
  · with_unfolding_all rfl

end Watcher

end MediaWatch
