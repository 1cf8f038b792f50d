import Mathlib
import MediaWatch.Policy.Bucket

/-!
# A line at a bucket

Callers who want a permit stand in line, and the first of them is at the bucket: it asks, sleeps as told, and asks
again, until it is granted a permit or its sleep fails. Meanwhile others arrive, and anyone may look how many permits
there are. A `Line` takes these moves in any order, with sleeps of any length; `Bucket.acquire` is such a run for the
first caller alone (`Line.run_of_acquires`).

The invariant `Bucket.Keeps` weighs the permits that a bucket has granted since any moment, together with those that
it holds, against what can have come in since. It is kept by every move whose time does not lie before the last one
(`Line.keeps_step`), so the permits granted in any window of time conform to capacity and rate
(`Bucket.Keeps.conforms`).
-/

namespace MediaWatch

/-! ## Rational scalars -/

namespace Scalar

theorem least_rat (a b : ℚ) : Scalar.least a b = min a b := by
  show (if b < a then b else a) = min a b
  split_ifs with h
  · exact (min_eq_right h.le).symm
  · exact (min_eq_left (not_lt.mp h)).symm

theorem clamp_rat (a : ℚ) : Scalar.clamp a = max 0 a := by
  show (if (0 : ℚ) < a then a else 0) = max 0 a
  split_ifs with h
  · exact (max_eq_right h.le).symm
  · exact (max_eq_left (not_lt.mp h)).symm

end Scalar

/-! ## Looking and asking -/

namespace Bucket

/-- What a bucket allows: so many permits in so much time. -/
def measure {τ : Type} (b : Bucket τ) : τ × τ := (b.capacity, b.interval)

section

variable {τ : Type} [Scalar τ]

theorem updatedAt_refill (b : Bucket τ) (now : τ) : (b.refill now).updatedAt = now := rfl

/-- An answer to a caller. -/
theorem ask_cases (b : Bucket τ) (now : τ) :
    ((b.refill now).tokens < Scalar.ofInt 1 ∧ ∃ d, b.ask now = (.wait d, b.refill now)) ∨
    (¬ (b.refill now).tokens < Scalar.ofInt 1 ∧
      b.ask now = (.granted, { b.refill now with tokens := (b.refill now).tokens - Scalar.ofInt 1 })) := by
  by_cases h : (b.refill now).tokens < Scalar.ofInt 1
  · exact Or.inl ⟨h, _, by rw [ask, if_pos h]⟩
  · exact Or.inr ⟨h, by rw [ask, if_neg h]⟩

theorem eq_refill_of_wait {b b' : Bucket τ} {now d : τ} (hask : b.ask now = (.wait d, b')) : b' = b.refill now := by
  rcases b.ask_cases now with ⟨-, d', h⟩ | ⟨-, h⟩
  · rw [h] at hask
    exact (congrArg Prod.snd hask).symm
  · rw [h] at hask
    cases hask

variable {σ : Type} (sleeper : Sleeper σ τ)

/-- How a caller acquires a permit: it asks, and sleeps as told until it is granted one, or its sleep fails, or it
sleeps no more. -/
inductive Acquires : Bucket τ → σ → Ending → Bucket τ → σ → Prop where
  | granted {b b' s} (hask : b.ask (sleeper.now s) = (.granted, b')) : Acquires b s .granted b' s
  | unfinished {b b' s d} (hask : b.ask (sleeper.now s) = (.wait d, b')) : Acquires b s .unfinished b' s
  | failed {b b' s d} (hask : b.ask (sleeper.now s) = (.wait d, b')) (hsleep : sleeper.sleep s d = none) :
      Acquires b s .failed b' s
  | woken {b b' b'' s s' s'' d ending} (hask : b.ask (sleeper.now s) = (.wait d, b'))
      (hsleep : sleeper.sleep s d = some s') (hagain : Acquires b' s' ending b'' s'') : Acquires b s ending b'' s''

theorem acquires_acquire (sleeps : ℕ) (b : Bucket τ) (s : σ) :
    Acquires sleeper b s (b.acquire sleeper sleeps s).1 (b.acquire sleeper sleeps s).2.1
      (b.acquire sleeper sleeps s).2.2 := by
  induction sleeps generalizing b s with
  | zero =>
    rcases b.ask_cases (sleeper.now s) with ⟨-, d, hask⟩ | ⟨-, hask⟩
    · rw [acquire.eq_2 sleeper b s _ d hask]
      exact .unfinished hask
    · rw [acquire.eq_1 sleeper b s 0 _ hask]
      exact .granted hask
  | succ sleeps ih =>
    rcases b.ask_cases (sleeper.now s) with ⟨-, d, hask⟩ | ⟨-, hask⟩
    · rw [acquire.eq_3 sleeper b s d _ sleeps hask]
      cases hsleep : sleeper.sleep s d with
      | none => exact .failed hask hsleep
      | some woken => exact .woken hask hsleep (ih _ woken)
    · rw [acquire.eq_1 sleeper b s (sleeps + 1) _ hask]
      exact .granted hask

/-- What sleeps do not change is not changed by an acquisition. -/
theorem Acquires.keeps {sleeper : Sleeper σ τ} {P : σ → Prop} (hP : ∀ s d s', P s → sleeper.sleep s d = some s' → P s')
    {b b' : Bucket τ} {s s' : σ} {ending : Ending} (h : Acquires sleeper b s ending b' s') (hs : P s) : P s' := by
  induction h with
  | granted => exact hs
  | unfinished => exact hs
  | failed => exact hs
  | woken hask hsleep hagain ih => exact ih (hP _ _ _ hs hsleep)

end

variable {b : Bucket ℚ} {now : ℚ}

theorem tokens_refill (b : Bucket ℚ) (now : ℚ) :
    (b.refill now).tokens = min b.capacity (b.tokens + max 0 (now - b.updatedAt) * b.rate) := by
  rw [← Scalar.clamp_rat, ← Scalar.least_rat]
  rfl

/-- A bucket of a sensible size that holds no more than it can. -/
structure Sound (b : Bucket ℚ) : Prop where
  capacity : 1 ≤ b.capacity
  interval : 0 < b.interval
  rate : b.rate = b.capacity / b.interval
  nonneg : 0 ≤ b.tokens
  le_capacity : b.tokens ≤ b.capacity

theorem Sound.rate_pos (h : b.Sound) : 0 < b.rate := by
  rw [h.rate]
  exact div_pos (lt_of_lt_of_le one_pos h.capacity) h.interval

/-- What has come in since a bucket was last looked at. -/
theorem tokens_refill_of_le (hnow : b.updatedAt ≤ now) :
    (b.refill now).tokens = min b.capacity (b.tokens + (now - b.updatedAt) * b.rate) := by
  rw [tokens_refill, max_eq_right (sub_nonneg.mpr hnow)]

theorem Sound.refill (h : b.Sound) (now : ℚ) : (b.refill now).Sound := by
  refine ⟨h.capacity, h.interval, h.rate, ?_, ?_⟩
  · rw [tokens_refill]
    have hin : 0 ≤ max 0 (now - b.updatedAt) * b.rate := mul_nonneg (le_max_left _ _) h.rate_pos.le
    exact le_min (h.nonneg.trans h.le_capacity) (add_nonneg h.nonneg hin)
  · rw [tokens_refill]
    exact min_le_left _ _

/-- Looking twice is no different from looking once, later. -/
theorem Sound.refill_refill (h : b.Sound) {later : ℚ} (hnow : b.updatedAt ≤ now) (hlater : now ≤ later) :
    (b.refill now).refill later = b.refill later := by
  have htokens : ((b.refill now).refill later).tokens = (b.refill later).tokens := by
    rw [tokens_refill_of_le (b := b.refill now) hlater, tokens_refill_of_le hnow,
      tokens_refill_of_le (hnow.trans hlater), updatedAt_refill]
    have hin : 0 ≤ (later - now) * b.rate := mul_nonneg (sub_nonneg.mpr hlater) h.rate_pos.le
    have hsum : (later - b.updatedAt) * b.rate = (now - b.updatedAt) * b.rate + (later - now) * b.rate := by ring
    show min b.capacity (min b.capacity (b.tokens + (now - b.updatedAt) * b.rate) + (later - now) * b.rate) = _
    rw [hsum, min_add, ← min_assoc, min_eq_left (le_add_of_nonneg_right hin), add_assoc]
  calc (b.refill now).refill later
      = { b.refill later with tokens := ((b.refill now).refill later).tokens } := rfl
    _ = b.refill later := by rw [htokens]

/-- A sleeper whose sleeps do not turn the clock back. -/
def Sleeper.Steady {σ : Type} (sleeper : Sleeper σ ℚ) : Prop :=
  ∀ s d s', sleeper.sleep s d = some s' → sleeper.now s ≤ sleeper.now s'

theorem Acquires.le {σ : Type} {sleeper : Sleeper σ ℚ} (hsteady : sleeper.Steady) {b b' : Bucket ℚ} {s s' : σ}
    {ending : Ending} (h : Acquires sleeper b s ending b' s') : sleeper.now s ≤ sleeper.now s' :=
  h.keeps (P := fun x => sleeper.now s ≤ sleeper.now x) (fun x d x' hx hsleep => hx.trans (hsteady x d x' hsleep))
    (le_refl _)

/-- An acquisition that ends without a permit has only looked at the bucket. -/
theorem Sound.eq_refill_of_acquires {σ : Type} {sleeper : Sleeper σ ℚ} (hsteady : sleeper.Steady) {b b' : Bucket ℚ}
    (hb : b.Sound) {s s' : σ} (hnow : b.updatedAt ≤ sleeper.now s) {ending : Ending}
    (h : Acquires sleeper b s ending b' s') (hending : ending ≠ .granted) : b' = b.refill (sleeper.now s') := by
  induction h with
  | granted => exact absurd rfl hending
  | unfinished hask => exact eq_refill_of_wait hask
  | failed hask => exact eq_refill_of_wait hask
  | @woken b b₁ b₂ s s₁ s₂ d ending hask hsleep hagain ih =>
    obtain rfl := eq_refill_of_wait hask
    have hwoken := hsteady s d s₁ hsleep
    rw [ih (hb.refill _) hwoken hending]
    exact hb.refill_refill hnow (hwoken.trans (hagain.le hsteady))

/-! ## Permits in a window of time -/

/-- The number of the given times that lie in a window. -/
def countIn (a z : ℚ) (times : List ℚ) : ℕ := times.countP fun t => a ≤ t ∧ t ≤ z

theorem countIn_cons (a z t : ℚ) (times : List ℚ) :
    countIn a z (t :: times) = countIn a z times + if a ≤ t ∧ t ≤ z then 1 else 0 := by
  simp [countIn, List.countP_cons]

/-- Windows that end when all is over, or later, count the same. -/
theorem countIn_eq_of_le {times : List ℚ} {u : ℚ} (htimes : ∀ t ∈ times, t ≤ u) (a : ℚ) {z : ℚ} (hz : u ≤ z) :
    countIn a z times = countIn a u times := by
  refine List.countP_congr fun t ht => ?_
  have hu := htimes t ht
  simp [hu, hu.trans hz]

theorem countIn_eq_zero {times : List ℚ} {u : ℚ} (htimes : ∀ t ∈ times, t ≤ u) {a : ℚ} (ha : u < a) (z : ℚ) :
    countIn a z times = 0 := by
  refine List.countP_eq_zero.mpr fun t ht => ?_
  have hlt := lt_of_le_of_lt (htimes t ht) ha
  simp [hlt]

/-- A bucket that has granted its permits at the given times, and has kept within its capacity and rate: those that
were granted since any moment, and those that it holds, do not exceed its capacity and what can have come in since. -/
structure Keeps (b : Bucket ℚ) (times : List ℚ) : Prop where
  sound : b.Sound
  past : ∀ t ∈ times, t ≤ b.updatedAt
  since : ∀ a ≤ b.updatedAt, countIn a b.updatedAt times + b.tokens ≤ b.capacity + (b.updatedAt - a) * b.rate
  window : ∀ a z, a ≤ z → (countIn a z times : ℚ) ≤ b.capacity + (z - a) * b.rate

/-- No window of time holds more of the given times than a capacity and what comes in during the window. -/
def Conforms (capacity interval : ℚ) (times : List ℚ) : Prop :=
  ∀ a z, a ≤ z → (countIn a z times : ℚ) ≤ capacity + (z - a) * capacity / interval

variable {times : List ℚ}

/-- Any of the permits that a bucket has granted conform to what it allows. -/
theorem Keeps.conforms (h : b.Keeps times) {capacity interval : ℚ} (hmeasure : b.measure = (capacity, interval))
    {kept : List ℚ} (hkept : kept.Sublist times) : Conforms capacity interval kept := by
  obtain ⟨rfl, rfl⟩ := Prod.mk.inj hmeasure
  intro a z haz
  have hfewer : (countIn a z kept : ℚ) ≤ countIn a z times := by exact_mod_cast hkept.countP_le
  calc (countIn a z kept : ℚ) ≤ countIn a z times := hfewer
    _ ≤ b.capacity + (z - a) * b.rate := h.window a z haz
    _ = b.capacity + (z - a) * b.capacity / b.interval := by rw [h.sound.rate, mul_div_assoc]

/-- A full bucket has granted nothing. -/
theorem keeps_full {capacity interval : ℚ} (hc : 1 ≤ capacity) (hi : 0 < interval) (start : ℚ) :
    ∃ b, full? capacity interval start = some b ∧ b.Keeps [] ∧ b.updatedAt = start ∧
      b.measure = (capacity, interval) := by
  have hpos : ¬ (capacity ≤ (Scalar.ofInt 0 : ℚ) ∨ interval ≤ (Scalar.ofInt 0 : ℚ)) := by
    show ¬ (capacity ≤ 0 ∨ interval ≤ 0)
    rintro (h | h) <;> linarith
  have hrate : 0 < capacity / interval := div_pos (lt_of_lt_of_le one_pos hc) hi
  refine ⟨_, if_neg hpos, ⟨⟨hc, hi, rfl, ?_, le_refl _⟩, by simp, fun a ha => ?_, fun a z haz => ?_⟩, rfl, rfl⟩
  · show (0 : ℚ) ≤ capacity
    linarith
  · have hin : 0 ≤ (start - a) * (capacity / interval) := mul_nonneg (sub_nonneg.mpr ha) hrate.le
    simpa [countIn] using hin
  · have hin : 0 ≤ (z - a) * (capacity / interval) := mul_nonneg (sub_nonneg.mpr haz) hrate.le
    show ((0 : ℕ) : ℚ) ≤ capacity + (z - a) * (capacity / interval)
    push_cast
    linarith

/-- Looking at a bucket keeps the bound. -/
theorem Keeps.refill (h : b.Keeps times) (hnow : b.updatedAt ≤ now) : (b.refill now).Keeps times := by
  refine ⟨h.sound.refill now, fun t ht => (h.past t ht).trans hnow, fun a ha => ?_, h.window⟩
  show (countIn a now times : ℚ) + (b.refill now).tokens ≤ b.capacity + (now - a) * b.rate
  have htokens := tokens_refill_of_le hnow
  rcases le_or_gt a b.updatedAt with ha' | ha'
  · have hsince := h.since a ha'
    have hle : (b.refill now).tokens ≤ b.tokens + (now - b.updatedAt) * b.rate := by
      rw [htokens]
      exact min_le_right _ _
    rw [countIn_eq_of_le h.past a hnow]
    linarith
  · -- nothing was granted since then, and a bucket holds no more than its capacity
    have hle : (b.refill now).tokens ≤ b.capacity := (h.sound.refill now).le_capacity
    have hin : 0 ≤ (now - a) * b.rate := mul_nonneg (sub_nonneg.mpr ha) h.sound.rate_pos.le
    rw [countIn_eq_zero h.past ha' now]
    push_cast
    linarith

/-- Granting a permit that is there keeps the bound. -/
theorem Keeps.grant (h : b.Keeps times) (hone : 1 ≤ b.tokens) :
    { b with tokens := b.tokens - 1 }.Keeps (b.updatedAt :: times) := by
  have hle := h.sound.le_capacity
  refine ⟨⟨h.sound.capacity, h.sound.interval, h.sound.rate, sub_nonneg.mpr hone, ?_⟩, ?_, fun a ha => ?_,
    fun a z haz => ?_⟩
  · show b.tokens - 1 ≤ b.capacity
    linarith
  · exact List.forall_mem_cons.mpr ⟨le_refl _, h.past⟩
  · show (countIn a b.updatedAt (b.updatedAt :: times) : ℚ) + (b.tokens - 1) ≤ b.capacity + (b.updatedAt - a) * b.rate
    have hsince := h.since a ha
    rw [countIn_cons, if_pos ⟨ha, le_refl _⟩]
    push_cast
    linarith
  · show (countIn a z (b.updatedAt :: times) : ℚ) ≤ b.capacity + (z - a) * b.rate
    have hwindow := h.window a z haz
    rw [countIn_cons]
    split_ifs with hin
    · -- the window holds the new permit, and so all that were granted since it began
      have hsince := h.since a hin.1
      have hmore : (b.updatedAt - a) * b.rate ≤ (z - a) * b.rate :=
        mul_le_mul_of_nonneg_right (by linarith [hin.2]) h.sound.rate_pos.le
      rw [countIn_eq_of_le h.past a hin.2]
      push_cast
      linarith
    · simpa using hwindow

end Bucket

/-! ## The line -/

/-- Callers of a bucket in the order of their arrival. The first one is at the bucket. -/
structure Line (τ α : Type) where
  bucket : Bucket τ
  callers : List α
  /-- How long the first caller sleeps, if it was told to wait. -/
  asleep : Option τ
  /-- The callers that were granted a permit, and when; the latest first. -/
  admitted : List (α × τ)

namespace Line

variable {τ α : Type}

/-- What can happen to a line. -/
inductive Move (α : Type) where
  | arrive (caller : α)
  /-- The first caller asks, for the first time or after its sleep. -/
  | turn
  /-- The sleep of the first caller fails. -/
  | fail
  /-- Someone looks at the bucket. -/
  | look
  deriving Repr, DecidableEq

/-- A line without callers. -/
def empty (b : Bucket τ) : Line τ α := ⟨b, [], none, []⟩

section

variable [Scalar τ]

/-- The first caller asks. -/
def turn (now : τ) (l : Line τ α) : Line τ α :=
  match l.callers with
  | [] => l
  | caller :: rest =>
    match l.bucket.ask now with
    | (.granted, bucket) => { bucket, callers := rest, asleep := none, admitted := (caller, now) :: l.admitted }
    | (.wait d, bucket) => { l with bucket, asleep := some d }

/-- The line after a move. One that cannot happen changes nothing. -/
def step (now : τ) (l : Line τ α) : Move α → Line τ α
  | .arrive caller => { l with callers := l.callers ++ [caller] }
  | .turn => l.turn now
  | .fail => if l.asleep.isSome then { l with callers := l.callers.tail, asleep := none } else l
  | .look => { l with bucket := l.bucket.refill now }

/-- The line after moves at their times. -/
def run (l : Line τ α) (xs : List (τ × Move α)) : Line τ α := xs.foldl (fun l x => l.step x.1 x.2) l

theorem run_cons (l : Line τ α) (now : τ) (m : Move α) (xs : List (τ × Move α)) :
    l.run ((now, m) :: xs) = (l.step now m).run xs := rfl

theorem turn_of_granted {l : Line τ α} {caller : α} {rest : List α} {now : τ} {b : Bucket τ}
    (hcallers : l.callers = caller :: rest) (hask : l.bucket.ask now = (.granted, b)) :
    l.turn now = ⟨b, rest, none, (caller, now) :: l.admitted⟩ := by
  simp only [turn, hcallers, hask]

theorem turn_of_wait {l : Line τ α} {caller : α} {rest : List α} {now d : τ} {b : Bucket τ}
    (hcallers : l.callers = caller :: rest) (hask : l.bucket.ask now = (.wait d, b)) :
    l.turn now = ⟨b, l.callers, some d, l.admitted⟩ := by
  simp only [turn, hcallers, hask]

/-- What a move does to the bucket: nothing, or it is looked at, or a permit is granted, to the first caller. -/
theorem step_cases (l : Line τ α) (now : τ) (m : Move α) :
    ((l.step now m).admitted = l.admitted ∧
      ((l.step now m).bucket = l.bucket ∨ (l.step now m).bucket = l.bucket.refill now)) ∨
    (¬ (l.bucket.refill now).tokens < Scalar.ofInt 1 ∧
      (l.step now m).bucket = { l.bucket.refill now with tokens := (l.bucket.refill now).tokens - Scalar.ofInt 1 } ∧
      ∃ caller, l.callers.head? = some caller ∧ (l.step now m).admitted = (caller, now) :: l.admitted) := by
  cases m with
  | arrive caller => exact Or.inl ⟨rfl, Or.inl rfl⟩
  | look => exact Or.inl ⟨rfl, Or.inr rfl⟩
  | fail =>
    refine Or.inl ?_
    simp only [step]
    split
    · exact ⟨rfl, Or.inl rfl⟩
    · exact ⟨rfl, Or.inl rfl⟩
  | turn =>
    rw [step]
    cases hcallers : l.callers with
    | nil => exact Or.inl (by simp [turn, hcallers])
    | cons caller rest =>
      rcases l.bucket.ask_cases now with ⟨-, d, hask⟩ | ⟨htokens, hask⟩
      · rw [turn_of_wait hcallers hask]
        exact Or.inl ⟨rfl, Or.inr rfl⟩
      · rw [turn_of_granted hcallers hask]
        exact Or.inr ⟨htokens, rfl, caller, rfl, rfl⟩

end

/-! ## Any run keeps the bound -/

variable {l : Line ℚ α} {now : ℚ}

/-- The times at which permits were granted. -/
def grants (l : Line ℚ α) : List ℚ := l.admitted.map Prod.snd

/-- A move keeps the bound, and is at the bucket's latest time or leaves that as it was. -/
theorem keeps_step (h : l.bucket.Keeps l.grants) (hnow : l.bucket.updatedAt ≤ now) (m : Move α) :
    (l.step now m).bucket.Keeps (l.step now m).grants ∧ (l.step now m).bucket.updatedAt ≤ now ∧
      (l.step now m).bucket.measure = l.bucket.measure := by
  unfold grants
  rcases l.step_cases now m with ⟨hadmitted, hbucket | hbucket⟩ | ⟨htokens, hbucket, caller, -, hadmitted⟩
  · rw [hbucket, hadmitted]
    exact ⟨h, hnow, rfl⟩
  · rw [hbucket, hadmitted]
    exact ⟨h.refill hnow, le_refl _, rfl⟩
  · rw [hbucket, hadmitted]
    exact ⟨(h.refill hnow).grant (not_lt.mp htokens), le_refl _, rfl⟩

/-- A run on a clock that does not go back keeps the bound. -/
theorem keeps_run (h : l.bucket.Keeps l.grants) {xs : List (ℚ × Move α)}
    (hclock : (l.bucket.updatedAt :: xs.map Prod.fst).Pairwise (· ≤ ·)) :
    (l.run xs).bucket.Keeps (l.run xs).grants ∧ (l.run xs).bucket.measure = l.bucket.measure := by
  induction xs generalizing l with
  | nil => exact ⟨h, rfl⟩
  | cons x xs ih =>
    obtain ⟨now, m⟩ := x
    rw [List.map_cons, List.pairwise_cons, List.pairwise_cons] at hclock
    obtain ⟨hfirst, hlater, hrest⟩ := hclock
    obtain ⟨hkeeps, hupdated, hmeasure⟩ := keeps_step h (hfirst now List.mem_cons_self) m
    rw [run_cons, ← hmeasure]
    exact ih hkeeps (List.pairwise_cons.mpr ⟨fun t ht => hupdated.trans (hlater t ht), hrest⟩)

theorem updatedAt_run_le {z : ℚ} (hl : l.bucket.updatedAt ≤ z) {xs : List (ℚ × Move α)} (hxs : ∀ x ∈ xs, x.1 ≤ z) :
    (l.run xs).bucket.updatedAt ≤ z := by
  induction xs generalizing l with
  | nil => exact hl
  | cons x xs ih =>
    have hx := hxs x List.mem_cons_self
    refine ih ?_ fun y hy => hxs y (List.mem_cons_of_mem _ hy)
    rcases l.step_cases x.1 x.2 with ⟨-, hbucket | hbucket⟩ | ⟨-, hbucket, -⟩
    · exact hbucket ▸ hl
    · exact hbucket ▸ hx
    · exact hbucket ▸ hx

/-! ## Leaving without a permit -/

theorem admitted_step (l : Line ℚ α) (now : ℚ) (m : Move α) : l.admitted <:+ (l.step now m).admitted := by
  rcases l.step_cases now m with ⟨hadmitted, -⟩ | ⟨-, -, caller, -, hadmitted⟩
  · rw [hadmitted]
  · rw [hadmitted]
    exact List.suffix_cons _ _

/-- Those who were admitted stay so. -/
theorem admitted_run (l : Line ℚ α) (xs : List (ℚ × Move α)) : l.admitted <:+ (l.run xs).admitted := by
  induction xs generalizing l with
  | nil => exact List.suffix_refl _
  | cons x xs ih => exact (l.admitted_step x.1 x.2).trans (ih _)

/-- A run in which nobody is admitted only looks at the bucket: those who leave without a permit have taken nothing. -/
theorem bucket_run_of_no_grant (h : l.bucket.Sound) {xs : List (ℚ × Move α)}
    (hclock : (l.bucket.updatedAt :: xs.map Prod.fst).Pairwise (· ≤ ·))
    (hnone : (l.run xs).admitted = l.admitted) :
    (l.run xs).bucket = l.bucket ∨ ∃ x ∈ xs, (l.run xs).bucket = l.bucket.refill x.1 := by
  induction xs generalizing l with
  | nil => exact Or.inl rfl
  | cons x xs ih =>
    obtain ⟨now, m⟩ := x
    rw [List.map_cons, List.pairwise_cons, List.pairwise_cons] at hclock
    obtain ⟨hfirst, hlater, hrest⟩ := hclock
    have hnow := hfirst now List.mem_cons_self
    rw [run_cons] at hnone ⊢
    have hgrows := ((l.step now m).admitted_run xs).length_le
    rcases l.step_cases now m with ⟨hadmitted, hlook⟩ | ⟨-, -, caller, -, hadmitted⟩
    · have hupdated : (l.step now m).bucket.updatedAt ≤ now := by
        rcases hlook with hbucket | hbucket
        · exact hbucket ▸ hnow
        · exact hbucket ▸ le_refl now
      have hsound : (l.step now m).bucket.Sound := by
        rcases hlook with hbucket | hbucket
        · exact hbucket ▸ h
        · exact hbucket ▸ h.refill now
      have hrun := ih hsound (List.pairwise_cons.mpr ⟨fun t ht => hupdated.trans (hlater t ht), hrest⟩)
        (hadmitted ▸ hnone)
      rcases hrun with hrun | ⟨x, hx, hrun⟩ <;> rcases hlook with hbucket | hbucket <;> rw [hrun, hbucket]
      · exact Or.inl rfl
      · exact Or.inr ⟨(now, m), List.mem_cons_self, rfl⟩
      · exact Or.inr ⟨x, List.mem_cons_of_mem _ hx, rfl⟩
      · rw [h.refill_refill hnow (hlater x.1 (List.mem_map_of_mem hx))]
        exact Or.inr ⟨x, List.mem_cons_of_mem _ hx, rfl⟩
    · rw [hnone, hadmitted, List.length_cons] at hgrows
      omega

/-! ## The first caller alone -/

variable {σ : Type} {sleeper : Bucket.Sleeper σ ℚ}

/-- Moves one after the other, from one time to another. -/
def Between (a z : ℚ) (xs : List (ℚ × Move α)) : Prop := (a :: (xs.map Prod.fst ++ [z])).Pairwise (· ≤ ·)

theorem Between.from_le {a z u : ℚ} {xs : List (ℚ × Move α)} (h : Between a z xs) (hu : u ≤ a) :
    (u :: xs.map Prod.fst).Pairwise (· ≤ ·) := by
  obtain ⟨hlater, hrest⟩ := List.pairwise_cons.mp h
  exact List.pairwise_cons.mpr ⟨fun t ht => hu.trans (hlater t (List.mem_append_left _ ht)),
    (List.pairwise_append.mp hrest).1⟩

theorem Between.forall_le {a z : ℚ} {xs : List (ℚ × Move α)} (h : Between a z xs) : ∀ x ∈ xs, x.1 ≤ z :=
  fun x hx => (List.pairwise_append.mp (List.pairwise_cons.mp h).2).2.2 x.1 (List.mem_map_of_mem hx) z
    (List.mem_singleton_self z)

theorem Between.le {a z : ℚ} {xs : List (ℚ × Move α)} (h : Between a z xs) : a ≤ z :=
  (List.pairwise_cons.mp h).1 z (List.mem_append_right _ (List.mem_singleton_self z))

theorem Between.le_of_le {a z z' : ℚ} {xs : List (ℚ × Move α)} (h : Between a z xs) (hz : z ≤ z') :
    Between a z' xs := by
  rw [Between, ← List.cons_append, List.pairwise_append] at h ⊢
  obtain ⟨hbefore, -, hend⟩ := h
  refine ⟨hbefore, List.pairwise_singleton _ _, fun t ht u hu => ?_⟩
  rw [List.mem_singleton.mp hu]
  exact (hend t ht z (List.mem_singleton_self z)).trans hz

/-- An acquisition is a run of the line for its first caller. A permit is granted when it ends, or not at all. -/
theorem run_of_acquires (hsteady : sleeper.Steady) {caller : α} {rest : List α} {b b' : Bucket ℚ} {s s' : σ}
    {ending : Bucket.Ending} (h : Bucket.Acquires sleeper b s ending b' s') {l : Line ℚ α} (hbucket : l.bucket = b)
    (hcallers : l.callers = caller :: rest) :
    ∃ xs : List (ℚ × Move α), Between (sleeper.now s) (sleeper.now s') xs ∧ (l.run xs).bucket = b' ∧
      (l.run xs).callers = (if ending = .unfinished then l.callers else rest) ∧
      (l.run xs).admitted = if ending = .granted then (caller, sleeper.now s') :: l.admitted else l.admitted := by
  induction h generalizing l with
  | @granted b b' s hask =>
    refine ⟨[(sleeper.now s, .turn)], by simp [Between], ?_⟩
    simp [run, step, turn_of_granted hcallers (hbucket ▸ hask)]
  | @unfinished b b' s d hask =>
    refine ⟨[(sleeper.now s, .turn)], by simp [Between], ?_⟩
    simp [run, step, turn_of_wait hcallers (hbucket ▸ hask)]
  | @failed b b' s d hask hsleep =>
    refine ⟨[(sleeper.now s, .turn), (sleeper.now s, .fail)], by simp [Between], ?_⟩
    simp [run, step, turn_of_wait hcallers (hbucket ▸ hask), hcallers]
  | @woken b b₁ b₂ s s₁ s₂ d ending hask hsleep hagain ih =>
    -- the line after the turn is one whose first caller asks again when it wakes up
    have hturn : l.step (sleeper.now s) .turn = ⟨b₁, l.callers, some d, l.admitted⟩ :=
      turn_of_wait hcallers (hbucket ▸ hask)
    obtain ⟨xs, hclock, hrun⟩ := ih (l := l.step (sleeper.now s) .turn) (by rw [hturn]) (by rw [hturn, hcallers])
    refine ⟨(sleeper.now s, .turn) :: xs, ?_, ?_⟩
    · have hlater := (List.pairwise_cons.mp hclock).1
      have hfirst : ∀ t ∈ xs.map Prod.fst ++ [sleeper.now s₂], sleeper.now s ≤ t :=
        fun t ht => (hsteady s d s₁ hsleep).trans (hlater t ht)
      exact List.pairwise_cons.mpr ⟨List.forall_mem_cons.mpr ⟨le_refl _, hfirst⟩,
        List.pairwise_cons.mpr ⟨hfirst, (List.pairwise_cons.mp hclock).2⟩⟩
    · rw [hturn] at hrun
      rw [run_cons, hturn]
      exact hrun

end Line

end MediaWatch
