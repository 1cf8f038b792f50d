import Mathlib.Data.List.DropRight
import Mathlib.Data.List.Induction
import Mathlib.Data.Rat.Lemmas
import Mathlib.Algebra.Order.Ring.Rat
import Mathlib.Algebra.Order.Group.Unbundled.Basic
import MediaWatch.Policy.Breaker

/-!
# A breaker in closed form

A breaker moves its phase when it is told of a failure or a success, and also when someone looks at it. What it
answers does not depend on who has looked when: it is given by the failures since the last success or reset alone,
their number and the time of the last one (`Breaker.answer_eq_closed_form`). The invariant that carries this,
`Breaker.Reflects`, ties the phase, as it stands, to those failures.
-/

namespace MediaWatch

/-- Scalars in which time can be told: their order is total, and the time since a moment grows with the clock. -/
class Scalar.Lawful (τ : Type) [Scalar τ] : Prop where
  le_trans {a b c : τ} : a ≤ b → b ≤ c → a ≤ c
  lt_iff_not_le {a b : τ} : a < b ↔ ¬ b ≤ a
  sub_le_sub {a b : τ} (c : τ) : a ≤ b → a - c ≤ b - c
  sub_self (a : τ) : a - a = Scalar.ofInt 0

instance : Scalar.Lawful Rat where
  le_trans := fun {a b c : Rat} (hab : a ≤ b) (hbc : b ≤ c) => le_trans hab hbc
  lt_iff_not_le := fun {a b : Rat} => (not_le (a := b) (b := a)).symm
  sub_le_sub := fun {a b : Rat} (c : Rat) (h : a ≤ b) => sub_le_sub_right h c
  sub_self := fun a : Rat => sub_self a

namespace Breaker

variable {τ : Type}

/-! ## Requests and answers -/

/-- What a breaker is told or asked. -/
inductive Request where
  | fail
  | succeed
  | reset
  | phase
  | isOpen
  | allow
  | status
  deriving Repr, DecidableEq

/-- Whether a request starts the count of failures over. -/
def Request.clears : Request → Bool
  | .succeed | .reset => true
  | _ => false

/-- Whether a request only looks at the breaker. -/
def Request.isLook : Request → Bool
  | .fail | .succeed | .reset => false
  | _ => true

/-- The report of a breaker. -/
structure Account (τ : Type) where
  name : String
  phase : Phase
  failures : Nat
  threshold : Int
  cooldown : τ

/-- The answer to a request. -/
inductive Answer (τ : Type) where
  | done
  | phase (p : Phase)
  | verdict (yes : Bool)
  | account (a : Account τ)

/-- The report of a breaker as just read. -/
def account (b : Breaker τ) : Account τ := ⟨b.name, b.phase, b.failures, b.threshold, b.cooldown⟩

variable [Scalar τ]

/-- Answers a request. -/
def serve (now : τ) (r : Request) (b : Breaker τ) : Answer τ × Breaker τ :=
  match r with
  | .fail => (.done, (b.fail now).1)
  | .succeed => (.done, b.succeed.1)
  | .reset => (.done, b.reset)
  | .phase => (.phase (b.read now).1.phase, (b.read now).1)
  | .isOpen => (.verdict (b.read now).1.isOpen, (b.read now).1)
  | .allow => (.verdict !(b.read now).1.isOpen, (b.read now).1)
  | .status => (.account (b.read now).1.account, (b.read now).1)

/-- The breaker after requests at their times. -/
def past (b : Breaker τ) (xs : List (τ × Request)) : Breaker τ := xs.foldl (fun b x => (b.serve x.1 x.2).2) b

theorem past_snoc (b : Breaker τ) (xs : List (τ × Request)) (x : τ × Request) :
    b.past (xs ++ [x]) = ((b.past xs).serve x.1 x.2).2 := by
  rw [past, List.foldl_append]
  rfl

/-! ## The closed form -/

/-- The times of the failures since the last success or reset. -/
def strikes (xs : List (τ × Request)) : List τ :=
  ((xs.rtakeWhile fun x => !x.2.clears).filter fun x => x.2 = .fail).map Prod.fst

/-- The phase that failures at the given times lead to. -/
def phaseAfter (threshold : Int) (cooldown : τ) (failures : List τ) (now : τ) : Phase :=
  match failures.getLast? with
  | none => .closed
  | some last =>
    if failures.length < threshold then .closed else if now - last < cooldown then .opened else .halfOpen

/-- The answer that failures at the given times lead to. -/
def answerAfter (name : String) (threshold : Int) (cooldown : τ) (failures : List τ) (now : τ) : Request → Answer τ
  | .fail | .succeed | .reset => .done
  | .phase => .phase (phaseAfter threshold cooldown failures now)
  | .isOpen => .verdict (phaseAfter threshold cooldown failures now = .opened)
  | .allow => .verdict (phaseAfter threshold cooldown failures now ≠ .opened)
  | .status =>
    .account ⟨name, phaseAfter threshold cooldown failures now, failures.length, threshold, cooldown⟩

omit [Scalar τ] in
theorem strikes_snoc (xs : List (τ × Request)) (t : τ) (r : Request) :
    strikes (xs ++ [(t, r)]) =
      if r.clears then [] else if r = .fail then strikes xs ++ [t] else strikes xs := by
  unfold strikes
  rw [List.rtakeWhile_concat]
  cases r <;> simp [Request.clears]

omit [Scalar τ] in
/-- Looking does not count. -/
theorem strikes_filter (xs : List (τ × Request)) : strikes (xs.filter fun x => !x.2.isLook) = strikes xs := by
  induction xs using List.reverseRecOn with
  | nil => rfl
  | append_singleton xs x ih =>
    obtain ⟨t, r⟩ := x
    rw [List.filter_append, strikes_snoc]
    cases hlook : r.isLook with
    | true =>
      have hquiet : r.clears = false ∧ r ≠ .fail := by cases r <;> simp_all [Request.isLook, Request.clears]
      simp [hlook, hquiet.1, hquiet.2, ih]
    | false => simp [hlook, strikes_snoc, ih]

/-! ## The invariant -/

/-- A breaker that has had the given failures since it was last closed, by a clock that has shown the given times. -/
structure Reflects (b : Breaker τ) (failures clock : List τ) : Prop where
  count : b.failures = failures.length
  last : b.lastFailure = failures.getLast?
  closed : b.phase = .closed ↔ failures = [] ∨ failures.length < b.threshold
  /-- A breaker that is half open was seen to have cooled down. -/
  cooled : b.phase = .halfOpen → ∃ t ∈ clock, ∃ f, failures.getLast? = some f ∧ b.cooldown ≤ t - f

variable {b : Breaker τ} {failures clock : List τ}

theorem reflects_fresh (name : String) (threshold : Int) (cooldown : τ) :
    (fresh name threshold cooldown).Reflects [] [] :=
  ⟨rfl, rfl, by simp [fresh], by simp [fresh]⟩

/-- A breaker that has had no failures is closed. -/
theorem reflects_closed (hphase : b.phase = .closed) (hfailures : b.failures = 0) (hlast : b.lastFailure = none) :
    b.Reflects [] clock :=
  ⟨hfailures, hlast, by simp [hphase], by simp [hphase]⟩

/-- A look at a breaker changes its phase if it has cooled down. -/
theorem read_eq (b : Breaker τ) (now : τ) :
    (b.cooled now = false ∧ (b.read now).1 = b) ∨
    (b.phase = .opened ∧ (∃ f, b.lastFailure = some f ∧ b.cooldown ≤ now - f) ∧
      (b.read now).1 = { b with phase := .halfOpen }) := by
  unfold read
  cases hcooled : b.cooled now with
  | false => exact Or.inl ⟨rfl, by simp⟩
  | true =>
    unfold cooled at hcooled
    split at hcooled
    · rename_i f hphase hlast
      exact Or.inr ⟨hphase, ⟨f, hlast, by simpa using hcooled⟩, by simp⟩
    · cases hcooled

theorem Reflects.read (h : b.Reflects failures clock) (now : τ) :
    (b.read now).1.Reflects failures (clock ++ [now]) := by
  rcases b.read_eq now with ⟨-, hr⟩ | ⟨hphase, ⟨f, hlast, hcooled⟩, hr⟩
  · rw [hr]
    refine ⟨h.count, h.last, h.closed, fun hhalf => ?_⟩
    obtain ⟨t, ht, hcooled⟩ := h.cooled hhalf
    exact ⟨t, List.mem_append_left _ ht, hcooled⟩
  · rw [hr]
    refine ⟨h.count, h.last, ?_, fun _ => ⟨now, by simp, f, by rw [← h.last]; exact hlast, hcooled⟩⟩
    rw [← h.closed, hphase]
    simp

omit [Scalar τ] in
/-- A failure is counted. It leaves the breaker closed below the threshold, and open otherwise. -/
theorem fail_eq (b : Breaker τ) (now : τ) :
    (b.fail now).1 =
      { b with
        phase := if b.phase = .closed ∧ (b.failures : Int) + 1 < b.threshold then .closed else .opened
        failures := b.failures + 1
        lastFailure := some now } := by
  obtain ⟨name, threshold, cooldown, phase, failures, lastFailure⟩ := b
  cases phase with
  | closed =>
    by_cases hreached : threshold ≤ (failures : Int) + 1
    · simp [fail, hreached, Int.not_lt.mpr hreached]
    · simp [fail, hreached, Int.not_le.mp hreached]
  | opened => rfl
  | halfOpen => rfl

theorem Reflects.fail (h : b.Reflects failures clock) (now : τ) :
    (b.fail now).1.Reflects (failures ++ [now]) (clock ++ [now]) := by
  rw [fail_eq]
  refine ⟨by simp [h.count], by simp, ?_, fun hhalf => ?_⟩
  · have hlength : ((failures ++ [now]).length : Int) = b.failures + 1 := by simp [h.count]
    rw [hlength]
    by_cases hlt : (b.failures : Int) + 1 < b.threshold
    · -- a breaker that stays below the threshold was below it before
      have hphase : b.phase = .closed := h.closed.mpr (Or.inr (by have := h.count; omega))
      simp [hlt, hphase]
    · simp [hlt]
  · simp only at hhalf
    split at hhalf <;> cases hhalf

/-- What a breaker is told or asked keeps it in step with the failures. -/
theorem Reflects.serve (h : b.Reflects failures clock) (now : τ) (r : Request) :
    (b.serve now r).2.Reflects (if r.clears then [] else if r = .fail then failures ++ [now] else failures)
      (clock ++ [now]) := by
  cases r with
  | fail => exact h.fail now
  | succeed => exact reflects_closed rfl rfl rfl
  | reset => exact reflects_closed rfl rfl rfl
  | phase => exact h.read now
  | isOpen => exact h.read now
  | allow => exact h.read now
  | status => exact h.read now

/-- Every breaker is in step with the failures that it was told of. -/
theorem reflects_past (name : String) (threshold : Int) (cooldown : τ) (xs : List (τ × Request)) :
    ((fresh name threshold cooldown).past xs).Reflects (strikes xs) (xs.map Prod.fst) := by
  induction xs using List.reverseRecOn with
  | nil => exact reflects_fresh name threshold cooldown
  | append_singleton xs x ih =>
    obtain ⟨t, r⟩ := x
    rw [past_snoc, strikes_snoc, List.map_append]
    exact ih.serve t r

/-! ## What stays the same -/

/-- The name of a breaker and its bounds. -/
def bounds (b : Breaker τ) : String × Int × τ := (b.name, b.threshold, b.cooldown)

@[simp] theorem bounds_read (b : Breaker τ) (now : τ) : (b.read now).1.bounds = b.bounds := by
  rcases b.read_eq now with ⟨-, hr⟩ | ⟨-, -, hr⟩
  · rw [hr]
  · rw [hr]; rfl

omit [Scalar τ] in
@[simp] theorem bounds_fail (b : Breaker τ) (now : τ) : (b.fail now).1.bounds = b.bounds := by
  rw [fail_eq]
  rfl

theorem bounds_serve (b : Breaker τ) (now : τ) (r : Request) : (b.serve now r).2.bounds = b.bounds := by
  cases r with
  | fail => exact bounds_fail b now
  | succeed => rfl
  | reset => rfl
  | phase => exact bounds_read b now
  | isOpen => exact bounds_read b now
  | allow => exact bounds_read b now
  | status => exact bounds_read b now

theorem bounds_past (b : Breaker τ) (xs : List (τ × Request)) : (b.past xs).bounds = b.bounds := by
  induction xs using List.reverseRecOn with
  | nil => rfl
  | append_singleton xs x ih => rw [past_snoc, bounds_serve, ih]

/-! ## Answers -/

variable [Scalar.Lawful τ]

/-- A breaker that is not closed is found open until it has cooled down since the last failure, and half open after
that. -/
theorem Reflects.phase_read_of_ne_closed (h : b.Reflects failures clock) {now f : τ} (hclock : ∀ t ∈ clock, t ≤ now)
    (hlast : failures.getLast? = some f) (hphase : b.phase ≠ .closed) :
    (b.read now).1.phase = if now - f < b.cooldown then .opened else .halfOpen := by
  rcases b.read_eq now with ⟨hcool, hr⟩ | ⟨-, ⟨f', hf', hcooled⟩, hr⟩
  · rw [hr]
    cases hphase' : b.phase with
    | closed => exact absurd hphase' hphase
    | opened =>
      have hnot : ¬ b.cooldown ≤ now - f := fun hle => by
        simp only [Breaker.cooled, hphase', h.last, hlast, hle, decide_true] at hcool
        cases hcool
      rw [if_pos (Scalar.Lawful.lt_iff_not_le.mpr hnot)]
    | halfOpen =>
      obtain ⟨t, ht, f', hf', hcooled⟩ := h.cooled hphase'
      rw [hlast] at hf'
      cases hf'
      -- the clock has moved on since the breaker was seen to have cooled down
      have hstill : b.cooldown ≤ now - f :=
        Scalar.Lawful.le_trans hcooled (Scalar.Lawful.sub_le_sub f (hclock t ht))
      rw [if_neg fun hlt => Scalar.Lawful.lt_iff_not_le.mp hlt hstill]
  · rw [h.last, hlast] at hf'
    cases hf'
    rw [hr, if_neg fun hlt => Scalar.Lawful.lt_iff_not_le.mp hlt hcooled]

/-- The phase that a look finds. -/
theorem Reflects.phase_read (h : b.Reflects failures clock) {now : τ} (hclock : ∀ t ∈ clock, t ≤ now) :
    (b.read now).1.phase = phaseAfter b.threshold b.cooldown failures now := by
  have hread : b.phase = .closed → (b.read now).1.phase = .closed := fun hphase => by
    rcases b.read_eq now with ⟨-, hr⟩ | ⟨hopened, -⟩
    · rw [hr]; exact hphase
    · rw [hphase] at hopened; cases hopened
  unfold phaseAfter
  cases hlast : failures.getLast? with
  | none => exact hread (h.closed.mpr (Or.inl (List.getLast?_eq_none_iff.mp hlast)))
  | some f =>
    have hne : failures ≠ [] := fun hnil => by rw [hnil] at hlast; cases hlast
    have hclosed : b.phase = .closed ↔ (failures.length : Int) < b.threshold := h.closed.trans (or_iff_right hne)
    dsimp only
    by_cases hlt : (failures.length : Int) < b.threshold
    · rw [if_pos hlt]
      exact hread (hclosed.mpr hlt)
    · rw [if_neg hlt]
      exact h.phase_read_of_ne_closed hclock hlast fun hphase => hlt (hclosed.mp hphase)

/-- A breaker answers as its failures say. -/
theorem Reflects.answer (h : b.Reflects failures clock) {now : τ} (hclock : ∀ t ∈ clock, t ≤ now) (r : Request) :
    (b.serve now r).1 = answerAfter b.name b.threshold b.cooldown failures now r := by
  have hphase := h.phase_read hclock
  have hcount := (h.read now).count
  have hbounds := bounds_read b now
  simp only [bounds, Prod.mk.injEq] at hbounds
  obtain ⟨hname, hthreshold, hcooldown⟩ := hbounds
  cases r with
  | fail => rfl
  | succeed => rfl
  | reset => rfl
  | phase => simp only [Breaker.serve, answerAfter, hphase]
  | isOpen =>
    simp only [Breaker.serve, answerAfter, isOpen, hphase]
    cases phaseAfter b.threshold b.cooldown failures now <;> rfl
  | allow =>
    simp only [Breaker.serve, answerAfter, isOpen, hphase]
    cases phaseAfter b.threshold b.cooldown failures now <;> rfl
  | status => simp only [Breaker.serve, answerAfter, account, hphase, hcount, hname, hthreshold, hcooldown]

/-- **A breaker in closed form.** After any requests at times that do not go back, every answer is the one that the
failures since the last success or reset lead to. So two histories that differ only in how often the breaker was
looked at lead to the same answers. -/
theorem answer_eq_closed_form (name : String) (threshold : Int) (cooldown : τ) (xs : List (τ × Request)) (now : τ)
    (hclock : (xs.map Prod.fst ++ [now]).Pairwise (· ≤ ·)) (r : Request) :
    (((fresh name threshold cooldown).past xs).serve now r).1 =
        answerAfter name threshold cooldown (strikes xs) now r ∧
      ∀ ys : List (τ × Request), (ys.map Prod.fst ++ [now]).Pairwise (· ≤ ·) →
        (ys.filter fun y => !y.2.isLook) = (xs.filter fun x => !x.2.isLook) →
        (((fresh name threshold cooldown).past ys).serve now r).1 =
          (((fresh name threshold cooldown).past xs).serve now r).1 := by
  have hform (zs : List (τ × Request)) (hz : (zs.map Prod.fst ++ [now]).Pairwise (· ≤ ·)) :
      (((fresh name threshold cooldown).past zs).serve now r).1 =
        answerAfter name threshold cooldown (strikes zs) now r := by
    have hbounds := bounds_past (fresh name threshold cooldown) zs
    simp only [bounds, Prod.mk.injEq] at hbounds
    obtain ⟨hname, hthreshold, hcooldown⟩ := hbounds
    rw [(reflects_past name threshold cooldown zs).answer
      (fun t ht => (List.pairwise_append.mp hz).2.2 t ht now (List.mem_singleton_self now)) r, hname, hthreshold,
      hcooldown]
    rfl
  refine ⟨hform xs hclock, fun ys hys hsame => ?_⟩
  rw [hform ys hys, hform xs hclock, ← strikes_filter ys, hsame, strikes_filter]

/-- A breaker that opens at the second failure, is seen half open, and fails again. -/
def relapse : List (Rat × Request) := [(0, .fail), (1, .fail), (12, .phase), (13, .fail), (14, .isOpen)]

/-- The cooldown counts from the last failure, whoever has looked. -/
theorem answer_eq_closed_form_of_relapse :
    (relapse.map Prod.fst ++ [22]).Pairwise (· ≤ ·) ∧
      ((((fresh "push" 2 10).past relapse).serve (22 : Rat) .isOpen).1 = .verdict true) ∧
      (((fresh "push" 2 10).past [(0, .fail), (1, .fail), (13, .fail)]).serve (22 : Rat) .isOpen).1 =
        (((fresh "push" 2 10).past relapse).serve (22 : Rat) .isOpen).1 := by
  have hclock : (relapse.map Prod.fst ++ [22]).Pairwise (· ≤ ·) := by decide
  obtain ⟨hanswer, hsame⟩ := answer_eq_closed_form "push" 2 (10 : Rat) relapse 22 hclock .isOpen
  refine ⟨hclock, hanswer.trans ?_, hsame _ (by decide) rfl⟩
  have hstrikes : strikes relapse = [0, 1, 13] := by rfl
  rw [hstrikes]
  with_unfolding_all rfl

end Breaker

end MediaWatch
