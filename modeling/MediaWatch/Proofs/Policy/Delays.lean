import MediaWatch.Proofs.Policy.Line
import MediaWatch.Policy.Backoff

/-!
# Delays in closed form

A backoff caps its base at the maximum with every delay that it draws, and caps each delay once more when it has been
spread. Both come to the same as one cap on the plain power: capping before growing makes no difference to what is
capped again (`Backoff.min_mul_eq`), so after `k` delays the base gives the `k`-th one of the closed form
(`Backoff.Grown`), whatever was drawn and whenever the backoff was reset. The spread keeps a delay within its bounds
(`Backoff.spread_mem_Icc`); together they say what any history of calls leads to (`Backoff.delay_closed_form`).
-/

namespace MediaWatch.Backoff

/-! ## Calls -/

/-- What is asked of a backoff. -/
inductive Call where
  | next
  | reset
  deriving Repr, DecidableEq

section

variable {τ : Type} [Scalar τ]

/-- The backoff after a call. -/
def serve (b : Backoff τ) : Call → Backoff τ
  | .next => b.next.2
  | .reset => b.reset

/-- The backoff after calls. -/
def past (b : Backoff τ) (calls : List Call) : Backoff τ := calls.foldl serve b

theorem past_append (b : Backoff τ) (calls later : List Call) : b.past (calls ++ later) = (b.past calls).past later :=
  List.foldl_append

theorem past_snoc (b : Backoff τ) (calls : List Call) (c : Call) : b.past (calls ++ [c]) = (b.past calls).serve c :=
  b.past_append calls [c]

/-- What a backoff was made with, its random numbers included. -/
def terms (b : Backoff τ) : τ × τ × τ × τ × Option Int × List τ :=
  (b.initial, b.maximum, b.factor, b.jitter, b.maxAttempts, b.draws)

@[simp] theorem terms_serve (b : Backoff τ) (c : Call) : (b.serve c).terms = b.terms := by
  cases c <;> rfl

/-- No call changes them. -/
theorem terms_past (b : Backoff τ) (calls : List Call) : (b.past calls).terms = b.terms := by
  induction calls using List.reverseRecOn with
  | nil => rfl
  | append_singleton calls c ih => rw [past_snoc, terms_serve, ih]

end

/-- A backoff whose delays grow within bounds, with random numbers between 0 and 1. -/
structure Sensible (b : Backoff ℚ) : Prop where
  initial : 0 ≤ b.initial
  maximum : 0 ≤ b.maximum
  factor : 1 ≤ b.factor
  jitter : 0 ≤ b.jitter
  draws : ∀ r ∈ b.draws, r ∈ Set.Icc 0 1

theorem Sensible.past {b : Backoff ℚ} (h : b.Sensible) (calls : List Call) : (b.past calls).Sensible := by
  induction calls using List.reverseRecOn with
  | nil => exact h
  | append_singleton calls c ih =>
    rw [past_snoc]
    cases c <;> exact ⟨ih.initial, ih.maximum, ih.factor, ih.jitter, ih.draws⟩

/-- How many delays were drawn since the last reset. -/
def drawnSince (calls : List Call) : ℕ := (calls.rtakeWhile (· ≠ .reset)).length

theorem drawnSince_snoc (calls : List Call) (c : Call) :
    drawnSince (calls ++ [c]) = if c = .reset then 0 else drawnSince calls + 1 := by
  rw [drawnSince, List.rtakeWhile_concat]
  cases c <;> simp [drawnSince]

theorem drawnSince_append_replicate (calls : List Call) (n : ℕ) :
    drawnSince (calls ++ List.replicate n .next) = drawnSince calls + n := by
  induction n with
  | zero => simp
  | succ n ih => rw [List.replicate_succ', ← List.append_assoc, drawnSince_snoc, ih, if_neg (by decide), Nat.add_assoc]

/-! ## The base -/

/-- The delay after so many others, before it is spread. -/
def plainDelay (initial maximum factor : ℚ) (k : ℕ) : ℚ := min (initial * factor ^ k) maximum

theorem plainDelay_mono {initial factor : ℚ} (hinitial : 0 ≤ initial) (hfactor : 1 ≤ factor) (maximum : ℚ) :
    Monotone (plainDelay initial maximum factor) := by
  intro k n hle
  have hpow : factor ^ k ≤ factor ^ n := pow_le_pow_right₀ hfactor hle
  exact min_le_min_right maximum (mul_le_mul_of_nonneg_left hpow hinitial)

theorem plainDelay_nonneg {initial maximum factor : ℚ} (hinitial : 0 ≤ initial) (hmaximum : 0 ≤ maximum)
    (hfactor : 1 ≤ factor) (k : ℕ) : 0 ≤ plainDelay initial maximum factor k :=
  le_min (mul_nonneg hinitial (pow_nonneg (zero_le_one.trans hfactor) k)) hmaximum

/-- Capping a number before it grows makes no difference to what is capped again. -/
theorem min_mul_eq {maximum factor : ℚ} (hmaximum : 0 ≤ maximum) (hfactor : 1 ≤ factor) (a : ℚ) :
    min (min a maximum * factor) maximum = min (a * factor) maximum := by
  rcases le_total a maximum with hle | hle
  · rw [min_eq_left hle]
  · have hgrown : maximum ≤ maximum * factor := le_mul_of_one_le_right hmaximum hfactor
    have hfactor' : maximum * factor ≤ a * factor := mul_le_mul_of_nonneg_right hle (zero_le_one.trans hfactor)
    rw [min_eq_right hle, min_eq_right hgrown, min_eq_right (hgrown.trans hfactor')]

/-- A backoff that has drawn so many delays since it was last reset. -/
structure Grown (k : ℕ) (b : Backoff ℚ) : Prop where
  attempt : b.attempt = k
  delay : min b.base b.maximum = plainDelay b.initial b.maximum b.factor k

/-- A backoff as it is made, and after every reset. -/
theorem grown_zero {b : Backoff ℚ} (hattempt : b.attempt = 0) (hbase : b.base = b.initial) : b.Grown 0 :=
  ⟨hattempt, by rw [hbase, plainDelay, pow_zero, mul_one]⟩

theorem Grown.serve {k : ℕ} {b : Backoff ℚ} (h : b.Grown k) (hs : b.Sensible) (c : Call) :
    (b.serve c).Grown (if c = .reset then 0 else k + 1) := by
  cases c with
  | reset => exact grown_zero rfl rfl
  | next =>
    refine ⟨congrArg (· + 1) h.attempt, ?_⟩
    show min (Scalar.least (b.base * b.factor) b.maximum) b.maximum = plainDelay b.initial b.maximum b.factor (k + 1)
    calc min (Scalar.least (b.base * b.factor) b.maximum) b.maximum
        = min (b.base * b.factor) b.maximum := by rw [Scalar.least_rat, min_assoc, min_self]
      _ = min (min b.base b.maximum * b.factor) b.maximum := (min_mul_eq hs.maximum hs.factor _).symm
      _ = min (b.initial * b.factor ^ k * b.factor) b.maximum := by
          rw [h.delay, plainDelay, min_mul_eq hs.maximum hs.factor]
      _ = plainDelay b.initial b.maximum b.factor (k + 1) := by rw [plainDelay, pow_succ, mul_assoc]

/-- A backoff has grown by the delays since its last reset. -/
theorem Grown.past {b : Backoff ℚ} (h : b.Grown 0) (hs : b.Sensible) (calls : List Call) :
    (b.past calls).Grown (drawnSince calls) := by
  induction calls using List.reverseRecOn with
  | nil => exact h
  | append_singleton calls c ih =>
    rw [past_snoc, drawnSince_snoc]
    exact ih.serve (hs.past calls) c

/-! ## The spread -/

theorem Sensible.draw_mem_Icc {b : Backoff ℚ} (hs : b.Sensible) : b.draw ∈ Set.Icc (0 : ℚ) 1 := by
  rw [draw, List.getD_eq_getElem?_getD]
  cases hdraw : b.draws[b.drawn % b.draws.length]? with
  | none => exact ⟨le_refl 0, zero_le_one⟩
  | some r => exact hs.draws r (List.mem_of_getElem? hdraw)

/-- Without jitter the spread is by the factor one, like any other. -/
theorem spread_eq (b : Backoff ℚ) (delay : ℚ) : b.spread delay = delay * (1 + b.jitter * (2 * b.draw - 1)) := by
  by_cases hspreads : b.spreads = true
  · exact if_pos hspreads
  · have hjitter : b.jitter = 0 := by
      rw [spreads, Bool.or_eq_true, decide_eq_true_eq, decide_eq_true_eq, not_or] at hspreads
      exact le_antisymm (not_lt.mp hspreads.2) (not_lt.mp hspreads.1)
    rw [spread, if_neg hspreads, hjitter, zero_mul, add_zero, mul_one]

/-- A delay is spread by the jitter at most, to either side. -/
theorem Sensible.spread_mem_Icc {b : Backoff ℚ} (hs : b.Sensible) {delay : ℚ} (hdelay : 0 ≤ delay) :
    b.spread delay ∈ Set.Icc (delay * (1 - b.jitter)) (delay * (1 + b.jitter)) := by
  obtain ⟨hlow, hhigh⟩ := hs.draw_mem_Icc
  have hleast : b.jitter * (-1) ≤ b.jitter * (2 * b.draw - 1) := mul_le_mul_of_nonneg_left (by linarith) hs.jitter
  have hmost : b.jitter * (2 * b.draw - 1) ≤ b.jitter * 1 := mul_le_mul_of_nonneg_left (by linarith) hs.jitter
  rw [spread_eq]
  exact ⟨mul_le_mul_of_nonneg_left (by linarith) hdelay, mul_le_mul_of_nonneg_left (by linarith) hdelay⟩

/-- The delay that is drawn next, and the cap on it. -/
theorem next_eq (b : Backoff ℚ) : b.next.1 = max 0 (min (b.spread (min b.base b.maximum)) b.maximum) := by
  rw [← Scalar.clamp_rat, ← Scalar.least_rat, ← Scalar.least_rat]
  rfl

/-- A delay that is drawn is that of the plain power, capped once, give or take the jitter. -/
theorem Grown.next_mem_Icc {k : ℕ} {b : Backoff ℚ} (h : b.Grown k) (hs : b.Sensible) :
    let d := plainDelay b.initial b.maximum b.factor k
    b.next.1 ∈ Set.Icc (max 0 (d * (1 - b.jitter))) (min b.maximum (d * (1 + b.jitter))) := by
  intro d
  have hd : 0 ≤ d := plainDelay_nonneg hs.initial hs.maximum hs.factor k
  have hcap : d ≤ b.maximum := min_le_right _ _
  have hlow : d * (1 - b.jitter) ≤ d := mul_le_of_le_one_right hd (sub_le_self 1 hs.jitter)
  have hhigh : 0 ≤ d * (1 + b.jitter) := mul_nonneg hd (add_nonneg zero_le_one hs.jitter)
  obtain ⟨hleast, hmost⟩ := hs.spread_mem_Icc hd
  rw [next_eq, h.delay]
  refine ⟨max_le_max_left 0 (le_min hleast (hlow.trans hcap)), le_min ?_ ?_⟩
  · exact max_le hs.maximum (min_le_right _ _)
  · exact max_le hhigh ((min_le_left _ _).trans hmost)

/-- Without jitter it is exactly that. -/
theorem Grown.next_of_plain {k : ℕ} {b : Backoff ℚ} (h : b.Grown k) (hs : b.Sensible) (hplain : b.jitter = 0) :
    b.next.1 = plainDelay b.initial b.maximum b.factor k := by
  obtain ⟨hleast, hmost⟩ := h.next_mem_Icc hs
  rw [hplain, sub_zero, mul_one, max_le_iff] at hleast
  rw [hplain, add_zero, mul_one, le_min_iff] at hmost
  exact le_antisymm hmost.2 hleast.2

/-! ## Histories -/

/-- **Delays in closed form.** Whatever was called before, the delay that is drawn next is that of the plain power,
capped once, give or take its jitter, and neither negative nor above the maximum. Without jitter it is exactly that, and
the delays up to the next reset do not decrease. The attempts are the delays since the last reset, and they are used up
when there is a ceiling that they have reached. -/
theorem delay_closed_form {initial maximum factor jitter : ℚ} (hinitial : 0 ≤ initial) (hmaximum : 0 ≤ maximum)
    (hfactor : 1 ≤ factor) (hjitter : 0 ≤ jitter) (ceiling : Option ℤ) {draws : List ℚ}
    (hdraws : ∀ r ∈ draws, r ∈ Set.Icc 0 1) (calls : List Call) :
    let b := (fresh initial maximum factor jitter ceiling draws).past calls
    let plain := (fresh initial maximum factor 0 ceiling draws).past calls
    let d := min (initial * factor ^ drawnSince calls) maximum
    b.next.1 ∈ Set.Icc (max 0 (d * (1 - jitter))) (min maximum (d * (1 + jitter))) ∧
      plain.next.1 = d ∧ (∀ n, plain.next.1 ≤ (plain.past (List.replicate n .next)).next.1) ∧
      b.attempt = drawnSince calls ∧ (b.exhausted = true ↔ ∃ m, ceiling = some m ∧ m ≤ drawnSince calls) := by
  have hsensible (j : ℚ) (hj : 0 ≤ j) : (fresh initial maximum factor j ceiling draws).Sensible :=
    ⟨hinitial, hmaximum, hfactor, hj, hdraws⟩
  have hgrown (j : ℚ) (hj : 0 ≤ j) (history : List Call) :
      ((fresh initial maximum factor j ceiling draws).past history).Grown (drawnSince history) :=
    (grown_zero rfl rfl).past (hsensible j hj) history
  have hterms (j : ℚ) (history : List Call) := terms_past (fresh initial maximum factor j ceiling draws) history
  simp only [terms, Prod.mk.injEq] at hterms
  have hplain (history : List Call) : ((fresh initial maximum factor 0 ceiling draws).past history).next.1 =
      plainDelay initial maximum factor (drawnSince history) := by
    obtain ⟨hi, hm, hf, hj, -⟩ := hterms 0 history
    rw [(hgrown 0 le_rfl history).next_of_plain ((hsensible 0 le_rfl).past history) hj, hi, hm, hf]
    rfl
  intro b plain d
  obtain ⟨hi, hm, hf, hj, hc, -⟩ := hterms jitter calls
  refine ⟨?_, hplain calls, fun n => ?_, (hgrown jitter hjitter calls).attempt, ?_⟩
  · have hnext := (hgrown jitter hjitter calls).next_mem_Icc ((hsensible jitter hjitter).past calls)
    rw [hi, hm, hf, hj] at hnext
    exact hnext
  · rw [← past_append, hplain, hplain, drawnSince_append_replicate]
    exact plainDelay_mono hinitial hfactor maximum (Nat.le_add_right _ n)
  · rw [exhausted_iff, hc, (hgrown jitter hjitter calls).attempt]
    rfl

/-- Delays from one second, doubled up to eight and spread by a tenth, after two of them, a reset and four more: the
fifth is capped. -/
theorem delay_closed_form_of_capped :
    let calls : List Call := [.next, .next, .reset, .next, .next, .next, .next]
    let b := (fresh (1 : ℚ) 8 2 (1 / 10) (some 4) [1, 0]).past calls
    (0 : ℚ) ≤ 1 ∧ (0 : ℚ) ≤ 8 ∧ (1 : ℚ) ≤ 2 ∧ (0 : ℚ) ≤ 1 / 10 ∧ (∀ r ∈ ([1, 0] : List ℚ), r ∈ Set.Icc 0 1) ∧
      b.next.1 ∈ Set.Icc (36 / 5) 8 ∧ ((fresh (1 : ℚ) 8 2 0 (some 4) [1, 0]).past calls).next.1 = 8 ∧
      b.attempt = 4 ∧ b.exhausted = true := by
  intro calls b
  have hdraws : ∀ r ∈ ([1, 0] : List ℚ), r ∈ Set.Icc 0 1 := by simp
  obtain ⟨hnext, hplain, -, hattempt, hexhausted⟩ := delay_closed_form (by norm_num : (0 : ℚ) ≤ 1)
    (by norm_num : (0 : ℚ) ≤ 8) (by norm_num : (1 : ℚ) ≤ 2) (by norm_num : (0 : ℚ) ≤ 1 / 10) (some 4) hdraws calls
  have hsince : drawnSince calls = 4 := rfl
  rw [hsince] at hnext hplain hattempt hexhausted
  refine ⟨by norm_num, by norm_num, by norm_num, by norm_num, hdraws, ?_, hplain.trans (by norm_num), hattempt,
    hexhausted.mpr ⟨4, rfl, le_rfl⟩⟩
  norm_num at hnext ⊢
  exact hnext

end MediaWatch.Backoff
