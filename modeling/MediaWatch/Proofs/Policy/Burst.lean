import MediaWatch.Proofs.Policy.Line

/-!
# A burst of callers

Callers who arrive together are served one after the other, each by an acquisition of its own (`Line.served`). With
sleeps that last exactly as long as asked (`Bucket.punctual`), the first caller has its permit as soon as there can be
one, after one sleep at most (`Bucket.Sound.acquire_punctual`), and what is due to the others has not changed by then
(`Bucket.Sound.dueAt_afterFirst`). By induction on the callers each is admitted at the time that its place in line gives
(`Line.serve_eq_timetable`), which is a run of the line (`Line.exists_run_of_sound`). So it is from any state that a line
can come to (`Line.admitted_when_due`).
-/

namespace MediaWatch

/-! ## The first caller -/

namespace Bucket

/-- A sleeper whose sleeps last exactly as long as asked. It keeps the time and its sleeps, the latest first. -/
def punctual : Sleeper (ℚ × List ℚ) ℚ := ⟨Prod.fst, fun s d => some (s.1 + max 0 d, d :: s.2)⟩

theorem steady_punctual : punctual.Steady := by
  intro s d s' hsleep
  obtain rfl := Option.some.inj hsleep
  exact le_add_of_nonneg_right (le_max_left 0 d)

/-- When there is a permit for the caller in a place, the first place being 1, if the callers come at a time. -/
def dueAt (b : Bucket ℚ) (now : ℚ) (place : ℕ) : ℚ := now + max 0 ((place - (b.refill now).tokens) / b.rate)

/-- A bucket whose first caller has had its permit, at the time that was due. -/
def afterFirst (b : Bucket ℚ) (now : ℚ) : Bucket ℚ :=
  { b with tokens := max 0 ((b.refill now).tokens - 1), updatedAt := b.dueAt now 1 }

variable {b : Bucket ℚ} {now : ℚ} {place : ℕ}

theorem ask_eq_wait (htokens : (b.refill now).tokens < 1) :
    b.ask now = (.wait ((1 - (b.refill now).tokens) / b.rate), b.refill now) := if_pos htokens

theorem ask_eq_granted (htokens : 1 ≤ (b.refill now).tokens) :
    b.ask now = (.granted, { b.refill now with tokens := (b.refill now).tokens - 1 }) := if_neg (not_lt.mpr htokens)

/-- A permit that is there is due at once. -/
theorem Sound.dueAt_of_le (h : b.Sound) (hplace : place ≤ (b.refill now).tokens) : b.dueAt now place = now := by
  have hthere : (place - (b.refill now).tokens) / b.rate ≤ 0 :=
    div_nonpos_of_nonpos_of_nonneg (sub_nonpos.mpr hplace) h.rate_pos.le
  rw [dueAt, max_eq_left hthere, add_zero]

/-- One that is not there is due when it has come in. -/
theorem Sound.dueAt_of_ge (h : b.Sound) (hplace : (b.refill now).tokens ≤ place) :
    b.dueAt now place = now + (place - (b.refill now).tokens) / b.rate := by
  rw [dueAt, max_eq_right (div_nonneg (sub_nonneg.mpr hplace) h.rate_pos.le)]

theorem Sound.dueAt_zero (h : b.Sound) (now : ℚ) : b.dueAt now 0 = now :=
  h.dueAt_of_le (by exact_mod_cast (h.refill now).nonneg)

/-- Looking again at the same time shows the same. -/
theorem Sound.tokens_refill_self (h : b.Sound) : (b.refill b.updatedAt).tokens = b.tokens := by
  rw [tokens_refill_of_le (le_refl _), sub_self, zero_mul, add_zero, min_eq_right h.le_capacity]

theorem Sound.afterFirst (h : b.Sound) (now : ℚ) : (b.afterFirst now).Sound := by
  refine ⟨h.capacity, h.interval, h.rate, le_max_left _ _, max_le (zero_le_one.trans h.capacity) ?_⟩
  show (b.refill now).tokens - 1 ≤ b.capacity
  have hle : (b.refill now).tokens ≤ b.capacity := (h.refill now).le_capacity
  linarith

/-- The first permit changes nothing for the others: who comes next then is due when it was due before. -/
theorem Sound.dueAt_afterFirst (h : b.Sound) (now : ℚ) :
    (b.afterFirst now).dueAt (b.dueAt now 1) = fun place => b.dueAt now (place + 1) := by
  funext place
  have hleft : ((b.afterFirst now).refill (b.dueAt now 1)).tokens = max 0 ((b.refill now).tokens - 1) :=
    (h.afterFirst now).tokens_refill_self
  show b.dueAt now 1 + max 0 ((place - ((b.afterFirst now).refill (b.dueAt now 1)).tokens) / b.rate) = _
  rw [hleft]
  rcases le_total 1 (b.refill now).tokens with hone | hone
  · rw [h.dueAt_of_le (by exact_mod_cast hone), max_eq_right (sub_nonneg.mpr hone), dueAt]
    congr 3
    push_cast
    ring
  · have hlater : (b.refill now).tokens ≤ (place + 1 : ℕ) := hone.trans (by exact_mod_cast Nat.le_add_left 1 place)
    rw [h.dueAt_of_ge (by exact_mod_cast hone), max_eq_left (sub_nonpos.mpr hone), sub_zero, h.dueAt_of_ge hlater,
      max_eq_right (div_nonneg (Nat.cast_nonneg place) h.rate_pos.le), add_assoc, ← add_div]
    congr 2
    push_cast
    ring

/-- A caller who is told to wait, and sleeps exactly so long, finds one permit. -/
theorem Sound.tokens_after_wait (h : b.Sound) (hone : b.tokens ≤ 1) :
    (b.refill (b.updatedAt + (1 - b.tokens) / b.rate)).tokens = 1 := by
  have hwait : 0 ≤ (1 - b.tokens) / b.rate := div_nonneg (sub_nonneg.mpr hone) h.rate_pos.le
  rw [tokens_refill_of_le (le_add_of_nonneg_right hwait), add_sub_cancel_left, div_mul_cancel₀ _ h.rate_pos.ne',
    add_sub_cancel, min_eq_right h.capacity]

/-- Buckets that look the same at a time have the same permits due from then on. -/
theorem dueAt_eq_of_refill {b' : Bucket ℚ} (hsame : b'.refill now = b.refill now) : b'.dueAt now = b.dueAt now :=
  funext fun place => congrArg (fun c : Bucket ℚ => now + max 0 ((place - c.tokens) / c.rate)) hsame

/-- A caller who sleeps until there is a permit holds up nobody: what is due when it wakes up was due before, the first
permit being its own. -/
theorem Sound.dueAt_wake (h : b.Sound) (hnow : b.updatedAt ≤ now) (hone : b.tokens < 1)
    (hwake : now ≤ b.updatedAt + (1 - b.tokens) / b.rate) (place : ℕ) :
    b.dueAt (b.updatedAt + (1 - b.tokens) / b.rate) place = b.dueAt now (max 1 place) := by
  have hrate := h.rate_pos
  have hatWake : (b.refill (b.updatedAt + (1 - b.tokens) / b.rate)).tokens = 1 := h.tokens_after_wait hone.le
  have hin : (now - b.updatedAt) * b.rate ≤ 1 - b.tokens :=
    (le_div_iff₀ hrate).mp (sub_le_iff_le_add'.mpr hwake)
  have hatNow : (b.refill now).tokens = b.tokens + (now - b.updatedAt) * b.rate := by
    rw [tokens_refill_of_le hnow, min_eq_right]
    linarith [h.capacity]
  have hplace : (1 : ℚ) ≤ (max 1 place : ℕ) := by exact_mod_cast le_max_left 1 place
  have hlater : b.dueAt now (max 1 place) =
      b.updatedAt + (1 - b.tokens) / b.rate + ((max 1 place : ℕ) - 1) / b.rate := by
    rw [h.dueAt_of_ge (by linarith), hatNow]
    field_simp
    ring
  rcases Nat.eq_zero_or_pos place with rfl | hpos
  · rw [h.dueAt_zero, hlater]
    simp
  · rw [max_eq_right hpos] at hplace hlater ⊢
    rw [hlater, h.dueAt_of_ge (by rw [hatWake]; exact hplace), hatWake]

/-- The sleeps of a caller who comes at one time and is due at another. -/
def sleepsUntil (now due : ℚ) : List ℚ := if now < due then [due - now] else []

/-- An acquisition with punctual sleeps is granted when its permit is due, and has slept once until then, if at all. -/
theorem Sound.acquire_punctual (h : b.Sound) (sleeps : ℕ) (now : ℚ) :
    b.acquire punctual (sleeps + 1) (now, []) =
      (.granted, b.afterFirst now, b.dueAt now 1, sleepsUntil now (b.dueAt now 1)) := by
  rcases lt_or_ge (b.refill now).tokens 1 with htokens | htokens
  · have hdue : b.dueAt now 1 = now + (1 - (b.refill now).tokens) / b.rate := by
      rw [h.dueAt_of_ge (by exact_mod_cast htokens.le), Nat.cast_one]
    have hfound : ((b.refill now).refill (b.dueAt now 1)).tokens = 1 := by
      rw [hdue]
      exact (h.refill now).tokens_after_wait htokens.le
    have hagain : (b.refill now).ask (b.dueAt now 1) = (.granted, b.afterFirst now) := by
      rw [ask_eq_granted hfound.ge, hfound, sub_self, Bucket.afterFirst, max_eq_left (sub_nonpos.mpr htokens.le)]
      rfl
    have hwait : 0 < (1 - (b.refill now).tokens) / b.rate := div_pos (sub_pos.mpr htokens) h.rate_pos
    have hslept : sleepsUntil now (b.dueAt now 1) = [(1 - (b.refill now).tokens) / b.rate] := by
      rw [hdue, sleepsUntil, if_pos (lt_add_of_pos_right _ hwait), add_sub_cancel_left]
    rw [acquire.eq_3 punctual b (now, []) _ _ sleeps (ask_eq_wait htokens), hslept]
    show (b.refill now).acquire punctual sleeps (now + max 0 ((1 - (b.refill now).tokens) / b.rate), _) = _
    rw [max_eq_right hwait.le, ← hdue]
    exact acquire.eq_1 punctual _ _ sleeps _ hagain
  · have hdue : b.dueAt now 1 = now := h.dueAt_of_le (by exact_mod_cast htokens)
    rw [acquire.eq_1 punctual b (now, []) (sleeps + 1) _ (ask_eq_granted htokens), Bucket.afterFirst, hdue,
      max_eq_right (sub_nonneg.mpr htokens), sleepsUntil, if_neg (lt_irrefl _)]
    rfl

end Bucket

/-! ## One after the other -/

namespace Line

variable {α : Type}

/-- What comes of a caller: how and when its acquisition ends, and how long it has slept, the latest sleep first. -/
structure Served (α : Type) where
  caller : α
  ending : Bucket.Ending
  time : ℚ
  sleeps : List ℚ

/-- Callers acquire permits of a bucket, one after the other, each with at most so many sleeps. -/
def serve (sleeps : ℕ) : List α → Bucket ℚ → ℚ → List (Served α)
  | [], _, _ => []
  | caller :: rest, b, now =>
    let (ending, b, now, slept) := b.acquire Bucket.punctual sleeps (now, [])
    ⟨caller, ending, now, slept⟩ :: serve sleeps rest b now

/-- What comes of the callers in line, the first of whom comes to the bucket at a time, at first or after a sleep. -/
def served (l : Line ℚ α) (sleeps : ℕ) (now : ℚ) : List (Served α) := serve sleeps l.callers l.bucket now

/-- Callers who are all granted a permit, each when it is due, and who sleep only until then. -/
def timetable (due : ℕ → ℚ) (callers : List α) : List (Served α) :=
  callers.mapIdx fun i caller => ⟨caller, .granted, due (i + 1), Bucket.sleepsUntil (due i) (due (i + 1))⟩

/-- Callers are served when their permits are due. -/
theorem serve_eq_timetable {b : Bucket ℚ} (h : b.Sound) (sleeps : ℕ) (callers : List α) (now : ℚ) :
    serve (sleeps + 1) callers b now = timetable (b.dueAt now) callers := by
  induction callers generalizing b now with
  | nil => rfl
  | cons caller rest ih =>
    rw [serve, h.acquire_punctual]
    show _ :: serve (sleeps + 1) rest (b.afterFirst now) (b.dueAt now 1) = _
    rw [ih (h.afterFirst now), h.dueAt_afterFirst, timetable, timetable, List.mapIdx_cons, zero_add, h.dueAt_zero]

/-- Moves between two times, and then others from the second one on. -/
theorem Between.append {a m z : ℚ} {xs ys : List (ℚ × Move α)} (hxs : Between a m xs) (hys : Between m z ys) :
    Between a z (xs ++ ys) := by
  obtain ⟨hlater, hsorted⟩ := List.pairwise_cons.mp hys
  obtain ⟨hstart, hbefore⟩ := List.pairwise_cons.mp (hxs.from_le (le_refl a))
  have hend : ∀ x ∈ xs, ∀ t ∈ ys.map Prod.fst ++ [z], x.1 ≤ t :=
    fun x hx t ht => (hxs.forall_le x hx).trans (hlater t ht)
  rw [Between, List.map_append, List.append_assoc, List.pairwise_cons, List.pairwise_append]
  refine ⟨fun t ht => ?_, hbefore, hsorted, ?_⟩
  · exact (List.mem_append.mp ht).elim (hstart t) fun ht => hxs.le.trans (hlater t ht)
  · exact List.forall_mem_map.mpr hend

/-- What callers are served so is a run of their line: they take their turns, and are admitted in their order. -/
theorem exists_run_of_sound {l : Line ℚ α} (h : l.bucket.Sound) (now : ℚ) :
    ∃ ys, Between now (l.bucket.dueAt now l.callers.length) ys ∧ (l.run ys).callers = [] ∧
      (l.run ys).admitted =
        ((timetable (l.bucket.dueAt now) l.callers).map fun s => (s.caller, s.time)).reverse ++ l.admitted := by
  induction hcallers : l.callers generalizing l now with
  | nil => exact ⟨[], by simp [Between, h.dueAt_zero], hcallers, rfl⟩
  | cons caller rest ih =>
    have hacquires := Bucket.acquires_acquire Bucket.punctual 1 l.bucket (now, [])
    rw [h.acquire_punctual 0 now] at hacquires
    obtain ⟨xs, hxs, hbucket, hleft, hadmitted⟩ := run_of_acquires Bucket.steady_punctual hacquires rfl hcallers
    rw [if_neg (by simp)] at hleft
    rw [if_pos rfl] at hadmitted
    obtain ⟨ys, hys, hnobody, hall⟩ := ih (l := l.run xs) (hbucket ▸ h.afterFirst now) (l.bucket.dueAt now 1) hleft
    have hrun : l.run (xs ++ ys) = (l.run xs).run ys := List.foldl_append
    rw [hbucket, h.dueAt_afterFirst] at hys hall
    refine ⟨xs ++ ys, hxs.append hys, hrun ▸ hnobody, ?_⟩
    rw [hrun, hall, hadmitted, timetable, timetable, List.mapIdx_cons, List.map_cons, List.reverse_cons,
      List.append_assoc]
    rfl

/-! ## Arrivals and waiting -/

/-- Callers arrive together. -/
def arrivals (now : ℚ) (callers : List α) : List (ℚ × Move α) := callers.map fun caller => (now, .arrive caller)

theorem run_arrivals (l : Line ℚ α) (now : ℚ) (callers : List α) :
    l.run (arrivals now callers) = { l with callers := l.callers ++ callers } := by
  induction callers generalizing l with
  | nil => simp [arrivals, run]
  | cons caller rest ih =>
    rw [arrivals, List.map_cons, run_cons, ← arrivals, ih]
    simp [step]

/-- A line stays sound, whatever its clock does. -/
theorem sound_run {l : Line ℚ α} (h : l.bucket.Sound) (xs : List (ℚ × Move α)) :
    (l.run xs).bucket.Sound ∧ (l.run xs).bucket.measure = l.bucket.measure := by
  induction xs generalizing l with
  | nil => exact ⟨h, rfl⟩
  | cons x xs ih =>
    have hstep : (l.step x.1 x.2).bucket.Sound ∧ (l.step x.1 x.2).bucket.measure = l.bucket.measure := by
      rcases l.step_cases x.1 x.2 with ⟨-, hbucket | hbucket⟩ | ⟨htokens, hbucket, -⟩ <;> rw [hbucket]
      · exact ⟨h, rfl⟩
      · exact ⟨h.refill x.1, rfl⟩
      · exact ⟨⟨h.capacity, h.interval, h.rate, sub_nonneg.mpr (not_lt.mp htokens),
          (sub_le_self _ zero_le_one).trans (h.refill x.1).le_capacity⟩, rfl⟩
    obtain ⟨hsound, hmeasure⟩ := ih hstep.1
    exact ⟨hsound, hmeasure.trans hstep.2⟩

/-- A turn after which the first caller sleeps. -/
theorem turn_of_asleep {l : Line ℚ α} {asked d : ℚ} (hcallers : l.callers ≠ [])
    (hasleep : (l.turn asked).asleep = some d) :
    (l.turn asked).bucket = l.bucket.refill asked ∧ (l.bucket.refill asked).tokens < 1 ∧
      d = (1 - (l.bucket.refill asked).tokens) / l.bucket.rate := by
  obtain ⟨caller, rest, hcons⟩ := List.exists_cons_of_ne_nil hcallers
  rcases lt_or_ge (l.bucket.refill asked).tokens 1 with htokens | htokens
  · rw [turn_of_wait hcons (Bucket.ask_eq_wait htokens)] at hasleep ⊢
    exact ⟨rfl, htokens, (Option.some.inj hasleep).symm⟩
  · rw [turn_of_granted hcons (Bucket.ask_eq_granted htokens)] at hasleep
    cases hasleep

/-- Moves of callers who come, and of others who look at the bucket. -/
def Idle (xs : List (ℚ × Move α)) : Prop := ∀ x ∈ xs, x.2 = .look ∨ ∃ caller, x.2 = .arrive caller

/-- Nobody is admitted by them. -/
theorem admitted_run_of_idle (l : Line ℚ α) {xs : List (ℚ × Move α)} (hxs : Idle xs) :
    (l.run xs).admitted = l.admitted := by
  induction xs generalizing l with
  | nil => rfl
  | cons x xs ih =>
    obtain ⟨hx, hrest⟩ := List.forall_mem_cons.mp hxs
    have hstep : (l.step x.1 x.2).admitted = l.admitted := by
      rcases hx with hx | ⟨caller, hx⟩ <;> rw [hx] <;> rfl
    exact (ih (l.step x.1 x.2) hrest).trans hstep

/-- Looking in between makes no difference later. -/
theorem refill_run_of_idle {l : Line ℚ α} (h : l.bucket.Sound) {xs : List (ℚ × Move α)} (hxs : Idle xs) {now : ℚ}
    (hclock : Between l.bucket.updatedAt now xs) {later : ℚ} (hlater : now ≤ later) :
    (l.run xs).bucket.refill later = l.bucket.refill later := by
  rcases bucket_run_of_no_grant h (hclock.from_le (le_refl _)) (l.admitted_run_of_idle hxs) with hrun | ⟨x, hx, hrun⟩
  · rw [hrun]
  · have hsince : l.bucket.updatedAt ≤ x.1 :=
      (List.pairwise_cons.mp (hclock.from_le (le_refl _))).1 x.1 (List.mem_map_of_mem hx)
    rw [hrun, h.refill_refill hsince ((hclock.forall_le x hx).trans hlater)]

/-- The first caller sleeps, and looks and arrivals go on up to a time before it wakes up. What is due when it wakes up
was due at that time, the first permit being its own. -/
theorem dueAt_wake {l : Line ℚ α} (h : l.bucket.Sound) {asked d now : ℚ} {ys : List (ℚ × Move α)}
    (hcallers : l.callers ≠ []) (hasleep : (l.turn asked).asleep = some d) (hidle : Idle ys)
    (hbetween : Between asked now ys) (hwake : now ≤ asked + d) :
    let waiting := ((l.turn asked).run ys).bucket
    waiting.Sound ∧ waiting.measure = l.bucket.measure ∧
      waiting.dueAt (asked + d) = fun place => waiting.dueAt now (max 1 place) := by
  intro waiting
  obtain ⟨hturn, htokens, rfl⟩ := turn_of_asleep hcallers hasleep
  have hrefilled : (l.turn asked).bucket.Sound := hturn ▸ h.refill asked
  have hclock : Between (l.turn asked).bucket.updatedAt now ys := hturn ▸ hbetween
  have hlater {later : ℚ} (hle : now ≤ later) : waiting.dueAt later = (l.bucket.refill asked).dueAt later :=
    Bucket.dueAt_eq_of_refill (hturn ▸ refill_run_of_idle hrefilled hidle hclock hle)
  obtain ⟨hsound, hmeasure⟩ := sound_run hrefilled ys
  have hkept : (l.turn asked).bucket.measure = l.bucket.measure := by
    rw [hturn]
    rfl
  refine ⟨hsound, hmeasure.trans hkept, ?_⟩
  rw [hlater hwake, hlater (le_refl now)]
  exact funext ((h.refill asked).dueAt_wake hbetween.le htokens hwake)

/-! ## Everyone is admitted in time -/

/-- **Callers are admitted when their permits are due.** Start with a full bucket, let a line at it come to any state,
and let callers arrive together while all sleeps last exactly as long as asked. Counted from the permits that are there
at that time, the one for each place in line is due when it has come in, at once if it is there. Then

* if nobody stands in line, those who arrive are admitted in their order, each when the permit for its place is due.
  Each has slept from when it was first until then, in one sleep or none, however many it is allowed;
* if the first in line was told to wait and sleeps, those in line and those who arrive are all admitted so, in their
  order. The first of them wakes up when its permit is due.

Serving callers one after the other is a run of the line, in which they take their turns. -/
theorem admitted_when_due {capacity interval : ℚ} (hcapacity : 1 ≤ capacity) (hinterval : 0 < interval) (start : ℚ) :
    ∃ b, Bucket.full? capacity interval start = some b ∧
      ∀ (α : Type) (xs : List (ℚ × Move α)) (now : ℚ) (callers : List α) (sleeps : ℕ),
        let l := (Line.empty b).run xs
        let due (l : Line ℚ α) (place : ℕ) : ℚ :=
          now + max 0 ((place - (l.bucket.refill now).tokens) / (capacity / interval))
        (l.callers = [] →
          (l.run (arrivals now callers)).served (sleeps + 1) now = timetable (due l) callers) ∧
        (∀ (asked d : ℚ) (ys : List (ℚ × Move α)),
          l.callers ≠ [] → (l.turn asked).asleep = some d → Idle ys → Between asked now ys → now ≤ asked + d →
            let waiting := (l.turn asked).run ys
            (waiting.run (arrivals now callers)).served (sleeps + 1) (asked + d) =
              timetable (fun place => due waiting (max 1 place)) (waiting.callers ++ callers)) ∧
        ∃ later ys, Between now later ys ∧ (l.run ys).callers = [] ∧
          (l.run ys).admitted =
            ((l.served (sleeps + 1) now).map fun s => (s.caller, s.time)).reverse ++ l.admitted := by
  obtain ⟨b, hfull, hkeeps, -, hmeasure⟩ := Bucket.keeps_full hcapacity hinterval start
  refine ⟨b, hfull, fun α xs now callers sleeps => ?_⟩
  obtain ⟨hsound, hsame⟩ := sound_run (l := Line.empty b) (α := α) hkeeps.sound xs
  intro l due
  have hdue : ∀ l' : Line ℚ α, l'.bucket.Sound → l'.bucket.measure = b.measure → l'.bucket.dueAt now = due l' := by
    intro l' hsound' hmeasure'
    obtain ⟨hcap, hint⟩ := Prod.mk.inj (hmeasure'.trans hmeasure)
    funext place
    rw [Bucket.dueAt, hsound'.rate, hcap, hint]
  refine ⟨fun hnobody => ?_, fun asked d ys hcallers hasleep hidle hbetween hwake => ?_, ?_⟩
  · rw [run_arrivals, served, hnobody, List.nil_append, ← hdue l hsound hsame]
    exact serve_eq_timetable hsound sleeps callers now
  · intro waiting
    obtain ⟨hwaiting, hlike, hlast⟩ := dueAt_wake hsound hcallers hasleep hidle hbetween hwake
    rw [run_arrivals, served, serve_eq_timetable hwaiting, hlast, hdue waiting hwaiting (hlike.trans hsame)]
  · obtain ⟨ys, hys, hrun⟩ := exists_run_of_sound hsound now
    rw [served, serve_eq_timetable hsound]
    exact ⟨_, ys, hys, hrun⟩

/-- Two permits a minute, of which one and two thirds are there when three callers arrive: the first has one at once.
When two callers more arrive while one sleeps, all three are admitted half a minute apart. -/
theorem admitted_when_due_of_three :
    ∃ b, Bucket.full? (2 : ℚ) 60 0 = some b ∧
      ((Line.empty b).run (α := ℕ) [(0, .arrive 0), (0, .turn), (15, .look)]).callers = [] ∧
      (((Line.empty b).run [(0, .arrive 0), (0, .turn), (15, .look)]).run (arrivals 20 [1, 2, 3])).served 1 20 =
        [⟨1, .granted, 20, []⟩, ⟨2, .granted, 30, [10]⟩, ⟨3, .granted, 60, [30]⟩] ∧
      let l := (Line.empty b).run (α := ℕ) [(0, .arrive 0), (0, .turn), (0, .arrive 1), (0, .turn), (5, .arrive 2)]
      l.callers ≠ [] ∧ (l.turn 6).asleep = some 24 ∧ Idle (α := ℕ) [(7, .look)] ∧
        Between (α := ℕ) 6 10 [(7, .look)] ∧ (10 : ℚ) ≤ 6 + 24 ∧
        (((l.turn 6).run [(7, .look)]).run (arrivals 10 [3, 4])).served 1 (6 + 24) =
          [⟨2, .granted, 30, []⟩, ⟨3, .granted, 60, [30]⟩, ⟨4, .granted, 90, [30]⟩] := by
  obtain ⟨b, hfull, hrun⟩ := @admitted_when_due 2 60 (by decide) (by decide) 0
  have hb : b = ⟨2, 60, 2 / 60, 2, 0⟩ := (Option.some.inj hfull).symm
  subst hb
  have hnobody : ((Line.empty ⟨2, 60, 2 / 60, 2, 0⟩).run (α := ℕ)
      [(0, .arrive 0), ((0 : ℚ), .turn), (15, .look)]).callers = [] := by with_unfolding_all rfl
  have hsomeone : ((Line.empty ⟨2, 60, 2 / 60, 2, 0⟩).run (α := ℕ)
      [((0 : ℚ), .arrive 0), (0, .turn), (0, .arrive 1), (0, .turn), (5, .arrive 2)]).callers ≠ [] := by
    with_unfolding_all decide
  have hasleep : (((Line.empty ⟨2, 60, 2 / 60, 2, 0⟩).run (α := ℕ)
      [(0, .arrive 0), (0, .turn), (0, .arrive 1), (0, .turn), (5, .arrive 2)]).turn (6 : ℚ)).asleep = some 24 := by
    with_unfolding_all rfl
  have hidle : Idle (α := ℕ) [(7, .look)] := by simp [Idle]
  have hbetween : Between (α := ℕ) 6 10 [(7, .look)] := by norm_num [Between]
  have hwake : (10 : ℚ) ≤ 6 + 24 := by norm_num
  refine ⟨_, hfull, hnobody, ?_, hsomeone, hasleep, hidle, hbetween, hwake, ?_⟩
  · exact ((hrun ℕ _ 20 [1, 2, 3] 0).1 hnobody).trans (by with_unfolding_all rfl)
  · exact ((hrun ℕ _ 10 [3, 4] 0).2.1 6 24 _ hsomeone hasleep hidle hbetween hwake).trans (by with_unfolding_all rfl)

end Line

end MediaWatch
