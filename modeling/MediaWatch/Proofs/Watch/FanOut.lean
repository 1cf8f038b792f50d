import MediaWatch.Proofs.Watch.Delivery

/-!
# Fan-outs

A watcher that has something to report calls its listeners one after the other, batch by batch. The calls that are due
where it stands (`Watcher.due`) are made one at a time, however each of them ends (`Telling.answer`): a call that fails
or is late is noted, and the next one is due (`Watcher.due_notified`). When none is left the watcher goes on as it was
told to (`Watcher.Engaged`). So a sequence of reports leads to the calls that its batches ask for and to no others,
whatever the listeners do, and no listener can tell how the others have behaved (`Telling.listeners_isolated`).
-/

namespace MediaWatch

/-! ## What is reported -/

/-- Something to report: the changes of a library, or a batch for one of the hooks. -/
inductive News where
  | changes (c : Changes)
  | pushed (hook : Hook) (batch : List Event)

/-- The batches of a report. -/
def News.batches : News → List (Hook × List Event)
  | changes c => Watcher.batches c
  | pushed hook batch => [(hook, batch)]

/-- The calls of the listeners from the `i`-th on, who leave the batch as it is. -/
def callsFrom (n i : Nat) (hook : Hook) (batch : List Event) : List Call :=
  ⟨i, hook, batch, batch⟩ :: (List.range' (i + 1) (n - (i + 1))).map fun j => ⟨j, hook, batch, batch⟩

/-- The calls that a batch asks for: each listener once and in order, unless the batch is empty. -/
def callsOf (n : Nat) (b : Hook × List Event) : List Call :=
  if b.2.isEmpty then [] else (List.range n).map fun i => ⟨i, b.1, b.2, b.2⟩

section Calls

variable {n i : Nat} {hook : Hook} {batch : List Event}

theorem callsFrom_of_lt (h : i + 1 < n) :
    callsFrom n i hook batch = ⟨i, hook, batch, batch⟩ :: callsFrom n (i + 1) hook batch := by
  have hcount : n - (i + 1) = (n - (i + 1 + 1)) + 1 := by omega
  rw [callsFrom, hcount, List.range'_succ]
  rfl

theorem callsFrom_of_le (h : n ≤ i + 1) : callsFrom n i hook batch = [⟨i, hook, batch, batch⟩] := by
  have hcount : n - (i + 1) = 0 := by omega
  rw [callsFrom, hcount]
  rfl

theorem callsFrom_zero (h : 0 < n) :
    callsFrom n 0 hook batch = (List.range n).map fun i => ⟨i, hook, batch, batch⟩ := by
  obtain ⟨m, rfl⟩ : ∃ m, n = m + 1 := ⟨n - 1, by omega⟩
  rw [List.range_eq_range', List.range'_succ]
  rfl

/-- A batch asks for one call of each listener. -/
theorem callsTo_callsOf (h : i < n) (b : Hook × List Event) :
    callsTo i (callsOf n b) = if b.2.isEmpty then [] else [⟨i, b.1, b.2, b.2⟩] := by
  unfold callsOf
  split
  · rfl
  · have hone : (List.range n).filter (fun j => decide (j = i)) = [i] := by
      rw [List.filter_eq, List.count_range]
      simp [h]
    rw [callsTo, List.filter_map]
    show ((List.range n).filter fun j => decide (j = i)).map _ = _
    rw [hone]
    rfl

/-- Of several batches a listener is to get those that are not empty, in their order. -/
theorem callsTo_flatMap (h : i < n) (bs : List (Hook × List Event)) :
    callsTo i (bs.flatMap (callsOf n)) = (bs.filter (!·.2.isEmpty)).map fun b => ⟨i, b.1, b.2, b.2⟩ := by
  induction bs with
  | nil => rfl
  | cons b bs ih =>
    have hsplit : callsTo i ((b :: bs).flatMap (callsOf n)) =
        callsTo i (callsOf n b) ++ callsTo i (bs.flatMap (callsOf n)) := by
      rw [List.flatMap_cons, callsTo, List.filter_append]
      rfl
    rw [hsplit, callsTo_callsOf h, ih]
    cases hempty : b.2.isEmpty <;> simp [hempty]

end Calls

/-- Whether a listener is being called. -/
def Position.IsTelling {τ : Type} : Position τ → Prop
  | .notifying .. => True
  | _ => False

namespace Watcher

variable {τ : Type} {w v : Watcher τ}

/-! ## What the listeners are not told -/

/-- The listeners, and the time of the last event. -/
def audience (w : Watcher τ) : List String × Option τ := (w.listeners, w.lastEventAt)

section Elementary

variable (w : Watcher τ)

@[simp] theorem audience_say (n : Notice) : (w.say n).audience = w.audience := rfl

@[simp] theorem audience_sayAll (ns : List Notice) : (sayAll ns w).audience = w.audience := by
  induction ns generalizing w with
  | nil => rfl
  | cons n ns ih => exact ih (w.say n)

@[simp] theorem audience_noteStatus (s : Status) : (noteStatus s w).audience = w.audience := by
  unfold noteStatus
  split <;> rfl

@[simp] theorem audience_setStatus (s : Status) : (w.setStatus s).audience = w.audience :=
  audience_noteStatus { w with life := { w.life with status := s } } w.life.status

end Elementary

/-- A watcher has come somewhere where it calls no listener, without a word to the listeners on the way. -/
structure Silent (w v : Watcher τ) : Prop where
  audience : v.audience = w.audience
  mute : ¬ v.position.IsTelling

theorem Silent.of_eq {u : Watcher τ} (h : Silent w v) (hw : w.audience = u.audience) : Silent u v :=
  ⟨h.audience.trans hw, h.mute⟩

theorem silent_goto {p : Position τ} (w : Watcher τ) (hp : ¬ p.IsTelling) : Silent w (w.goto p) := ⟨rfl, hp⟩

theorem silent_finish (w : Watcher τ) : Silent w w.finish := by
  unfold finish
  split
  rename_i life ended _
  cases ended with
  | handedOver => exact ⟨rfl, id⟩
  | crashed =>
    refine ⟨?_, ?_⟩
    · rw [audience_noteStatus]
      rfl
    · rw [position_noteStatus]
      exact id
  | stopped =>
    refine ⟨?_, ?_⟩
    · rw [audience_noteStatus]
      rfl
    · rw [position_noteStatus]
      exact id

theorem silent_connect (url : String) (w : Watcher τ) : Silent w (w.connect url) :=
  ⟨audience_setStatus w .connecting, id⟩

theorem silent_fallBack (w : Watcher τ) : Silent w w.fallBack := by
  refine ⟨?_, id⟩
  show (setStatus .degraded _).audience = w.audience
  rw [audience_setStatus]
  split <;> rfl

section Going

variable [Scalar τ]

@[simp] theorem audience_readBreaker (now : τ) (w : Watcher τ) : (w.readBreaker now).audience = w.audience :=
  audience_sayAll { w with breaker := (w.breaker.read now).1 } _

theorem silent_nap (seconds : τ) (w : Watcher τ) : Silent w (w.nap seconds) := by
  unfold nap
  split
  · exact ⟨rfl, id⟩
  · exact silent_finish w

theorem silent_loop (now : τ) (w : Watcher τ) : Silent w (w.loop now) := by
  unfold loop
  split
  · exact silent_finish w
  · split
    · exact ⟨audience_setStatus w .polling, id⟩
    · rename_i url fallback _ _ _
      have hread : (if fallback && w.pushEnabled then w.readBreaker now else w).audience = w.audience := by
        split
        · exact audience_readBreaker now w
        · rfl
      dsimp only
      generalize (if fallback && w.pushEnabled then w.readBreaker now else w) = v at hread ⊢
      split
      · exact (silent_fallBack v).of_eq hread
      · exact (silent_connect url v).of_eq hread

theorem silent_reconnect (now : τ) (w : Watcher τ) : Silent w (w.reconnect now) := by
  refine (silent_nap _ _).of_eq ?_
  rw [audience_say, audience_setStatus, audience_readBreaker]
  rfl

theorem silent_giveUp (now : τ) (w : Watcher τ) : Silent w (w.giveUp now) := by
  unfold giveUp
  dsimp only
  split
  · exact (silent_loop now _).of_eq rfl
  · exact (silent_finish _).of_eq (audience_setStatus (w.say _) .failed)

theorem silent_sessionEnded (now : τ) (w : Watcher τ) : Silent w (w.sessionEnded now) := by
  unfold sessionEnded
  split
  · exact silent_finish w
  · have hfailed : (sayAll (w.breaker.fail now).2 { w with breaker := (w.breaker.fail now).1 }).audience = w.audience :=
      audience_sayAll _ _
    dsimp only
    generalize sayAll (w.breaker.fail now).2 { w with breaker := (w.breaker.fail now).1 } = v at hfailed ⊢
    split
    · exact (silent_giveUp now v).of_eq hfailed
    · have hread : (if v.hasFallback then v.readBreaker now else v).audience = w.audience := by
        split
        · exact (audience_readBreaker now v).trans hfailed
        · exact hfailed
      generalize (if v.hasFallback then v.readBreaker now else v) = u at hread ⊢
      split
      · exact (silent_loop now u).of_eq hread
      · exact (silent_reconnect now u).of_eq hread

/-- When the work at hand is done a watcher goes on without a word to its listeners. -/
theorem silent_goOn (now : τ) (after : After) (w : Watcher τ) : Silent w (w.goOn now after) := by
  unfold goOn
  split
  · exact silent_loop now w
  · split
    · exact (silent_nap _ _).of_eq (audience_setStatus w .idle)
    · exact silent_finish w
  · exact silent_nap _ w
  · unfold receive
    split
    · exact silent_goto w id
    · exact (silent_sessionEnded now _).of_eq rfl
  · exact silent_goto w id

theorem silent_pursue_nil (now : τ) (libraries : List Text) (after : After) (w : Watcher τ) :
    Silent w (pursue now libraries after [] w) := by
  cases libraries with
  | nil => exact silent_goOn now after w
  | cons library rest => exact silent_goto w id

/-! ## Calls that are due -/

/-- The calls that are due where a watcher stands, if no listener changes a batch. -/
def due (w : Watcher τ) : List Call :=
  match w.position with
  | .notifying d e =>
    callsFrom w.listeners.length d.listener d.hook d.batch ++ e.batches.flatMap (callsOf w.listeners.length)
  | _ => []

omit [Scalar τ] in
theorem due_eq_nil_iff : w.due = [] ↔ ¬ w.position.IsTelling := by
  unfold due
  cases hp : w.position with
  | notifying d e => simp [Position.IsTelling, callsFrom]
  | _ => simp [Position.IsTelling]

omit [Scalar τ] in
theorem due_of_notifying {d : Delivery} {e : Errand} (hp : w.position = .notifying d e) :
    w.due = callsFrom w.listeners.length d.listener d.hook d.batch ++
      e.batches.flatMap (callsOf w.listeners.length) := by
  rw [due, hp]

/-- An empty batch is passed over, wherever it stands. -/
theorem pursue_empty (now : τ) (libraries : List Text) (after : After) (hook : Hook) (rest : List (Hook × List Event))
    (w : Watcher τ) : pursue now libraries after ((hook, []) :: rest) w = pursue now libraries after rest w := rfl

theorem pursue_of_empty (now : τ) (libraries : List Text) (after : After) {bs : List (Hook × List Event)}
    (hbs : ∀ b ∈ bs, b.2 = []) (w : Watcher τ) :
    pursue now libraries after bs w = pursue now libraries after [] w := by
  induction bs with
  | nil => rfl
  | cons b bs ih =>
    obtain ⟨hook, events⟩ := b
    obtain ⟨hempty, hrest⟩ := List.forall_mem_cons.mp hbs
    obtain rfl : events = [] := hempty
    rw [pursue_empty, ih hrest]

/-- The batches of a report make the calls due that they ask for. -/
theorem due_pursue (now : τ) (libraries : List Text) (after : After) (bs : List (Hook × List Event)) (w : Watcher τ) :
    (pursue now libraries after bs w).due = bs.flatMap (callsOf w.listeners.length) := by
  induction bs generalizing w with
  | nil => exact due_eq_nil_iff.mpr (silent_pursue_nil now libraries after w).mute
  | cons b bs ih =>
    obtain ⟨hook, events⟩ := b
    rw [pursue, List.flatMap_cons]
    cases hempty : events.isEmpty with
    | true =>
      rw [if_pos rfl, ih, callsOf, if_pos hempty, List.nil_append]
    | false =>
      have hcalls : callsOf w.listeners.length (hook, events) =
          (List.range w.listeners.length).map fun i => ⟨i, hook, events, events⟩ := if_neg (by simp [hempty])
      rw [if_neg Bool.false_ne_true, hcalls]
      dsimp only
      cases hnobody : w.listeners with
      | nil =>
        rw [List.isEmpty_nil, if_pos rfl, ih]
        simp
      | cons name names =>
        rw [List.isEmpty_cons, if_neg Bool.false_ne_true, due_of_notifying rfl]
        show callsFrom (name :: names).length 0 hook events ++ bs.flatMap (callsOf (name :: names).length) = _
        rw [callsFrom_zero (by simp)]

/-- However the call of a listener ends, the next one is due. -/
theorem due_notified (now : τ) (o : Outcome) {d : Delivery} {e : Errand} (hp : w.position = .notifying d e) :
    w.due = ⟨d.listener, d.hook, d.batch, d.batch⟩ :: (w.notified now o d.batch d e).due := by
  have hgoOn (v : Watcher τ) (hv : v.listeners = w.listeners) : w.due = ⟨d.listener, d.hook, d.batch, d.batch⟩ ::
      (if d.listener + 1 < v.listeners.length
        then v.goto (.notifying { d with batch := d.batch, listener := d.listener + 1 } e)
        else pursue now e.libraries e.after e.batches v).due := by
    rw [due_of_notifying hp, hv]
    split
    · rename_i hmore
      rw [callsFrom_of_lt hmore, due_of_notifying rfl]
      show _ = _ :: (callsFrom v.listeners.length _ _ _ ++ e.batches.flatMap (callsOf v.listeners.length))
      rw [hv]
      rfl
    · rename_i hlast
      rw [callsFrom_of_le (by omega), due_pursue, hv]
      rfl
  cases o with
  | returned => exact hgoOn w rfl
  | late => exact hgoOn _ rfl
  | failed => exact hgoOn _ rfl

/-! ## Going on as told -/

omit [Scalar τ] in
/-- Whether a watcher differs from another one at most in its position, its journal and the time of its last event. -/
def Alike (w v : Watcher τ) : Prop :=
  v = { w with position := v.position, journal := v.journal, lastEventAt := v.lastEventAt }

omit [Scalar τ] in
theorem Alike.listeners (h : Alike w v) : v.listeners = w.listeners := by
  unfold Alike at h
  rw [h]

omit [Scalar τ] in
theorem Alike.goto (h : Alike w v) (p : Position τ) : Alike w (v.goto p) := by
  unfold Alike at h ⊢
  rw [h]
  rfl

omit [Scalar τ] in
theorem Alike.say (h : Alike w v) (n : Notice) : Alike w (v.say n) := by
  unfold Alike at h ⊢
  rw [h]
  rfl

omit [Scalar τ] in
theorem Alike.at (h : Alike w v) (time : Option τ) : Alike w { v with lastEventAt := time } := by
  unfold Alike at h ⊢
  rw [h]

/-- A watcher like `w` that is telling its listeners something, or has gone on as it was told to: to the next library,
or to where `after` leads. -/
inductive Engaged (libraries : List Text) (after : After) (w u : Watcher τ) : Prop
  | telling {d : Delivery} {e : Errand} : u.position = .notifying d e → e.libraries = libraries → e.after = after →
      Alike w u → Engaged libraries after w u
  | onward {v : Watcher τ} (now : τ) : Alike w v → u = pursue now libraries after [] v → Engaged libraries after w u

variable {libraries : List Text} {after : After}

theorem engaged_pursue (now : τ) (bs : List (Hook × List Event)) (hv : Alike w v) :
    Engaged libraries after w (pursue now libraries after bs v) := by
  induction bs generalizing v with
  | nil => exact .onward now hv rfl
  | cons b bs ih =>
    obtain ⟨hook, events⟩ := b
    rw [pursue]
    split
    · exact ih hv
    · dsimp only
      split
      · exact ih (hv.at (some now))
      · exact .telling rfl rfl rfl ((hv.at (some now)).goto _)

/-- However the call of a listener ends, the watcher stays engaged. -/
theorem engaged_notified (now : τ) (o : Outcome) (left : List Event) (d : Delivery) {e : Errand}
    (hlibraries : e.libraries = libraries) (hafter : e.after = after) (hv : Alike w v) :
    Engaged libraries after w (v.notified now o left d e) := by
  have hgoOn (u : Watcher τ) (hu : Alike w u) : Engaged libraries after w (if d.listener + 1 < u.listeners.length
      then u.goto (.notifying { d with batch := left, listener := d.listener + 1 } e)
      else pursue now e.libraries e.after e.batches u) := by
    split
    · exact .telling rfl hlibraries hafter (hu.goto _)
    · rw [hlibraries, hafter]
      exact engaged_pursue now e.batches hu
  cases o with
  | returned => exact hgoOn v hv
  | late => exact hgoOn (v.say _) (hv.say _)
  | failed => exact hgoOn (v.say _) (hv.say _)

/-- An engaged watcher that has made all calls has gone on. -/
theorem Engaged.onward_of_due {u : Watcher τ} (h : Engaged libraries after w u) (hdue : u.due = []) :
    ∃ v now, Alike w v ∧ u = pursue now libraries after [] v := by
  cases h with
  | telling hp _ _ _ =>
    refine absurd ?_ (due_eq_nil_iff.mp hdue)
    rw [hp]
    trivial
  | onward now hv hu => exact ⟨_, now, hv, hu⟩

end Going

end Watcher

/-! ## Telling the listeners -/

/-- How the listeners behave: when and how the `k`-th call of listener `i` ends. -/
abbrev Conduct (τ : Type) := (i k : Nat) → τ × Outcome

/-- A report, when it is given, and what the watcher is to go on with: the libraries that a sweep has left, and then
`after`. -/
structure Report (τ : Type) where
  news : News
  now : τ
  libraries : List Text
  after : After

/-- A watcher, and the calls that it has made. -/
structure Telling (τ : Type) where
  watcher : Watcher τ
  calls : List Call

namespace Telling

variable {τ : Type} [Scalar τ] (conduct : Conduct τ)

/-- The call at hand ends and leaves the batch as it is. -/
def answer (t : Telling τ) : Telling τ :=
  match t.watcher.position with
  | .notifying d _ =>
    let (now, o) := conduct d.listener (callsTo d.listener t.calls).length
    ⟨t.watcher.react now (.called o d.batch), t.calls ++ callsIn (t.watcher.deeds now (.called o d.batch))⟩
  | _ => t

/-- An answer makes the call that is due first. -/
theorem due_answer {t : Telling τ} {c : Call} {cs : List Call} (h : t.watcher.due = c :: cs) :
    (t.answer conduct).watcher.due = cs ∧ (t.answer conduct).calls = t.calls ++ [c] := by
  cases hp : t.watcher.position with
  | notifying d e =>
    generalize hanswer : conduct d.listener (callsTo d.listener t.calls).length = answered
    obtain ⟨now, o⟩ := answered
    have hreact : t.watcher.react now (.called o d.batch) = t.watcher.notified now o d.batch d e := by
      simp [Watcher.react, Watcher.carryOn, hp]
    have ht : t.answer conduct =
        ⟨t.watcher.notified now o d.batch d e, t.calls ++ [⟨d.listener, d.hook, d.batch, d.batch⟩]⟩ := by
      rw [answer, hp]
      simp only [hanswer, hreact, Watcher.callsIn_deeds_called hp]
    have hdue := Watcher.due_notified now o hp
    rw [h] at hdue
    obtain ⟨rfl, rfl⟩ := List.cons.inj hdue
    rw [ht]
    exact ⟨rfl, rfl⟩
  | _ => simp [Watcher.due, hp] at h

/-- An answer keeps the watcher engaged. -/
theorem engaged_answer {t : Telling τ} {libraries : List Text} {after : After} {w : Watcher τ}
    (h : Watcher.Engaged libraries after w t.watcher) :
    Watcher.Engaged libraries after w (t.answer conduct).watcher := by
  unfold answer
  split
  · rename_i d e hp
    have hreact (now : τ) (o : Outcome) :
        t.watcher.react now (.called o d.batch) = t.watcher.notified now o d.batch d e := by
      simp [Watcher.react, Watcher.carryOn, hp]
    show Watcher.Engaged libraries after w (t.watcher.react _ (.called _ d.batch))
    rw [hreact]
    cases h with
    | @telling d' e' hp' hlibraries hafter hlike =>
      obtain ⟨-, rfl⟩ := Position.notifying.inj (hp'.symm.trans hp)
      exact Watcher.engaged_notified _ _ _ d hlibraries hafter hlike
    | @onward v now hlike hu =>
      refine absurd ?_ (Watcher.silent_pursue_nil now libraries after v).mute
      rw [← hu, hp]
      trivial
  · exact h

theorem length_due_answer {t : Telling τ} (h : t.watcher.due ≠ []) :
    (t.answer conduct).watcher.due.length < t.watcher.due.length := by
  obtain ⟨c, cs, hdue⟩ := List.exists_cons_of_ne_nil h
  rw [(due_answer conduct hdue).1, hdue, List.length_cons]
  exact Nat.lt_succ_self _

/-- Makes the calls that are due, until there are none left. -/
def attend (t : Telling τ) : Telling τ :=
  if h : t.watcher.due = [] then t
  else
    have := length_due_answer conduct h
    attend (t.answer conduct)
termination_by t.watcher.due.length

theorem attend_of_nil {t : Telling τ} (h : t.watcher.due = []) : attend conduct t = t := by
  rw [attend, dif_pos h]

theorem attend_of_cons {t : Telling τ} {c : Call} {cs : List Call} (h : t.watcher.due = c :: cs) :
    attend conduct t = attend conduct (t.answer conduct) := by
  rw [attend, dif_neg (by simp [h])]

/-- All calls that are due are made, in their order, and the watcher stays engaged until then. -/
theorem attend_spec (t : Telling τ) : (attend conduct t).watcher.due = [] ∧
    (attend conduct t).calls = t.calls ++ t.watcher.due ∧ ∀ libraries after w,
      Watcher.Engaged libraries after w t.watcher → Watcher.Engaged libraries after w (attend conduct t).watcher := by
  induction hdue : t.watcher.due generalizing t with
  | nil =>
    rw [attend_of_nil conduct hdue]
    exact ⟨hdue, (List.append_nil _).symm, fun _ _ _ h => h⟩
  | cons c cs ih =>
    obtain ⟨hrest, hcalls⟩ := due_answer conduct hdue
    obtain ⟨hnone, hall, hengaged⟩ := ih (t.answer conduct) hrest
    rw [attend_of_cons conduct hdue]
    refine ⟨hnone, ?_, fun libraries after w h => hengaged libraries after w (engaged_answer conduct h)⟩
    rw [hall, hcalls, List.append_assoc]
    rfl

/-- Something is reported, and the listeners are called. -/
def report (t : Telling τ) (r : Report τ) : Telling τ :=
  attend conduct ⟨t.watcher.pursue r.now r.libraries r.after r.news.batches, t.calls⟩

/-- Several things are reported, one after the other. -/
def reportAll (t : Telling τ) (rs : List (Report τ)) : Telling τ := rs.foldl (report conduct) t

/-- A report makes the calls that its batches ask for; after them the watcher goes on as it was told to. -/
theorem report_spec (t : Telling τ) (r : Report τ) :
    (t.report conduct r).calls = t.calls ++ r.news.batches.flatMap (callsOf t.watcher.listeners.length) ∧
    ∃ v now, Watcher.Alike t.watcher v ∧ (t.report conduct r).watcher = v.pursue now r.libraries r.after [] := by
  obtain ⟨hnone, hcalls, hengaged⟩ :=
    attend_spec conduct ⟨t.watcher.pursue r.now r.libraries r.after r.news.batches, t.calls⟩
  refine ⟨?_, ?_⟩
  · rw [report, hcalls, Watcher.due_pursue]
  · have hstart : Watcher.Engaged r.libraries r.after t.watcher
        (t.watcher.pursue r.now r.libraries r.after r.news.batches) :=
      Watcher.engaged_pursue r.now r.news.batches rfl
    exact (hengaged _ _ _ hstart).onward_of_due hnone

/-- A report changes none of the listeners. -/
theorem listeners_report (t : Telling τ) (r : Report τ) :
    (t.report conduct r).watcher.listeners = t.watcher.listeners := by
  obtain ⟨-, v, now, hlike, hreport⟩ := report_spec conduct t r
  have hgone : (t.report conduct r).watcher.listeners = v.listeners := by
    rw [hreport]
    exact congrArg Prod.fst (Watcher.silent_pursue_nil now r.libraries r.after v).audience
  exact hgone.trans hlike.listeners

/-- Several reports make the calls that their batches ask for. -/
theorem calls_reportAll (rs : List (Report τ)) (t : Telling τ) : (t.reportAll conduct rs).calls =
    t.calls ++ (rs.flatMap (·.news.batches)).flatMap (callsOf t.watcher.listeners.length) := by
  induction rs generalizing t with
  | nil => exact (List.append_nil _).symm
  | cons r rs ih =>
    show ((t.report conduct r).reportAll conduct rs).calls = _
    rw [ih, (report_spec conduct t r).1, listeners_report, List.flatMap_cons, List.flatMap_append, List.append_assoc]

/-- A report of empty batches does nothing but let the watcher go on. -/
theorem report_of_empty (t : Telling τ) {r : Report τ} (hr : ∀ b ∈ r.news.batches, b.2 = []) :
    t.report conduct r = ⟨t.watcher.pursue r.now r.libraries r.after [], t.calls⟩ := by
  have hnone : (t.watcher.pursue r.now r.libraries r.after []).due = [] :=
    Watcher.due_pursue r.now r.libraries r.after [] t.watcher
  rw [report, Watcher.pursue_of_empty r.now r.libraries r.after hr, attend_of_nil conduct hnone]

/-- **Listeners are isolated.** Whatever is reported and however the calls of the listeners end, as long as they leave
the batches as they are: each listener is called once with each batch that is not empty, in the order of the listeners
and of the batches, and there are no other calls. After each report the watcher goes on as it was told to. An empty
batch is passed over, and a report of empty batches leaves the time of the last event as it is. The calls are the same
when the same is reported at other times, to listeners that behave differently. -/
theorem listeners_isolated (w : Watcher τ) (rs : List (Report τ)) :
    let t := (Telling.mk w []).reportAll conduct rs
    let bs := rs.flatMap (·.news.batches)
    t.calls = bs.flatMap (callsOf w.listeners.length) ∧
    (∀ i, i < w.listeners.length →
      callsTo i t.calls = (bs.filter (!·.2.isEmpty)).map fun b => ⟨i, b.1, b.2, b.2⟩) ∧
    (∀ (u : Telling τ) (r : Report τ), ∃ v now, Watcher.Alike u.watcher v ∧
      (u.report conduct r).watcher = v.pursue now r.libraries r.after []) ∧
    (∀ (now : τ) (libraries : List Text) (after : After) (hook : Hook) (rest : List (Hook × List Event))
      (v : Watcher τ), v.pursue now libraries after ((hook, []) :: rest) = v.pursue now libraries after rest) ∧
    (∀ (u : Telling τ) (r : Report τ), (∀ b ∈ r.news.batches, b.2 = []) → (u.report conduct r).calls = u.calls ∧
      (u.report conduct r).watcher.lastEventAt = u.watcher.lastEventAt) ∧
    ∀ (other : Conduct τ) (qs : List (Report τ)), qs.map (·.news) = rs.map (·.news) →
      ∀ i, callsTo i ((Telling.mk w []).reportAll other qs).calls = callsTo i t.calls := by
  intro t bs
  have hcalls : t.calls = bs.flatMap (callsOf w.listeners.length) := calls_reportAll conduct rs ⟨w, []⟩
  refine ⟨hcalls, ?_, ?_, Watcher.pursue_empty, ?_, ?_⟩
  · intro i hi
    rw [hcalls, callsTo_flatMap hi]
  · intro u r
    exact (report_spec conduct u r).2
  · intro u r hr
    rw [report_of_empty conduct u hr]
    exact ⟨rfl, congrArg Prod.snd (Watcher.silent_pursue_nil r.now r.libraries r.after u.watcher).audience⟩
  · intro other qs hnews i
    have hbatches : qs.flatMap (·.news.batches) = bs := by
      have hmap := congrArg (List.flatMap News.batches) hnews
      rwa [List.flatMap_map, List.flatMap_map] at hmap
    rw [calls_reportAll, hbatches, hcalls]
    rfl

/-- Of two listeners one fails and the other is late, every time; the changes of a library reach both, and an empty
batch reaches none. -/
theorem listeners_isolated_of_trouble :
    let w : Watcher Rat := .fresh (.polling 60) ⟨500, true⟩ ["shelf", "index"] (some 30)
      (Backoff.fresh 1 8 2 0 none []) (Breaker.fresh "test" 5 60)
    let conduct : Conduct Rat := fun i k => (k, if i = 0 then .failed else .late)
    let added := [Event.book ⟨"L", "s", "m"⟩]
    let removed := [Event.series ⟨"L", "r"⟩]
    let reports : List (Report Rat) :=
      [⟨.changes ⟨"L", [⟨"L", "s", "m"⟩], [⟨"L", "r"⟩]⟩, 0, ["K"], .idle⟩, ⟨.pushed .booksAdded [], 9, [], .receive⟩]
    ((Telling.mk w []).reportAll conduct reports).calls =
      [⟨0, .booksAdded, added, added⟩, ⟨1, .booksAdded, added, added⟩, ⟨0, .seriesDeleted, removed, removed⟩,
        ⟨1, .seriesDeleted, removed, removed⟩] := by
  intro w conduct added removed reports
  exact (listeners_isolated conduct w reports).1.trans rfl

end Telling

end MediaWatch
