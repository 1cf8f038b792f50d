import MediaWatch.Proofs.Policy.Line
import MediaWatch.Client.Session

/-!
# The pace of a client's writes

A write takes a permit and then sends its message. `Client.Wire.noted` is a wire that keeps what it carries, with the
times, so what a write does can be told from the outside afterwards: it is a run of the line at the client's bucket,
for the caller who stands first, and its message is sent at the moment of the permit (`Client.write_paced`).

The bounds of the bucket are those of the writes, then (`Bucket.conforms_of_full`): in no window of time are there more
of them than the capacity and what comes in during it.
-/

namespace MediaWatch

namespace Client

variable {σ τ α : Type}

/-! ## The writes -/

/-- The writes of a client. -/
inductive Writing where
  | series (id : Text) (input : Server.SeriesMetadataInput)
  | medium (id : Text) (input : Server.MediumMetadataInput)
  | cover (c : Cover) (image : Shelf.Image)

namespace Writing

/-- What is called to write. -/
def call : Writing → Call Unit
  | .series id input => .updateSeries id input
  | .medium id input => .updateMedium id input
  | .cover (.series id) image => .uploadSeriesCover id image
  | .cover (.medium id) image => .uploadMediumCover id image

/-- What the client reports of it. -/
def notice : Writing → Notice
  | .series id _ => .seriesUpdated id
  | .medium id _ => .mediumUpdated id
  | .cover (.series id) _ => .seriesCovered id
  | .cover (.medium id) _ => .mediumCovered id

/-- The client writes. -/
def talk [Scalar τ] (wire : Wire σ τ) : Writing → Talk σ τ Unit
  | .series id input => updateSeries wire id input
  | .medium id input => updateMedium wire id input
  | .cover c image => uploadCover wire c image

/-- All writes are made in one way. -/
theorem talk_eq_write [Scalar τ] (wire : Wire σ τ) (w : Writing) : w.talk wire = write wire w.call w.notice := by
  cases w with
  | series id input => rfl
  | medium id input => rfl
  | cover c image => cases c <;> rfl

end Writing

/-! ## Wires that keep what they carry -/

/-- The messages that were sent, each with its time, the latest first. -/
abbrev Log (τ : Type) := List (τ × Sent)

/-- A wire that keeps what it carries. -/
def Wire.noted (wire : Wire σ τ) : Wire (σ × Log τ) τ where
  send m s := ((wire.send m s.1).1, (wire.send m s.1).2, (wire.sleeper.now s.1, m) :: s.2)
  decoding := wire.decoding
  sleeper := ⟨fun s => wire.sleeper.now s.1, fun s d => (wire.sleeper.sleep s.1 d).map (·, s.2)⟩
  patience := wire.patience

/-- A wire on which time does not go back. -/
structure Wire.Steady (wire : Wire σ ℚ) : Prop where
  sleep : wire.sleeper.Steady
  send : ∀ m s, wire.sleeper.now s ≤ wire.sleeper.now (wire.send m s).2

theorem Wire.Steady.noted {wire : Wire σ ℚ} (h : wire.Steady) : wire.noted.Steady := by
  refine ⟨fun s d s' hsleep => ?_, fun m s => h.send m s.1⟩
  obtain ⟨woken, hwoken, rfl⟩ := Option.map_eq_some_iff.mp hsleep
  exact h.sleep s.1 d woken hwoken

/-! ## What a write does -/

/-- The conversation after some talk. -/
def Talk.after (t : Talk σ τ α) (s : Conversation σ τ) : Conversation σ τ := (t s).2

/-- How an acquisition ends, and the conversation after it. -/
def acquired [Scalar τ] (wire : Wire σ τ) (s : Conversation σ τ) : Bucket.Ending × Conversation σ τ :=
  let x := s.client.bucket.acquire wire.sleeper wire.patience s.outside
  (x.1, { s with client := { s.client with bucket := x.2.1 }, outside := x.2.2 })

/-- The conversation after a message was sent. -/
def Conversation.carried (wire : Wire σ τ) (m : Message) (s : Conversation σ τ) : Conversation σ τ :=
  { s with outside := (wire.send (s.client.sent m) s.outside).2 }

theorem bind_eq {β : Type} (t : Talk σ τ α) (f : α → Talk σ τ β) (s : Conversation σ τ) :
    (t >>= f) s =
      match t s with
      | (.ok a, s') => f a s'
      | (.error e, s') => (.error e, s') := by
  show (ExceptT.bindCont f (t s).1) (t s).2 = _
  rcases t s with ⟨_ | a, s'⟩ <;> rfl

theorem acquire_eq [Scalar τ] (wire : Wire σ τ) (s : Conversation σ τ) :
    acquire wire s =
      (if (acquired wire s).1 = .granted then .ok () else .error (.foreign "SleepLimit" ""), (acquired wire s).2) := by
  have hget : (get : Talk σ τ (Conversation σ τ)) s = (.ok s, s) := rfl
  rw [acquired, acquire, bind_eq, hget]
  rcases hx : s.client.bucket.acquire wire.sleeper wire.patience s.outside with ⟨ending, bucket, outside⟩
  simp only [hx]
  cases ending <;> rfl

theorem exchange_eq (wire : Wire σ τ) (m : Message) (s : Conversation σ τ) :
    exchange wire m s =
      match s.client.obstacle m with
      | some f => (.error f, s)
      | none => (.ok (wire.send (s.client.sent m) s.outside).1, s.carried wire m) := by
  have hrun : exchange wire m s = (match s.client.obstacle m with
      | some f => (throw f : Talk σ τ Exchange)
      | none => do set (s.carried wire m); return (wire.send (s.client.sent m) s.outside).1) s := rfl
  rw [hrun]
  cases s.client.obstacle m <;> rfl

/-- A call sends its message, unless there is an obstacle. -/
theorem after_call (wire : Wire σ τ) (c : Call α) (s : Conversation σ τ) :
    (call wire c).after s = s ∨ (call wire c).after s = s.carried wire c.message := by
  rw [Talk.after, call, bind_eq, exchange_eq]
  cases s.client.obstacle c.message with
  | some f => exact Or.inl rfl
  | none => exact Or.inr rfl

/-- A report of what was done changes nothing but the notices. -/
theorem after_reported (t : Talk σ τ α) (n : Notice) (s : Conversation σ τ) :
    ∃ notices, Talk.after (do let a ← t; say n; return a) s = { t.after s with notices } := by
  rw [Talk.after, bind_eq, Talk.after]
  rcases t s with ⟨_ | a, s'⟩
  · exact ⟨s'.notices, rfl⟩
  · exact ⟨n :: s'.notices, rfl⟩

/-- A write ends with the attempt to get a permit, or gets one and sends its message. -/
theorem after_write [Scalar τ] (wire : Wire σ τ) (c : Call α) (n : Notice) (s : Conversation σ τ) :
    ∃ notices, (write wire c n).after s = { (acquired wire s).2 with notices } ∨
      (acquired wire s).1 = .granted ∧
        (write wire c n).after s = { (acquired wire s).2.carried wire c.message with notices } := by
  rw [Talk.after, write, bind_eq, acquire_eq]
  by_cases hgranted : (acquired wire s).1 = .granted
  · rw [if_pos hgranted]
    obtain ⟨notices, htold⟩ := after_reported (call wire c) n (acquired wire s).2
    refine ⟨notices, ?_⟩
    rcases after_call wire c (acquired wire s).2 with hcall | hcall
    · exact Or.inl (htold.trans (by rw [hcall]))
    · exact Or.inr ⟨hgranted, htold.trans (by rw [hcall])⟩
  · rw [if_neg hgranted]
    exact ⟨s.notices, Or.inl rfl⟩

/-! ## Writes in line -/

/-- The time of a conversation. -/
def Conversation.clock (wire : Wire σ τ) (s : Conversation σ τ) : τ := wire.sleeper.now s.outside

/-- What was sent in a conversation over a wire that keeps it. -/
def Conversation.log (s : Conversation (σ × Log τ) τ) : Log τ := s.outside.2

/-- Waiting for a permit sends nothing. -/
theorem log_acquired [Scalar τ] (wire : Wire σ τ) (s : Conversation (σ × Log τ) τ) :
    (acquired wire.noted s).2.log = s.log := by
  have hacquires := Bucket.acquires_acquire wire.noted.sleeper wire.patience s.client.bucket s.outside
  refine hacquires.keeps (P := fun o => o.2 = s.log) (fun o d o' ho hsleep => ?_) rfl
  obtain ⟨woken, -, rfl⟩ := Option.map_eq_some_iff.mp hsleep
  exact ho

/-- **A write takes its permit immediately before its message.** It is a run of the line at the client's bucket for
the caller who stands first. It sends nothing, or it sends its message, once, at the moment at which that caller is
admitted. -/
theorem write_paced {wire : Wire σ ℚ} (hsteady : wire.Steady) (w : Writing) {s : Conversation (σ × Log ℚ) ℚ}
    {l : Line ℚ α} (hbucket : l.bucket = s.client.bucket) {caller : α} {rest : List α}
    (hcallers : l.callers = caller :: rest) :
    ∃ xs : List (ℚ × Line.Move α),
      Line.Between (s.clock wire.noted) (((w.talk wire.noted).after s).clock wire.noted) xs ∧
      (l.run xs).bucket = ((w.talk wire.noted).after s).client.bucket ∧
      (((w.talk wire.noted).after s).log = s.log ∨
        ∃ t sent, sent.message = w.call.message ∧ ((w.talk wire.noted).after s).log = (t, sent) :: s.log ∧
          (l.run xs).admitted = (caller, t) :: l.admitted) := by
  have hacquires := Bucket.acquires_acquire wire.noted.sleeper wire.patience s.client.bucket s.outside
  obtain ⟨xs, hclock, hrun, -, hadmitted⟩ := Line.run_of_acquires hsteady.noted.sleep hacquires hbucket hcallers
  obtain ⟨notices, hafter⟩ := after_write wire.noted w.call w.notice s
  rw [w.talk_eq_write]
  refine ⟨xs, ?_⟩
  rcases hafter with hafter | ⟨hgranted, hafter⟩
  · rw [hafter]
    exact ⟨hclock, hrun, Or.inl (log_acquired wire s)⟩
  · rw [hafter]
    refine ⟨hclock.le_of_le (hsteady.noted.send _ _), hrun, Or.inr
      ⟨_, (acquired wire.noted s).2.client.sent w.call.message, rfl, ?_, hadmitted.trans (if_pos hgranted)⟩⟩
    rw [← log_acquired wire s]
    rfl

/-- The conversations that a client comes to from another one by writing. Between two writes it does other things,
which take no permit, and someone may look how many permits there are. -/
inductive Written [Scalar τ] (wire : Wire σ τ) (s : Conversation (σ × Log τ) τ) :
    Conversation (σ × Log τ) τ → Prop where
  | start : Written wire s s
  | write {t} (h : Written wire s t) (w : Writing) : Written wire s ((w.talk wire.noted).after t)
  | meanwhile {t u} (h : Written wire s t) (hclock : t.clock wire.noted ≤ u.clock wire.noted)
      (hbucket : u.client.bucket = t.client.bucket) (hlog : u.log = t.log) : Written wire s u
  | look {t} (h : Written wire s t) :
      Written wire s { t with client := { t.client with bucket := t.client.bucket.refill (t.clock wire.noted) } }

/-- A conversation whose bucket is that of a line in which the messages in the log have their permits. -/
def Permitted (wire : Wire σ ℚ) (s : Conversation (σ × Log ℚ) ℚ) : Prop :=
  ∃ times, s.client.bucket.Keeps times ∧ (s.log.map Prod.fst).Sublist times ∧
    s.client.bucket.updatedAt ≤ s.clock wire.noted

/-- A write leaves a conversation so. -/
theorem Permitted.write {wire : Wire σ ℚ} (hsteady : wire.Steady) {s : Conversation (σ × Log ℚ) ℚ}
    (h : Permitted wire s) (w : Writing) : Permitted wire ((w.talk wire.noted).after s) ∧
      ((w.talk wire.noted).after s).client.bucket.measure = s.client.bucket.measure := by
  obtain ⟨times, hkeeps, hlog, hupdated⟩ := h
  let l : Line ℚ Unit := ⟨s.client.bucket, [()], none, times.map fun t => ((), t)⟩
  have hgrants : l.grants = times := by simp [l, Line.grants]
  obtain ⟨xs, hbetween, hbucket, hsent⟩ := write_paced hsteady w (l := l) rfl rfl
  obtain ⟨hrun, hmeasure⟩ := Line.keeps_run (l := l) (hgrants ▸ hkeeps) (hbetween.from_le hupdated)
  rw [hbucket] at hrun hmeasure
  refine ⟨⟨(l.run xs).grants, hrun, ?_, ?_⟩, hmeasure⟩
  · rcases hsent with hnone | ⟨t, sent, -, hone, hadmitted⟩
    · rw [hnone]
      have hmore : l.grants.Sublist (l.run xs).grants := (l.admitted_run xs).sublist.map _
      exact hlog.trans (hgrants ▸ hmore)
    · rw [hone, Line.grants, hadmitted]
      exact (hgrants ▸ hlog : (s.log.map Prod.fst).Sublist l.grants).cons_cons t
  · rw [← hbucket]
    exact Line.updatedAt_run_le (hupdated.trans hbetween.le) hbetween.forall_le

theorem permitted_of_written {wire : Wire σ ℚ} (hsteady : wire.Steady) {s t : Conversation (σ × Log ℚ) ℚ}
    (hs : Permitted wire s) (h : Written wire s t) :
    Permitted wire t ∧ t.client.bucket.measure = s.client.bucket.measure := by
  induction h with
  | start => exact ⟨hs, rfl⟩
  | write h w ih =>
    obtain ⟨hpermitted, hmeasure⟩ := ih.1.write hsteady w
    exact ⟨hpermitted, hmeasure.trans ih.2⟩
  | meanwhile h hclock hbucket hlog ih =>
    obtain ⟨⟨times, hkeeps, hsent, hupdated⟩, hmeasure⟩ := ih
    rw [Permitted, hbucket, hlog]
    exact ⟨⟨times, hkeeps, hsent, hupdated.trans hclock⟩, hmeasure⟩
  | look h ih =>
    obtain ⟨⟨times, hkeeps, hsent, hupdated⟩, hmeasure⟩ := ih
    exact ⟨⟨times, hkeeps.refill hupdated, hsent, le_refl _⟩, hmeasure⟩

end Client

/-! ## Conformity -/

/-- **A bucket keeps to its capacity and rate.** Start with a full bucket, and let callers stand in line at it, sleep
as long as they like, fail and look, on a clock that does not go back. Then

* what the bucket holds stays between nothing and its capacity;
* no window of time holds more permits than the capacity and what comes in during the window, and the same is true of
  anything that is done with some of the permits when they are granted;
* however long nobody is admitted, callers who leave have taken nothing: the bucket is as it was, looked at once;
* in particular an acquisition that ends without a permit, since a sleep has failed, has only looked at the bucket;
* a write of a client who stands first is a run of the line, and sends its message at the moment of its permit or not
  at all. So the messages of all writes of a client conform to capacity and rate as well. -/
theorem Bucket.conforms_of_full {capacity interval start : ℚ} (hcapacity : 1 ≤ capacity) (hinterval : 0 < interval) :
    ∃ b, Bucket.full? capacity interval start = some b ∧
      (∀ (α : Type) (xs : List (ℚ × Line.Move α)), (start :: xs.map Prod.fst).Pairwise (· ≤ ·) →
        let l := (Line.empty b).run xs
        (0 ≤ l.bucket.tokens ∧ l.bucket.tokens ≤ capacity) ∧
        (∀ times, times.Sublist l.grants → Bucket.Conforms capacity interval times) ∧
        (∀ ys : List (ℚ × Line.Move α), (l.bucket.updatedAt :: ys.map Prod.fst).Pairwise (· ≤ ·) →
          (l.run ys).admitted = l.admitted →
            (l.run ys).bucket = l.bucket ∨ ∃ y ∈ ys, (l.run ys).bucket = l.bucket.refill y.1) ∧
        (∀ (σ : Type) (sleeper : Bucket.Sleeper σ ℚ) (sleeps : ℕ) (s : σ), sleeper.Steady →
          l.bucket.updatedAt ≤ sleeper.now s → (l.bucket.acquire sleeper sleeps s).1 ≠ .granted →
            (l.bucket.acquire sleeper sleeps s).2.1 =
              l.bucket.refill (sleeper.now (l.bucket.acquire sleeper sleeps s).2.2)) ∧
        (∀ (σ : Type) (wire : Client.Wire σ ℚ) (w : Client.Writing)
          (s : Client.Conversation (σ × Client.Log ℚ) ℚ) (caller : α) (rest : List α), wire.Steady →
          l.bucket = s.client.bucket → l.callers = caller :: rest →
            ∃ ys : List (ℚ × Line.Move α),
              Line.Between (s.clock wire.noted) (((w.talk wire.noted).after s).clock wire.noted) ys ∧
              (l.run ys).bucket = ((w.talk wire.noted).after s).client.bucket ∧
              (((w.talk wire.noted).after s).log = s.log ∨
                ∃ t sent, sent.message = w.call.message ∧ ((w.talk wire.noted).after s).log = (t, sent) :: s.log ∧
                  (l.run ys).admitted = (caller, t) :: l.admitted))) ∧
      (∀ (σ : Type) (wire : Client.Wire σ ℚ) (s t : Client.Conversation (σ × Client.Log ℚ) ℚ), wire.Steady →
        s.client.bucket = b → s.log = [] → start ≤ s.clock wire.noted → Client.Written wire s t →
          Bucket.Conforms capacity interval (t.log.map Prod.fst)) := by
  obtain ⟨b, hfull, hkeeps, hupdated, hmeasure⟩ := Bucket.keeps_full hcapacity hinterval start
  refine ⟨b, hfull, fun α xs hclock => ?_, fun σ wire s t hsteady hbucket hlog hstart hwritten => ?_⟩
  · obtain ⟨hrun, hsame⟩ := Line.keeps_run (l := Line.empty b) (α := α) hkeeps (hupdated.symm ▸ hclock)
    have hallows := hsame.trans hmeasure
    refine ⟨⟨hrun.sound.nonneg, ?_⟩, fun times htimes => ?_, fun ys hys hnone => ?_,
      fun σ sleeper sleeps s hsteady hnow hending => ?_, fun σ wire w s caller rest hsteady hbucket hcallers => ?_⟩
    · exact hrun.sound.le_capacity.trans_eq (congrArg Prod.fst hallows)
    · exact hrun.conforms hallows htimes
    · exact Line.bucket_run_of_no_grant hrun.sound hys hnone
    · exact hrun.sound.eq_refill_of_acquires hsteady hnow (Bucket.acquires_acquire sleeper sleeps _ s) hending
    · exact Client.write_paced hsteady w hbucket hcallers
  · have hpermitted : Client.Permitted wire s := ⟨[], hbucket ▸ hkeeps, by rw [hlog]; exact .slnil, by
      rw [hbucket, hupdated]
      exact hstart⟩
    obtain ⟨⟨times, hkept, hsent, -⟩, hsame⟩ := Client.permitted_of_written hsteady hpermitted hwritten
    exact hkept.conforms (hsame.trans (hbucket ▸ hmeasure)) hsent

/-- Three callers at a bucket of two permits a second. The third one is woken up too early once. -/
def Line.burst : List (ℚ × Line.Move ℕ) :=
  [(0, .arrive 0), (0, .arrive 1), (0, .arrive 2), (0, .turn), (0, .turn), (0, .turn), (1/4, .turn), (1/4, .look),
    (1/2, .turn)]

/-- They are admitted at once, but for the third one, and no more of them could have been. -/
theorem Bucket.conforms_of_burst :
    (1 : ℚ) ≤ 2 ∧ (0 : ℚ) < 1 ∧ ((0 : ℚ) :: Line.burst.map Prod.fst).Pairwise (· ≤ ·) ∧
      ∃ b, Bucket.full? (2 : ℚ) 1 0 = some b ∧ ((Line.empty b).run Line.burst).grants = [1/2, 0, 0] ∧
        Bucket.countIn 0 (1/2) ((Line.empty b).run Line.burst).grants = 3 ∧
        Bucket.Conforms 2 1 ((Line.empty b).run Line.burst).grants := by
  have hclock : ((0 : ℚ) :: Line.burst.map Prod.fst).Pairwise (· ≤ ·) := by norm_num [Line.burst]
  obtain ⟨b, hfull, hrun, -⟩ := @Bucket.conforms_of_full 2 1 0 (by decide) (by decide)
  have hb : b = ⟨2, 1, 2 / 1, 2, 0⟩ := (Option.some.inj hfull).symm
  have hgrants : ((Line.empty b).run Line.burst).grants = [1/2, 0, 0] := by
    subst hb
    with_unfolding_all rfl
  refine ⟨by decide, by decide, hclock, b, hfull, hgrants, ?_, (hrun ℕ Line.burst hclock).2.1 _ (List.Sublist.refl _)⟩
  rw [hgrants]
  with_unfolding_all rfl

end MediaWatch
