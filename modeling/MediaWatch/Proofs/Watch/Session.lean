import MediaWatch.Proofs.Watch.Reaction

/-!
# Sessions without sweeps

What becomes of a watcher that follows a subscription and has no sweeps beside it, step by step. `Watcher.Standing` is
the part of it that its sessions go by; the elementary steps have one equation each (`standing_say` and its
companions), and `Standing.sessionEnded` is what the end of a session leads to. While it is online such a watcher
takes one of five kinds of steps (`Watcher.Step`): nothing but a look, an attempt to connect, a step within a session,
the acknowledgement of the connection, or the end of a session (`Watcher.online_step`).
-/

namespace MediaWatch

/-! ## Stimuli and positions -/

/-- Whether someone starts or stops the watcher, or has done so. -/
def Stimulus.isControl : Stimulus → Bool
  | .start | .stop | .woken => true
  | _ => false

/-- Whether a frame is the acknowledgement of the connection. -/
def Frame.acknowledges : Frame → Bool
  | .acknowledged => true
  | _ => false

theorem Frame.acknowledges_of_ends {f : Frame} (h : f.ends = true) : f.acknowledges = false := by
  cases f with
  | acknowledged => cases h
  | _ => rfl

/-- Whether a task without sweeps is between two sessions. -/
def Position.isBetween {τ : Type} : Position τ → Prop
  | .created | .napping _ => True
  | _ => False

/-- Whether a task without sweeps is in a session. -/
def Position.inSession {τ : Type} : Position τ → Prop
  | .sending _ | .receiving => True
  | .notifying _ e => e.libraries = [] ∧ e.after = .receive
  | _ => False

theorem Scalar.clamp_clamp {τ : Type} [Scalar τ] (a : τ) : Scalar.clamp (Scalar.clamp a) = Scalar.clamp a := by
  by_cases h : Scalar.ofInt 0 < a
  · have hclamp : Scalar.clamp a = a := if_pos h
    rw [hclamp, hclamp]
  · have hclamp : Scalar.clamp a = Scalar.ofInt 0 := if_neg h
    rw [hclamp]
    exact ite_self _

/-- Delays are not negative, so a nap takes them as they are. -/
theorem Backoff.clamp_next {τ : Type} [Scalar τ] (b : Backoff τ) : Scalar.clamp b.next.1 = b.next.1 :=
  Scalar.clamp_clamp _

namespace Watcher

variable {τ : Type}

/-! ## Standings -/

/-- The part of a watcher that its sessions go by. -/
structure Standing (τ : Type) where
  strategy : Strategy τ
  active : Bool
  wakeup : Bool
  status : Status
  backoff : Backoff τ
  breaker : Breaker τ
  position : Position τ

/-- The same of a watcher. -/
def standing (w : Watcher τ) : Standing τ :=
  ⟨w.strategy, w.life.active, w.life.wakeup, w.life.status, w.backoff, w.breaker, w.position⟩

section Elementary

variable (w : Watcher τ)

@[simp] theorem standing_say (n : Notice) : (w.say n).standing = w.standing := rfl
@[simp] theorem standing_goto (p : Position τ) : (w.goto p).standing = { w.standing with position := p } := rfl

@[simp] theorem standing_sayAll (ns : List Notice) : (sayAll ns w).standing = w.standing := by
  induction ns generalizing w with
  | nil => rfl
  | cons n ns ih => exact ih (w.say n)

@[simp] theorem standing_noteStatus (s : Status) : (noteStatus s w).standing = w.standing := by
  unfold noteStatus; split <;> rfl

@[simp] theorem standing_setStatus (s : Status) : (w.setStatus s).standing = { w.standing with status := s } := by
  unfold setStatus; exact standing_noteStatus _ _

@[simp] theorem standing_acknowledge :
    w.acknowledge.standing =
      { w.standing with status := .connected, backoff := w.backoff.reset, breaker := w.breaker.succeed.1 } := by
  let told := if w.life.status = .connected then w else w.say .established
  have htold : told.standing = w.standing := by
    show (if w.life.status = .connected then w else w.say .established).standing = w.standing
    split <;> rfl
  have hset := standing_setStatus told .connected
  have hbackoff : (told.setStatus .connected).backoff = w.backoff := by
    rw [← show w.standing.backoff = w.backoff from rfl, ← htold]
    exact congrArg Standing.backoff hset
  have hbreaker : (told.setStatus .connected).breaker = w.breaker := by
    rw [← show w.standing.breaker = w.breaker from rfl, ← htold]
    exact congrArg Standing.breaker hset
  show (sayAll (told.setStatus .connected).breaker.succeed.2 { told.setStatus .connected with
    backoff := (told.setStatus .connected).backoff.reset
    breaker := (told.setStatus .connected).breaker.succeed.1 }).standing = _
  rw [standing_sayAll, hbackoff, hbreaker]
  show { (told.setStatus .connected).standing with
    backoff := w.backoff.reset
    breaker := w.breaker.succeed.1 } = _
  rw [hset, htold]

end Elementary

variable [Scalar τ] {now : τ} {w : Watcher τ} {url : String} {interval patience : τ}

@[simp] theorem standing_readBreaker (now : τ) (w : Watcher τ) :
    (w.readBreaker now).standing = { w.standing with breaker := (w.breaker.read now).1 } :=
  standing_sayAll { w with breaker := (w.breaker.read now).1 } _

/-- A look at the health of a watcher reads its breaker, if it has one. -/
theorem standing_health (now : τ) (w : Watcher τ) :
    (w.health now).2.standing = w.standing ∨
      (w.health now).2.standing = { w.standing with breaker := (w.breaker.read now).1 } := by
  unfold health
  cases w.strategy with
  | polling interval => exact Or.inl rfl
  | push url fallback interval patience => exact Or.inr (standing_readBreaker now w)

theorem standing_loop (hs : w.strategy = .push url false interval patience) (ha : w.life.active = true) :
    (w.loop now).standing = { w.standing with status := .connecting, position := .connecting } := by
  have havoids : w.avoidsPush = false := by simp [avoidsPush, hasFallback, hs, Strategy.hasFallback]
  simp [loop, ha, hs, havoids, connect]

theorem standing_receive (ha : w.life.active = true) :
    (w.receive now).standing = { w.standing with position := .receiving } := by
  rw [receive, if_pos ha]
  rfl

theorem standing_nap (seconds : τ) (ha : w.life.active = true) :
    (w.nap seconds).standing =
      { w.standing with wakeup := false, position := .napping (Scalar.clamp seconds) } := by
  rw [nap, if_pos ha]
  rfl

/-- A nap before the next attempt. -/
theorem standing_reconnect (ha : w.life.active = true) :
    (w.reconnect now).standing =
      { w.standing with
        wakeup := false
        status := if (w.breaker.read now).1.isOpen then .degraded else .reconnecting
        backoff := w.backoff.next.2
        breaker := (w.breaker.read now).1
        position := .napping w.backoff.next.1 } := by
  let read := readBreaker now { w with backoff := w.backoff.next.2 }
  let told := (read.setStatus (if read.breaker.isOpen then .degraded else .reconnecting)).say
    (.reconnecting (Scalar.tenths w.backoff.next.1) (read.setStatus
      (if read.breaker.isOpen then .degraded else .reconnecting)).backoff.attempt)
  have hread : read.standing = { w.standing with
      backoff := w.backoff.next.2
      breaker := (w.breaker.read now).1 } := standing_readBreaker now _
  have hbreaker : read.breaker = (w.breaker.read now).1 := congrArg Standing.breaker hread
  have htold : told.standing = { read.standing with
      status := if read.breaker.isOpen then .degraded else .reconnecting } := standing_setStatus read _
  rw [hbreaker, hread] at htold
  have hactive : told.life.active = true := (congrArg Standing.active htold).trans ha
  show (told.nap w.backoff.next.1).standing = _
  rw [standing_nap w.backoff.next.1 hactive, htold, Backoff.clamp_next]

omit [Scalar τ] in
/-- The end of a task in a session that is over. -/
theorem standing_finish_of_failed (hactive : w.life.active = false) (hstatus : w.life.status = .failed) :
    w.finish.standing = { w.standing with position := .absent } := by
  cases htask : w.life.task with
  | none =>
    have hfinish : w.life.finish = (w.life, .stopped) := by simp [Lifecycle.finish, htask]
    simp only [finish, hfinish, standing_noteStatus]
    rfl
  | some t =>
    have hfinish : w.life.finish = ({ w.life with task := none, status := .failed }, .stopped) := by
      simp [Lifecycle.finish, Lifecycle.settle, htask, hactive, hstatus]
    simp only [finish, hfinish, standing_noteStatus]
    show { w.standing with status := .failed, position := .absent } = { w.standing with position := .absent }
    rw [← hstatus]
    rfl

/-- No attempt is left. -/
theorem standing_giveUp (hs : w.strategy = .push url false interval patience) :
    (w.giveUp now).standing =
      { w.standing with active := false, status := .failed, position := .absent } := by
  have hfallback : ¬ (w.say (.givingUp w.backoff.attempt)).hasFallback = true := by
    show ¬ w.strategy.hasFallback = true
    rw [hs]
    exact Bool.false_ne_true
  let failed := (w.say (.givingUp w.backoff.attempt)).setStatus .failed
  let closed := { failed with life := failed.life.clearFlag }
  have hfailed : failed.standing = { w.standing with status := .failed } := standing_setStatus _ _
  have hclosed : closed.standing = { w.standing with active := false, status := .failed } := by
    show { failed.standing with active := false } = _
    rw [hfailed]
  have hgiveUp : w.giveUp now = closed.finish := if_neg hfallback
  rw [hgiveUp, standing_finish_of_failed rfl (congrArg Standing.status hclosed), hclosed]

/-- What the end of a session leads to. It counts as a failure. When all attempts are used up the watcher gives up,
otherwise it waits for the next one. -/
def Standing.sessionEnded (now : τ) (s : Standing τ) : Standing τ :=
  if s.backoff.exhausted then
    { s with active := false, status := .failed, breaker := (s.breaker.fail now).1, position := .absent }
  else
    { s with
      wakeup := false
      status := if ((s.breaker.fail now).1.read now).1.isOpen then .degraded else .reconnecting
      backoff := s.backoff.next.2
      breaker := ((s.breaker.fail now).1.read now).1
      position := .napping s.backoff.next.1 }

theorem standing_sessionEnded (hs : w.strategy = .push url false interval patience) (ha : w.life.active = true) :
    (w.sessionEnded now).standing = w.standing.sessionEnded now := by
  let counted := sayAll (w.breaker.fail now).2 { w with breaker := (w.breaker.fail now).1 }
  have hcounted : counted.standing = { w.standing with breaker := (w.breaker.fail now).1 } := standing_sayAll _ _
  have hstrategy : counted.strategy = .push url false interval patience :=
    (congrArg Standing.strategy hcounted).trans hs
  have hactive : counted.life.active = true := (congrArg Standing.active hcounted).trans ha
  have hbackoff : counted.backoff = w.backoff := congrArg Standing.backoff hcounted
  have hbreaker : counted.breaker = (w.breaker.fail now).1 := congrArg Standing.breaker hcounted
  have hfallback : counted.hasFallback = false := by
    rw [hasFallback, hstrategy]
    rfl
  have hended : w.sessionEnded now =
      if counted.backoff.exhausted then counted.giveUp now else counted.reconnect now := by
    have hrest : (let v := if counted.hasFallback then counted.readBreaker now else counted
        if v.hasFallback && v.breaker.isOpen then v.loop now else v.reconnect now) = counted.reconnect now := by
      simp [hfallback]
    rw [sessionEnded, if_neg (by simp [ha]), ← hrest]
  rw [hended, hbackoff, Standing.sessionEnded]
  cases hexhausted : w.backoff.exhausted with
  | true =>
    rw [if_pos rfl, standing_giveUp hstrategy, hcounted]
    exact (if_pos hexhausted).symm
  | false =>
    rw [if_neg Bool.false_ne_true, standing_reconnect hactive, hcounted, hbackoff, hbreaker]
    exact (if_neg (by simp [standing, hexhausted])).symm

theorem standing_sessionFailed (hs : w.strategy = .push url false interval patience) (ha : w.life.active = true)
    (f : Fault) : (w.sessionFailed now f).standing = w.standing.sessionEnded now :=
  standing_sessionEnded (w := w.say _) hs ha

/-! ## Sessions -/

/-- Whether a stimulus ends the session that a watcher is in or is about to open. -/
def endsSession (x : Stimulus) (w : Watcher τ) : Bool :=
  match x, w.position with
  | .opened (.error _), .connecting | .sent (.error _), .sending _ | .arrival (.fault _), .receiving => true
  | .arrival (.text s), .receiving => (Frame.read s).ends
  | _, _ => false

/-- Whether a stimulus is the acknowledgement of a connection. -/
def acknowledges (x : Stimulus) (w : Watcher τ) : Bool :=
  match x, w.position with
  | .arrival (.text s), .receiving => (Frame.read s).acknowledges
  | _, _ => false

/-- What a stimulus can do to a watcher that is online and has no sweeps. -/
inductive Step (now : τ) (x : Stimulus) (w : Watcher τ) : Prop
  /-- Nothing but a look at the health. -/
  | quiet (hends : w.endsSession x = false) (hack : w.acknowledges x = false) (hdeeds : w.deeds now x = [])
      (h : (w.react now x).standing = w.standing ∨
        (w.react now x).standing = { w.standing with breaker := (w.breaker.read now).1 })
  | connects (hends : w.endsSession x = false) (hack : w.acknowledges x = false) (hplace : w.position.isBetween)
      (h : (w.react now x).standing = { w.standing with status := .connecting, position := .connecting })
  /-- A session goes on. -/
  | within {p : Position τ} (hends : w.endsSession x = false) (hack : w.acknowledges x = false)
      (hplace : ¬ w.position.isBetween) (hp : p.inSession)
      (h : (w.react now x).standing = { w.standing with position := p })
  | acknowledged (hends : w.endsSession x = false) (hack : w.acknowledges x = true) (hplace : ¬ w.position.isBetween)
      (h : (w.react now x).standing =
        { w.standing with
          status := .connected
          backoff := w.backoff.reset
          breaker := w.breaker.succeed.1
          position := .receiving })
  | ended (hends : w.endsSession x = true) (hack : w.acknowledges x = false) (hplace : ¬ w.position.isBetween)
      (h : (w.react now x).standing = w.standing.sessionEnded now)

/-- Batches that are delivered within a session keep it going. -/
theorem standing_pursue (bs : List (Hook × List Event)) (ha : w.life.active = true) :
    ∃ p : Position τ, p.inSession ∧
      (pursue now [] .receive bs w).standing = { w.standing with position := p } := by
  induction bs generalizing w with
  | nil => exact ⟨.receiving, trivial, standing_receive ha⟩
  | cons b bs ih =>
    obtain ⟨hook, events⟩ := b
    rw [pursue]
    split
    · exact ih ha
    · dsimp only
      split
      · exact ih (w := { w with lastEventAt := some now }) ha
      · exact ⟨.notifying ⟨hook, events, 0⟩ ⟨bs, [], .receive⟩, ⟨rfl, rfl⟩, rfl⟩

/-- A frame that ends the session. -/
theorem standing_handle_of_ends (w : Watcher τ) (now : τ) {f : TextFrame} (hends : (Frame.read f).ends = true) :
    (w.handle now f .receive).standing = w.standing := by
  unfold handle
  cases hread : Frame.read f with
  | completed => rfl
  | rejected payload => rfl
  | _ => rw [hread] at hends; cases hends

/-- The call of a listener within a session. -/
theorem standing_notified (o : Outcome) (left : List Event) (d : Delivery) {e : Errand} (he : e.libraries = [])
    (hafter : e.after = .receive) (ha : w.life.active = true) :
    ∃ p : Position τ, p.inSession ∧
      (w.notified now o left d e).standing = { w.standing with position := p } := by
  have hgoOn (v : Watcher τ) (hv : v.standing = w.standing) : ∃ p : Position τ, p.inSession ∧
      (if d.listener + 1 < v.listeners.length
        then v.goto (.notifying { d with batch := left, listener := d.listener + 1 } e)
        else pursue now e.libraries e.after e.batches v).standing = { w.standing with position := p } := by
    split
    · exact ⟨.notifying { d with batch := left, listener := d.listener + 1 } e, ⟨he, hafter⟩, by
        rw [standing_goto, hv]⟩
    · rw [he, hafter, ← hv]
      exact standing_pursue e.batches ((congrArg Standing.active hv).trans ha)
  cases o with
  | returned => exact hgoOn w rfl
  | late => exact hgoOn _ rfl
  | failed => exact hgoOn _ rfl

/-- What a text frame makes of a session. -/
theorem standing_handle (now : τ) (f : TextFrame) (hs : w.strategy = .push url false interval patience)
    (ha : w.life.active = true) (hends : (Frame.read f).ends = false) :
    ((Frame.read f).acknowledges = true ∧ (w.handle now f .receive).standing =
      { w.standing with
        status := .connected
        backoff := w.backoff.reset
        breaker := w.breaker.succeed.1
        position := .receiving }) ∨
    ((Frame.read f).acknowledges = false ∧ ∃ p : Position τ, p.inSession ∧
      (w.handle now f .receive).standing = { w.standing with position := p }) := by
  unfold handle
  cases hread : Frame.read f with
  | acknowledged =>
    refine Or.inl ⟨rfl, ?_⟩
    have hack := standing_acknowledge w
    have hactive : w.acknowledge.life.active = true := (congrArg Standing.active hack).trans ha
    have hfallback : w.acknowledge.hasFallback = false := by
      have hstrategy : w.acknowledge.strategy = .push url false interval patience :=
        (congrArg Standing.strategy hack).trans hs
      rw [hasFallback, hstrategy]
      rfl
    have hgoOn : (if w.acknowledge.hasFallback then w.acknowledge.sweep .receive
        else w.acknowledge.goOn now .receive) = w.acknowledge.receive now := by
      rw [hfallback]
      rfl
    show (if w.acknowledge.hasFallback then w.acknowledge.sweep .receive
      else w.acknowledge.goOn now .receive).standing = _
    rw [hgoOn, standing_receive hactive, hack]
  | created e => exact Or.inr ⟨rfl, standing_pursue _ ha⟩
  | complained payload => exact Or.inr ⟨rfl, .receiving, trivial, standing_receive ha⟩
  | unreadable => exact Or.inr ⟨rfl, .receiving, trivial, standing_receive ha⟩
  | silent => exact Or.inr ⟨rfl, .receiving, trivial, standing_receive ha⟩
  | completed => rw [hread] at hends; cases hends
  | rejected payload => rw [hread] at hends; cases hends

/-- What comes of an attempt to connect. -/
theorem step_of_opened (hs : w.strategy = .push url false interval patience) (ha : w.life.active = true)
    (result : Except Fault Unit) (hp : w.position = .connecting)
    (hreact : w.react now (.opened result) = w.opened now result) : Step now (.opened result) w := by
  have hnot : ¬ w.position.isBetween := by rw [hp]; exact id
  cases result with
  | ok _ =>
    exact .within (p := .sending .hello) (by simp [endsSession]) (by simp [acknowledges]) hnot trivial
      (by rw [hreact]; rfl)
  | error f =>
    refine .ended (by simp [endsSession, hp]) (by simp [acknowledges]) hnot ?_
    rw [hreact]
    exact standing_sessionFailed hs ha f

/-- What comes of a frame that is sent. -/
theorem step_of_sent (hs : w.strategy = .push url false interval patience) (ha : w.life.active = true)
    {frame : Opening} (result : Except Fault Unit) (hp : w.position = .sending frame)
    (hreact : w.react now (.sent result) = w.sent now frame result) : Step now (.sent result) w := by
  have hnot : ¬ w.position.isBetween := by rw [hp]; exact id
  cases result with
  | ok _ =>
    cases frame with
    | hello =>
      exact .within (p := .sending .subscribe) (by simp [endsSession]) (by simp [acknowledges]) hnot trivial
        (by rw [hreact]; rfl)
    | subscribe =>
      exact .within (p := .receiving) (by simp [endsSession]) (by simp [acknowledges]) hnot trivial
        (by rw [hreact]; exact standing_receive ha)
  | error f =>
    refine .ended (by simp [endsSession, hp]) (by simp [acknowledges]) hnot ?_
    rw [hreact]
    exact standing_sessionFailed (w := w.note .left) hs ha f

/-- What comes of waiting for a frame. -/
theorem step_of_arrival (hs : w.strategy = .push url false interval patience) (ha : w.life.active = true) (a : Arrival)
    (hp : w.position = .receiving) (hreact : w.react now (.arrival a) = w.received now a) :
    Step now (.arrival a) w := by
  have hnot : ¬ w.position.isBetween := by rw [hp]; exact id
  cases a with
  | nothing =>
    exact .within (p := .receiving) (by simp [endsSession]) (by simp [acknowledges]) hnot trivial
      (by rw [hreact]; exact standing_receive ha)
  | binary =>
    exact .within (p := .receiving) (by simp [endsSession]) (by simp [acknowledges]) hnot trivial
      (by rw [hreact]; exact standing_receive ha)
  | fault f =>
    refine .ended (by simp [endsSession, hp]) (by simp [acknowledges]) hnot ?_
    rw [hreact]
    exact standing_sessionFailed (w := w.note .left) hs ha f
  | text s =>
    have hends : w.endsSession (.arrival (.text s)) = (Frame.read s).ends := by simp [endsSession, hp]
    have hack : w.acknowledges (.arrival (.text s)) = (Frame.read s).acknowledges := by simp [acknowledges, hp]
    cases hframe : (Frame.read s).ends with
    | true =>
      have hquiet : (Frame.read s).acknowledges = false := Frame.acknowledges_of_ends hframe
      have hhandle := w.standing_handle_of_ends now hframe
      refine .ended (hends.trans hframe) (hack.trans hquiet) hnot ?_
      rw [hreact, received, if_pos hframe, ← hhandle]
      exact standing_sessionEnded (w := (w.handle now s .receive).note .left)
        ((congrArg Standing.strategy hhandle).trans hs) ((congrArg Standing.active hhandle).trans ha)
    | false =>
      have hreceived : w.received now (.text s) = w.handle now s .receive := if_neg (by simp [hframe])
      rcases standing_handle now s hs ha hframe with ⟨hyes, h⟩ | ⟨hno, p, hp', h⟩
      · exact .acknowledged (hends.trans hframe) (hack.trans hyes) hnot (by rw [hreact, hreceived, h])
      · exact .within (hends.trans hframe) (hack.trans hno) hnot hp' (by rw [hreact, hreceived, h])

theorem step_of_turn {x : Stimulus} {w' : Watcher τ} (hs : w.strategy = .push url false interval patience)
    (ha : w.life.active = true) (hplace : w.position.isBetween ∨ w.position = .connecting ∨ w.position.inSession)
    (hturn : Turn now w x w') (hreact : w.react now x = w') : Step now x w := by
  cases hturn with
  | begun hp =>
    refine .connects (by simp [endsSession]) (by simp [acknowledges]) (by rw [hp]; trivial) ?_
    rw [hreact, begin, hs]
    exact standing_loop hs ha
  | reply c hp =>
    rw [hp] at hplace
    rcases hplace with h | h | h <;> cases h
  | @called d e o left hp =>
    have hin : e.libraries = [] ∧ e.after = .receive := by
      rw [hp] at hplace
      rcases hplace with h | h | h
      · cases h
      · cases h
      · exact h
    obtain ⟨p, hp', h⟩ := standing_notified o left d hin.1 hin.2 ha
    exact .within (by simp [endsSession]) (by simp [acknowledges]) (by rw [hp]; exact id) hp' (hreact ▸ h)
  | opened result hp => exact step_of_opened hs ha result hp hreact
  | sent result hp => exact step_of_sent hs ha result hp hreact
  | arrival a hp => exact step_of_arrival hs ha a hp hreact
  | rested hp =>
    refine .connects (by simp [endsSession]) (by simp [acknowledges]) (by rw [hp]; trivial) ?_
    rw [hreact]
    exact standing_loop hs ha

/-- What the task does not wait for changes nothing, but a look at the health reads the breaker. -/
theorem quiet_of_carryOn_none {x : Stimulus} (hc : w.carryOn now x = none) (hx : x.isControl = false) :
    w.endsSession x = false ∧ w.acknowledges x = false ∧ w.deeds now x = [] ∧
      ((w.react now x).standing = w.standing ∨
        (w.react now x).standing = { w.standing with breaker := (w.breaker.read now).1 }) := by
  refine ⟨?_, ?_, by rw [deeds, hc], ?_⟩
  · unfold endsSession
    split <;> simp_all [carryOn]
  · unfold acknowledges
    split <;> simp_all [carryOn]
  · cases x with
    | start => cases hx
    | stop => cases hx
    | woken => cases hx
    | asked => exact standing_health now w
    | _ => exact Or.inl (by simp [react, hc])

/-- A watcher that is online takes one of these steps. -/
theorem online_step (now : τ) (x : Stimulus) (hs : w.strategy = .push url false interval patience)
    (ha : w.life.active = true) (hplace : w.position.isBetween ∨ w.position = .connecting ∨ w.position.inSession)
    (hx : x.isControl = false) : Step now x w := by
  cases hc : w.carryOn now x with
  | some w' =>
    have hturn := turn_of_carryOn hc
    exact step_of_turn hs ha hplace hturn (by cases hturn <;> simp [react, hc])
  | none =>
    obtain ⟨hends, hack, hdeeds, hreact⟩ := quiet_of_carryOn_none hc hx
    exact .quiet hends hack hdeeds hreact

/-- A task that waits for nothing of what comes does nothing. -/
theorem run_of_carryOn_none {p : Position τ} {ys : List (τ × Stimulus)}
    (hnone : ∀ y ∈ ys, ∀ v : Watcher τ, v.position = p → v.carryOn y.1 y.2 = none)
    (hys : ∀ y ∈ ys, y.2.isControl = false) (hp : w.position = p) :
    w.history ys = [] ∧ ∃ breaker, (w.run ys).standing = { w.standing with breaker := breaker } := by
  induction ys generalizing w with
  | nil => exact ⟨rfl, w.breaker, rfl⟩
  | cons y ys ih =>
    obtain ⟨now, x⟩ := y
    obtain ⟨hfirst, hlater⟩ := List.forall_mem_cons.mp hnone
    obtain ⟨hx, hys⟩ := List.forall_mem_cons.mp hys
    obtain ⟨-, -, hdeeds, hreact⟩ := quiet_of_carryOn_none (hfirst w hp) hx
    obtain ⟨breaker, hreact⟩ : ∃ breaker, (w.react now x).standing = { w.standing with breaker := breaker } := by
      rcases hreact with hreact | hreact
      · exact ⟨w.breaker, hreact⟩
      · exact ⟨_, hreact⟩
    obtain ⟨hhistory, breaker', hrun⟩ := ih hlater hys ((congrArg Standing.position hreact).trans hp)
    refine ⟨?_, breaker', ?_⟩
    · rw [history, hdeeds, hhistory]
      rfl
    · rw [run, hrun, hreact]

end Watcher

end MediaWatch
