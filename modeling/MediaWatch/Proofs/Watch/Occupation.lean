import MediaWatch.Proofs.Watch.Move
import MediaWatch.Service.Endpoint
import MediaWatch.Watch.Setup

/-!
# What a watcher shows of its task

The status of a watcher is set in many places and is derived from nothing. `Occupation` says what the task of a
subscription is busy with, and `Occupation.next` follows it by the deeds of the task: the sessions it opens, the frames
it handles, the sweeps and naps it begins. `Occupation.Agrees` ties status and position to it; one stimulus keeps that
(`Occupation.agrees_react`), and so does a run (`Occupation.agrees_run`). The main result,
`Watcher.status_iff_occupation`, is that the status shows the occupation at all times, and that the health endpoint
reports a degraded watcher during the two waits of an outage, and only then.
-/

namespace MediaWatch

/-- What the task of a subscription is busy with. -/
inductive Occupation where
  /-- There is no task. -/
  | none
  /-- The task was created, and no session and no sweep in place of one has begun. -/
  | early
  /-- A session is in progress; the truth value says whether its connection was acknowledged. -/
  | session (acknowledged : Bool)
  /-- A sweep that stands in for the subscription, or the nap after such a sweep. -/
  | standIn
  /-- A nap before the next session; the truth value says whether the breaker was open when it began. -/
  | pause (opened : Bool)
  deriving Repr, DecidableEq

namespace Occupation

variable {τ : Type}

/-- The occupation after a deed of the task. A nap that does not follow a sweep is a pause, and the breaker is open or
not when it begins. -/
def tell (opened : Bool) (o : Occupation) : Deed → Occupation
  | .began => .early
  | .ended => .none
  | .connecting => .session false
  | .handled f => if (Frame.read f).acknowledges then .session true else o
  | .sweeping .fallback => .standIn
  | .napping => if o = .standIn then .standIn else .pause opened
  | _ => o

/-- The occupation after some deeds that have led to a condition. Where they have led to another task, it is early. -/
def after (c : Watcher.Condition τ) (deeds : List Deed) (o : Occupation) : Occupation :=
  match c.position with
  | .created => .early
  | _ => deeds.foldl (tell c.breaker.isOpen) o

/-- The occupation after a stimulus. -/
def next [Scalar τ] (now : τ) (x : Stimulus) (w : Watcher τ) (o : Occupation) : Occupation :=
  o.after (w.react now x).condition (w.deeds now x)

/-- The occupation after a run that begins with the given one. -/
def run [Scalar τ] (w : Watcher τ) (o : Occupation) : List (τ × Stimulus) → Occupation
  | [] => o
  | (now, x) :: xs => run (w.react now x) (o.next now x w) xs

/-! ## Agreement -/

/-- What the task is at work for during an occupation. -/
def For (o : Occupation) : After → Prop
  | .loop => o = .early
  | .receive => ∃ b, o = .session b
  | .fallback => o = .standIn
  | _ => False

/-- Where the task stands during an occupation. -/
def At (o : Occupation) : Position τ → Prop
  | .absent => o = .none
  | .created => o = .early
  | .querying _ a => o.For a
  | .notifying _ e => o.For e.after
  | .connecting | .sending _ => o = .session false
  | .receiving => ∃ b, o = .session b
  | .napping _ => o = .standIn ∨ ∃ b, o = .pause b

/-- The status that goes with an occupation. -/
def Shows (o : Occupation) (s : Status) : Prop :=
  match o with
  | none => s = .stopped ∨ s = .failed
  | early => s = .starting
  | session acknowledged => s = if acknowledged then .connected else .connecting
  | standIn => s = .degraded
  | pause opened => s = if opened then .degraded else .reconnecting

/-- A condition whose position and status are those of an occupation. -/
structure Agrees (o : Occupation) (c : Watcher.Condition τ) : Prop where
  position : o.At c.position
  status : o.Shows c.life.status
  task : c.position = .absent ∨ c.life.task ≠ Option.none

variable {o : Occupation}

/-- What the task goes on with is what it is at work for. -/
theorem At.for {p : Position τ} (h : o.At p) {a : After} (ha : p.after? = some a) : o.For a := by
  cases p with
  | querying s b => cases ha; exact h
  | notifying d e => cases ha; exact h
  | sending frame => cases frame with
    | hello => cases ha
    | subscribe => cases ha; exact ⟨_, h⟩
  | receiving => cases ha; exact h
  | _ => cases ha

theorem at_of_isWork {p : Position τ} {a : After} (h : p.IsWork a) (ha : o.For a) : o.At p := by
  cases p with
  | querying s b => cases s with
    | listing => exact h.elim
    | reading e rest =>
      obtain rfl : b = a := h
      exact ha
  | notifying d e =>
    obtain rfl : e.after = a := h
    exact ha
  | _ => exact h.elim

/-! ## Deeds -/

theorem foldl_tell {opened : Bool} {ds : List Deed} (h : ∀ d ∈ ds, o.tell opened d = o) :
    ds.foldl (tell opened) o = o := by
  induction ds with
  | nil => rfl
  | cons d ds ih =>
    obtain ⟨hd, hds⟩ := List.forall_mem_cons.mp h
    rw [List.foldl_cons, hd, ih hds]

variable {w : Watcher τ} {x : Stimulus}

/-- What a stimulus itself tells does not change the occupation, unless it acknowledges the connection. -/
theorem foldl_occasion (h : o.At w.position) (hack : w.acknowledges x = false) (opened : Bool) :
    (w.occasion x).foldl (tell opened) o = o := by
  unfold Watcher.occasion
  split
  · rename_i hp
    rw [hp] at h
    exact Eq.symm h
  · rename_i s a hp
    cases s with
    | listing => rfl
    | reading e rest =>
      refine foldl_tell fun d hd => ?_
      obtain ⟨r, -, rfl⟩ := List.mem_map.mp hd
      rfl
  · rfl
  · rename_i f hp
    have hread : (Frame.read f).acknowledges = false := by simpa [Watcher.acknowledges, hp] using hack
    exact if_neg (by rw [hread]; exact Bool.false_ne_true)
  · rfl

theorem foldl_acknowledged (hack : w.acknowledges x = true) (opened : Bool) :
    (w.occasion x).foldl (tell opened) o = .session true := by
  unfold Watcher.acknowledges at hack
  split at hack
  · rename_i f hp
    rw [show w.occasion _ = [.handled f] by simp [Watcher.occasion, hp]]
    exact if_pos hack
  · cases hack

/-- What ends a session meets one. -/
theorem session_of_endsSession (h : o.At w.position) (hends : w.endsSession x = true) :
    (∃ b, o = .session b) ∧ w.position ≠ .absent := by
  unfold Watcher.endsSession at hends
  split at hends
  · rename_i hp
    rw [hp] at h ⊢
    exact ⟨⟨_, h⟩, nofun⟩
  · rename_i hp
    rw [hp] at h ⊢
    exact ⟨⟨_, h⟩, nofun⟩
  · rename_i hp
    rw [hp] at h ⊢
    exact ⟨h, nofun⟩
  · rename_i hp
    rw [hp] at h ⊢
    exact ⟨h, nofun⟩
  · cases hends

/-! ## One stimulus -/

section Steps

open Watcher

variable [Scalar τ] {now : τ} {c c' : Condition τ} {url : String} {backed : Bool} {interval patience : τ}

/-- The occupation of a task that comes to where a condition says. -/
def coming (c : Condition τ) (o : Occupation) : Occupation := o.after c c.position.entering

omit [Scalar τ] in
theorem agrees_finished (hactive : c.life.active = false) (htask : c.life.task ≠ Option.none) :
    (o.coming c.finished).Agrees c.finished := by
  have hlife := Lifecycle.finish_of_inactive hactive
  rw [if_neg htask] at hlife
  refine ⟨rfl, ?_, Or.inl rfl⟩
  show Occupation.none.Shows c.life.finish.1.status
  rw [hlife]
  by_cases hfailed : c.life.status = .failed
  · exact Or.inr (if_pos hfailed)
  · exact Or.inl (if_neg hfailed)

omit [Scalar τ] in
theorem agrees_standingIn (htask : c.life.task ≠ Option.none) : (o.coming c.standingIn).Agrees c.standingIn :=
  ⟨rfl, rfl, Or.inr htask⟩

/-- At the top of the loop nothing of the past counts. -/
theorem agrees_of_looped (h : c.Looped now c') (hs : c.strategy = .push url backed interval patience)
    (htask : c.life.task ≠ Option.none) : (o.coming c').Agrees c' := by
  cases h with
  | finished hactive => exact agrees_finished hactive htask
  | polls _ hpolls => cases hs.symm.trans hpolls
  | givenUp _ _ _ => exact agrees_standingIn htask
  | held _ _ _ _ => exact agrees_standingIn (c := c.readBreaker now) htask
  | tries _ _ _ _ => exact ⟨rfl, rfl, Or.inr htask⟩
  | connects _ _ => exact ⟨rfl, rfl, Or.inr htask⟩

/-- A piece of work is done for the occupation that it was begun in. -/
theorem agrees_of_onward {a : After} (h : c.Onward now a c') (hs : c.strategy = .push url backed interval patience)
    (htask : c.life.task ≠ Option.none) (hfits : a.Fits c.strategy) (ha : o.For a) (hstatus : o.Shows c.life.status) :
    (o.coming c').Agrees c' := by
  cases h with
  | @works p hp =>
    have hentering : o.coming (c.atPosition p) = o := by
      cases p with
      | querying s b => cases s with
        | listing => exact hp.elim
        | reading e rest => rfl
      | notifying d e => rfl
      | _ => exact hp.elim
    rw [hentering]
    exact ⟨at_of_isWork hp ha, hstatus, Or.inr htask⟩
  | loops _ hlooped => exact agrees_of_looped hlooped hs htask
  | idles _ hpolls _ => cases hs.symm.trans hpolls
  | rests hrests _ _ =>
    subst hrests
    obtain rfl : o = .standIn := ha
    exact ⟨Or.inl rfl, hstatus, Or.inr htask⟩
  | listens hlistens _ =>
    subst hlistens
    exact ⟨ha, hstatus, Or.inr htask⟩
  | finished hactive => exact agrees_finished hactive htask
  | drops hno => exact absurd hfits hno

/-- The end of a session. -/
theorem agrees_of_sessionEnd (h : c.SessionEnd now c') (htask : c.life.task ≠ Option.none) (ho : o ≠ .standIn) :
    (o.coming c').Agrees c' := by
  cases h with
  | finished hactive => exact agrees_finished hactive htask
  | givesUp _ _ _ =>
    exact agrees_finished (c := { c.failed now with life := { c.life with active := false, status := .failed } }) rfl htask
  | disables _ _ _ => exact agrees_standingIn (c := { c.failed now with pushEnabled := false }) htask
  | diverts _ _ _ _ => exact agrees_standingIn (c := (c.failed now).readBreaker now) htask
  | draws _ _ _ =>
    have hcoming : ∀ c'' : Condition τ, (∃ seconds, c''.position = .napping seconds) →
        o.coming c'' = .pause c''.breaker.isOpen := by
      rintro c'' ⟨seconds, hp⟩
      rw [coming, after, hp]
      exact if_neg ho
    rw [hcoming _ ⟨_, rfl⟩]
    exact ⟨Or.inr ⟨_, rfl⟩, rfl, Or.inr htask⟩

theorem agrees_of_passed (h : c.Passed now c') (hs : c.strategy = .push url backed interval patience)
    (hfits : c.position.Fits c.strategy) (ho : o.Agrees c) : (o.coming c').Agrees c' := by
  have htask : c.position ≠ .absent → c.life.task ≠ Option.none := ho.task.resolve_left
  cases h with
  | begins hp _ =>
    have hearly : o = .early := by
      have hat := ho.position
      rwa [hp] at hat
    exact ⟨hearly, ho.status, Or.inr (htask (by rw [hp]; nofun))⟩
  | opens hp =>
    have hsession : o = .session false := by
      have hat := ho.position
      rwa [hp] at hat
    exact ⟨hsession, ho.status, Or.inr (htask (by rw [hp]; nofun))⟩
  | greets hp =>
    have hsession : o = .session false := by
      have hat := ho.position
      rwa [hp] at hat
    exact ⟨hsession, ho.status, Or.inr (htask (by rw [hp]; nofun))⟩
  | loops hp hlooped =>
    refine agrees_of_looped hlooped hs (htask fun habsent => ?_)
    rcases hp with hp | ⟨seconds, hp⟩ <;> rw [hp] at habsent <;> cases habsent
  | goesOn hp honward =>
    refine agrees_of_onward honward hs (htask fun habsent => ?_) (hfits.of_after? hp) (ho.position.for hp) ho.status
    rw [habsent] at hp
    cases hp

omit [Scalar τ] in
/-- Without a deed the occupation is what it was. -/
theorem agrees_of_position (ho : o.Agrees c) (hp : c'.position = c.position) (hstatus : c'.life.status = c.life.status)
    (htask : c'.life.task = c.life.task) : (o.after c' []).Agrees c' := by
  have hstays : o.after c' [] = o := by
    rw [after, hp]
    split
    · rename_i hcreated
      have hat := ho.position
      rw [hcreated] at hat
      exact Eq.symm hat
    · rfl
  rw [hstays]
  exact ⟨hp ▸ ho.position, hstatus ▸ ho.status, by rw [hp, htask]; exact ho.task⟩

theorem agrees_of_touched (h : c.Touched now x c') (ho : o.Agrees c) : (o.after c' []).Agrees c' := by
  cases h with
  | starts _ _ _ => exact ⟨rfl, rfl, Or.inr (by simp [Lifecycle.spawn])⟩
  | still => exact agrees_of_position ho rfl rfl rfl
  | resumes _ _ _ => exact agrees_of_position ho rfl rfl rfl
  | stops _ => exact agrees_of_position ho rfl rfl rfl
  | wakes _ => exact agrees_of_position ho rfl rfl rfl
  | looks => exact agrees_of_position ho rfl rfl rfl

omit [Scalar τ] in
theorem after_append (c : Condition τ) (ds es : List Deed) :
    o.after c (ds ++ es) = (ds.foldl (tell c.breaker.isOpen) o).after c es := by
  unfold after
  split
  · rfl
  · exact List.foldl_append

theorem next_eq_coming (hdeeds : w.deeds now x = w.occasion x ++ (w.react now x).position.entering) :
    o.next now x w =
      ((w.occasion x).foldl (tell (w.react now x).breaker.isOpen) o).coming (w.react now x).condition := by
  rw [next, hdeeds, after_append]
  rfl

/-- Whatever happens, position and status stay those of the occupation. -/
theorem agrees_react (hplaced : w.condition.Placed (.push url backed interval patience)) (ho : o.Agrees w.condition)
    (now : τ) (x : Stimulus) : (o.next now x w).Agrees (w.react now x).condition := by
  have hs := hplaced.strategy
  have hfits := hs.symm ▸ hplaced.fits
  have hreceiving : w.condition.position = .receiving → w.condition.life.task ≠ Option.none := fun hp =>
    ho.task.resolve_left (by rw [hp]; nofun)
  cases move now x w with
  | touched _ _ hdeeds htouched =>
    rw [next, hdeeds]
    exact agrees_of_touched htouched ho
  | passed _ hack hdeeds hpassed =>
    rw [next_eq_coming hdeeds, foldl_occasion ho.position hack]
    exact agrees_of_passed hpassed hs hfits ho
  | acknowledged _ hack hp hdeeds _ honward =>
    rw [next_eq_coming hdeeds, foldl_acknowledged hack]
    refine agrees_of_onward honward hs (hreceiving hp) ?_ ⟨true, rfl⟩ rfl
    exact hfits.of_after? (by rw [show w.condition.position = .receiving from hp]; rfl)
  | catchesUp _ hack hp hdeeds _ hreact =>
    rw [next_eq_coming hdeeds, foldl_acknowledged hack, hreact]
    exact ⟨⟨true, rfl⟩, rfl, Or.inr (hreceiving hp)⟩
  | ended hends hack hdeeds hended =>
    rw [next_eq_coming hdeeds, foldl_occasion ho.position hack]
    obtain ⟨⟨b, rfl⟩, hpresent⟩ := session_of_endsSession ho.position hends
    exact agrees_of_sessionEnd hended (ho.task.resolve_left hpresent) nofun

/-- So they do in every run. -/
theorem agrees_run (hplaced : w.condition.Placed (.push url backed interval patience)) (ho : o.Agrees w.condition)
    (xs : List (τ × Stimulus)) : (o.run w xs).Agrees (w.run xs).condition := by
  induction xs generalizing w o with
  | nil => exact ho
  | cons y xs ih =>
    obtain ⟨now, x⟩ := y
    exact ih (placed_react hplaced now x) (agrees_react hplaced ho now x)

end Steps

/-! ## What is shown -/

/-- No status goes with two occupations of different kinds. -/
theorem Shows.iffs {s : Status} (h : o.Shows s) :
    (s = .connected ↔ o = .session true) ∧ (s = .connecting ↔ o = .session false) ∧
      (s = .degraded ↔ o = .standIn ∨ o = .pause true) ∧ (s = .reconnecting ↔ o = .pause false) ∧
      (s = .starting ↔ o = .early) := by
  cases o with
  | none => rcases h with rfl | rfl <;> decide
  | early => obtain rfl := h; decide
  | session acknowledged => cases acknowledged <;> obtain rfl := h <;> decide
  | standIn => obtain rfl := h; decide
  | pause opened => cases opened <;> obtain rfl := h <;> decide

end Occupation

/-! ## Health -/

namespace Watcher

/-- What the health endpoint says of a report, in a word. -/
theorem healthBody_report (h : Health Number) :
    (Endpoint.healthBody (some h.report)).bind (·.get? "status") =
      some (.str (match h.status with
        | .degraded => "degraded"
        | .failed => "failed"
        | _ => if h.active then "ok" else "stopped")) := by
  obtain ⟨mode, active, status, lastEventAt, push⟩ := h
  cases status <;> cases active <;> rfl

/-- It says `degraded` of degraded watchers only. -/
theorem healthBody_eq_degraded_iff (h : Health Number) :
    (Endpoint.healthBody (some h.report)).bind (·.get? "status") = some (.str "degraded") ↔ h.status = .degraded := by
  rw [healthBody_report]
  cases h.status <;> cases h.active <;> simp

theorem status_health {τ : Type} [Scalar τ] (now : τ) (w : Watcher τ) : (w.health now).1.status = w.life.status := by
  unfold health
  cases w.strategy with
  | polling interval => rfl
  | push url fallback interval patience => exact congrArg (fun c => c.life.status) (condition_readBreaker w now)

/-- **The status of a subscription is true.** Take a watcher with a subscription that has no task, and let anything
happen to it: it is started and stopped, sessions come and go, frames and answers come in, someone asks for its health.
Then at all times its task stands where it stands in its occupation, and

* the status is `connected` exactly in a session whose connection was acknowledged, and `connecting` exactly in any other;
* it is `degraded` exactly in a sweep that stands in for the subscription or the nap after it, or in a pause that began
  with the breaker open, and `reconnecting` exactly in any other pause;
* it is `starting` exactly before the first session or sweep of a task;
* the health endpoint says that the watcher is degraded exactly in those two waits. -/
theorem status_iff_occupation {w : Watcher Number} {url : String} {backed : Bool} {interval patience : Number}
    (hs : w.strategy = .push url backed interval patience) (hposition : w.position = .absent)
    (hstatus : w.life.status = .stopped ∨ w.life.status = .failed) (xs : List (Number × Stimulus)) :
    let v := w.run xs
    let o := Occupation.run w .none xs
    o.At v.position ∧
      (v.life.status = .connected ↔ o = .session true) ∧
      (v.life.status = .connecting ↔ o = .session false) ∧
      (v.life.status = .degraded ↔ o = .standIn ∨ o = .pause true) ∧
      (v.life.status = .reconnecting ↔ o = .pause false) ∧
      (v.life.status = .starting ↔ o = .early) ∧
      ∀ now, (Endpoint.healthBody (some (v.health now).1.report)).bind (·.get? "status") = some (.str "degraded") ↔
        o = .standIn ∨ o = .pause true := by
  have hplaced : w.condition.Placed (.push url backed interval patience) := ⟨hs, by
    rw [show w.condition.position = .absent from hposition]
    trivial⟩
  have hagrees : Occupation.none.Agrees w.condition := ⟨by
    rw [show w.condition.position = .absent from hposition]
    rfl, hstatus, Or.inl hposition⟩
  have hrun := Occupation.agrees_run hplaced hagrees xs
  obtain ⟨hconnected, hconnecting, hdegraded, hreconnecting, hstarting⟩ := hrun.status.iffs
  refine ⟨hrun.position, hconnected, hconnecting, hdegraded, hreconnecting, hstarting, fun now => ?_⟩
  rw [healthBody_eq_degraded_iff, status_health]
  exact hdegraded

/-- A watcher with a subscription that is backed by sweeps, and with a breaker that opens at the second failure. -/
def aided : Watcher Number :=
  .fresh (.push "ws://s" true (.int 60) (.int 30)) ⟨500, true⟩ [] none (.fresh (.int 1) (.int 60) (.int 2) (.int 0) none [])
    (.fresh "push" 2 (.int 30))

/-- Its first session is acknowledged and lost, and its second one does not open. -/
def outage : List (Number × Stimulus) :=
  [(.int 0, .start), (.int 0, .begun), (.int 0, .reply fun _ => .error "away"), (.int 1, .opened (.ok ())),
    (.int 1, .sent (.ok ())), (.int 1, .sent (.ok ())),
    (.int 2, .arrival (.text ⟨"\x7b\"type\":\"connection_ack\"\x7d", 1⟩)), (.int 2, .reply fun _ => .error "away"),
    (.int 3, .arrival (.fault (.closed "gone"))), (.int 4, .rested), (.int 4, .opened (.error (.other "refused")))]

/-- The watcher says that it is connected while its session goes on, then that it reconnects, and then that it is
degraded. -/
theorem status_of_outage :
    aided.strategy = .push "ws://s" true (.int 60) (.int 30) ∧ aided.position = .absent ∧
      aided.life.status = .stopped ∧ Occupation.run aided .none (outage.take 7) = .session true ∧
      (aided.run (outage.take 7)).life.status = .connected ∧
      Occupation.run aided .none (outage.take 9) = .pause false ∧
      (aided.run (outage.take 9)).life.status = .reconnecting ∧ Occupation.run aided .none outage = .standIn ∧
      (aided.run outage).life.status = .degraded := by
  have hs : aided.strategy = .push "ws://s" true (.int 60) (.int 30) := rfl
  have hlive : Occupation.run aided .none (outage.take 7) = .session true := by decide +kernel
  have hpause : Occupation.run aided .none (outage.take 9) = .pause false := by decide +kernel
  have hout : Occupation.run aided .none outage = .standIn := by decide +kernel
  obtain ⟨-, hconnected, -⟩ := status_iff_occupation hs rfl (Or.inl rfl) (outage.take 7)
  obtain ⟨-, -, -, -, hreconnecting, -⟩ := status_iff_occupation hs rfl (Or.inl rfl) (outage.take 9)
  obtain ⟨-, -, -, hdegraded, -⟩ := status_iff_occupation hs rfl (Or.inl rfl) outage
  exact ⟨hs, rfl, rfl, hlive, hconnected.mpr hlive, hpause, hreconnecting.mpr hpause, hout, hdegraded.mpr (Or.inl hout)⟩

end Watcher

end MediaWatch
