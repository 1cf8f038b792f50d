import MediaWatch.Rehearsal.Agenda
import MediaWatch.Rehearsal.Trace

/-!
# Lives on stage

A `Life` rehearses the lifecycle of a watcher whose runs follow plans: each task follows the next `Plan`, the last one
again and again.
-/

namespace MediaWatch.Rehearsal

/-- What a run does. -/
inductive Plan where
  /-- Fails. -/
  | crash
  /-- Ends. -/
  | return
  /-- Waits to be released, then ends. -/
  | wait
  /-- Naps for a second, over and over, while the session lasts. -/
  | loop
  /-- Gives up. -/
  | giveUp
  /-- Ends the session before a long nap. -/
  | lieDown
  deriving Repr, DecidableEq

/-- Where a run stands. -/
inductive LifePosition where
  | absent
  | created
  | waiting
  | napping
  deriving Repr, DecidableEq

/-- What is on the agenda of a life. -/
inductive LifeJob where
  | begin
  | wake
  | released
  | rested (nap : Nat)
  deriving Repr, DecidableEq

/-- A lifecycle on stage. -/
structure Life where
  life : Lifecycle
  plans : List Plan
  /-- Runs that have begun. -/
  runs : Nat
  released : Bool
  position : LifePosition
  /-- The number of the latest nap. -/
  naps : Nat
  now : Number
  agenda : Agenda LifeJob
  trace : Trace

namespace Life

/-- The mode in messages. -/
def mode : String := "scripted"

/-- A life before its first start. -/
def fresh (plans : List Plan) : Life := ⟨.initial, plans, 0, false, .absent, 0, .float 0.0, [], []⟩

def mark (m : Mark) (l : Life) : Life := { l with trace := (l.now, m) :: l.trace }

def say (n : Notice) (l : Life) : Life := l.mark (.log n)

def post (at_ : Number) (j : LifeJob) (l : Life) : Life := { l with agenda := l.agenda.post at_ j }

/-- Notes a status that differs from the one before. -/
def noteStatus (before : Status) (l : Life) : Life :=
  if l.life.status = before then l else l.mark (.status l.life.status)

/-! ## From outside -/

def start (l : Life) : Life :=
  let (life, started) := l.life.start
  let before := l.life.status
  let l := { l with life }
  match started with
  | .already => l
  | .resumed => l.say (.resuming mode)
  | .created => ((noteStatus before { l with position := .created }).post l.now .begin).say (.starting mode)

def stop (l : Life) : Life :=
  let wasActive := l.life.active
  let l := post l.now .wake { l with life := l.life.stop }
  if wasActive then l.say (.stopping mode) else l

/-- Lets go whoever waits for it, now or later. -/
def release (l : Life) : Life := post l.now .released { l with released := true }

/-! ## The run -/

/-- The run ends. -/
def finish (l : Life) : Life :=
  let (life, ended) := l.life.finish
  let before := l.life.status
  let l := { l with life, position := .absent }
  match ended with
  | .handedOver => post l.now .begin { l with position := .created }
  | .crashed => (l.say (.exited mode)).noteStatus before
  | .stopped => l.noteStatus before

/-- Takes a nap, unless the session is over. -/
def nap (seconds : Number) (l : Life) : Life :=
  if l.life.active then
    post (l.now.add seconds) (.rested (l.naps + 1))
      { l with life := l.life.beginSleep, naps := l.naps + 1, position := .napping }
  else l.finish

/-- Waits to be released. -/
def await (l : Life) : Life :=
  if l.released then finish { l with released := false } else { l with position := .waiting }

/-- The plan of the next run. -/
def plan (l : Life) : Plan := (l.plans[l.runs]?).getD (l.plans.getLastD .return)

/-- The run begins. -/
def begin (l : Life) : Life :=
  let plan := l.plan
  let l := { l with runs := l.runs + 1 }
  match plan with
  | .crash => (l.say (.crashed "broken loop")).finish
  | .return => l.finish
  | .wait => l.await
  | .loop => l.nap (.int 1)
  | .giveUp => finish (noteStatus l.life.status { l with life := { l.life.clearFlag with status := .failed } })
  | .lieDown => nap (.int 1000) { l with life := l.life.clearFlag }

/-- Does what is on the agenda. -/
def perform (l : Life) : LifeJob → Life
  | .begin => if l.position = .created then l.begin else l
  | .wake =>
    let l := { l with life := l.life.wake }
    if l.position = .napping then l.post l.now (.rested l.naps) else l
  | .released => if l.position = .waiting then l.await else l
  | .rested n => if l.position = .napping ∧ n = l.naps then l.nap (.int 1) else l

/-- Works off the agenda as far as it is due no later than `limit`, or all of it without a limit, until `stop` says
so. -/
def run (limit : Option Number) (stop : Life → Bool) : Nat → Life → Life
  | 0, l => l
  | fuel + 1, l =>
    match l.agenda with
    | [] => l
    | (t, j) :: rest =>
      if limit.any (· < t) || stop l then l else run limit stop fuel ({ l with now := t, agenda := rest }.perform j)

/-- The most steps at a time. -/
def fuel : Nat := 100000

/-- All that happens without time passing. -/
def settle (l : Life) : Life := run (some l.now) (fun _ => false) fuel l

/-- Waits until there is no run. -/
def join (l : Life) : Life := run none (·.life.task.isNone) fuel l

/-- Waits for some time. -/
def sleep (seconds : Number) (l : Life) : Life :=
  let t := l.now.add seconds
  { run (some t) (fun _ => false) fuel l with now := t }

/-- The report. -/
def health (l : Life) : Watcher.Health Number := ⟨mode, l.life.active, l.life.status, none, none⟩

end Life

end MediaWatch.Rehearsal
