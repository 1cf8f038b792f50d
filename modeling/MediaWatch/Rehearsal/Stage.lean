import MediaWatch.Client.Survey
import MediaWatch.Rehearsal.Agenda
import MediaWatch.Rehearsal.Cast
import MediaWatch.Rehearsal.Replies
import MediaWatch.Rehearsal.Trace
import MediaWatch.Rehearsal.World
import MediaWatch.Service.Service

/-!
# Rehearsals

A `Stage` runs a service and its watcher against an outside that is made up, on a virtual clock. Wherever the watcher's
task waits, `Stage.attend` sees to what it waits for: at once, or at a later time on the agenda. `Stage.run` works off
the agenda up to a given time. Nothing but waiting takes time.
-/

namespace MediaWatch.Rehearsal

/-- A scripted session of the subscription. -/
structure Session where
  /-- The time it takes to open. -/
  delay : Number
  /-- Why it cannot be opened. -/
  fault : Option Fault
  /-- Why nothing can be sent. -/
  sendFault : Option Fault
  /-- What is received, each no earlier than so many seconds after the session was opened. -/
  frames : List (Number × Arrival)
  /-- Whether the connection is closed after the last frame. -/
  closes : Bool

/-- The reason that closed connections give. -/
def closedReason : Text := "no close frame received or sent"

/-- A server that refuses every connection. -/
def Session.refused : Session := ⟨.int 0, some (.other "connection refused"), none, [], false⟩

/-- A scripted endpoint: how long it is served, and how that ends. -/
structure Serving where
  port : Int
  seconds : Option Number
  fault : Option Client.Failure

/-- What the outside does of its own accord. -/
inductive Action where
  | start
  | stop
  | health
  | world (w : World) (latency : Number)
  | cancel
  | shutDown

/-- What a waiting task has been waiting for. -/
inductive Relief where
  | reply
  | called
  | answered (t : Part.Taken)
  | late
  | opened
  | sent
  | frame
  | closed
  | silence
  | rested

/-- What is on the agenda. -/
inductive Job where
  | act (a : Action)
  /-- The watcher's task begins. -/
  | begin
  /-- A posted callback runs. -/
  | wake
  /-- What the task has been waiting for has come, if it still waits for it. -/
  | relieve (ticket : Nat) (r : Relief)
  /-- The main task begins. -/
  | main
  | serve
  | serveEnd
  | grace
  | guestGrace

/-- A rehearsal. -/
structure Stage where
  service : Service Number
  parts : List Part
  world : World
  /-- The time that the world takes to answer. -/
  latency : Number
  /-- The conversation that takes the place of the world, if there is one. -/
  server : Option (Client.Conversation Replies Number)
  authorization : Text
  sessions : List Session
  /-- The session when no other is left. -/
  lastSession : Session
  /-- The session at hand and when it was opened. -/
  session : Session
  openedAt : Number
  serving : Option Serving
  /-- The number of the wait at hand. -/
  ticket : Nat
  now : Number
  agenda : Agenda Job
  trace : Trace

namespace Stage

def watcher (s : Stage) : Watcher Number := s.service.watcher

/-! ## Elementary steps -/

def mark (m : Mark) (s : Stage) : Stage := { s with trace := (s.now, m) :: s.trace }

def post (at_ : Number) (j : Job) (s : Stage) : Stage := { s with agenda := s.agenda.post at_ j }

/-- Relieves the waiting task at a given time. -/
def later (at_ : Number) (r : Relief) (s : Stage) : Stage :=
  post at_ (.relieve (s.ticket + 1) r) { s with ticket := s.ticket + 1 }

/-- Relieves the waiting task before anything else happens. -/
def atOnce (r : Relief) (s : Stage) : Stage :=
  { s with ticket := s.ticket + 1, agenda := s.agenda.press s.now (.relieve (s.ticket + 1) r) }

/-- The time after so many seconds. -/
def after (s : Stage) (seconds : Number) : Number := s.now.add seconds

/-- Takes in an entry of the watcher's journal. -/
def absorb (s : Stage) : Entry → Stage
  | .status st => s.mark (.status st)
  | .notice n => s.mark (.log n)
  | .left => s.mark .disconnect
  | .created => s.post s.now .begin
  | .posted => s.post s.now .wake

/-- Goes on with a service that has taken a step: its journal is taken in, and a shutdown that has begun gets its
grace. -/
def took (service : Service Number) (s : Stage) : Stage :=
  let begun := match service.state, s.service.state with
    | .closing _, .closing _ => false
    | .closing _, _ => true
    | _, _ => false
  let journal := service.watcher.journal.reverse
  let s := journal.foldl absorb { s with service := { service with watcher := { service.watcher with journal := [] } } }
  if begun then s.post (s.after (.int Service.grace)) .grace else s

/-- Talks to the scripted server; a client that was closed stays so. -/
def talk {α : Type} (conversation : Client.Conversation Replies Number) (t : Client.Talk Replies Number α) (s : Stage) :
    Except Client.Failure α × Stage :=
  let closed := conversation.client.closed || s.service.closings > 0
  let held := Replies.hold t { conversation with client := { conversation.client with closed } }
  (held.result, held.sent.foldl (fun s m => s.mark (.message m)) { s with server := some held.after })

/-! ## What a task waits for -/

/-- Calls the listener of a delivery. -/
def call (d : Delivery) (s : Stage) : Part.Taken × Stage :=
  let taken := (s.parts.getD d.listener .base).take d.hook d.batch
  let s := if taken.notes then s.mark (.deliver d.listener d.hook d.batch) else s
  (taken, taken.notices.foldl (fun s n => s.mark (.log n)) s)

/-- The session that is opened next. -/
def nextSession (s : Stage) : Session := s.sessions.headD s.lastSession

/-- Waits for a frame for a while. -/
def awaitFrame (patience : Number) (s : Stage) : Stage :=
  let limit := s.after patience
  match s.session.frames with
  | (due, _) :: _ =>
    let at_ := s.openedAt.add due
    if at_ ≤ s.now then s.later s.now .frame
    else if at_ < limit then s.later at_ .frame
    else s.later limit .silence
  | [] => if s.session.closes then s.later s.now .closed else s.later limit .silence

/-- Sees to what the watcher's task waits for. -/
def attend (s : Stage) : Stage :=
  match s.watcher.position with
  | .absent | .created => s
  | .querying sweep _ =>
    if s.server.isSome then s.atOnce .reply
    else
      let s := s.mark (.query (sweep.query s.watcher.detector))
      if s.latency.isZero then s.atOnce .reply else s.later (s.after s.latency) .reply
  | .notifying d _ =>
    let taken := (s.parts.getD d.listener .base).take d.hook d.batch
    match s.watcher.listenerTimeout with
    | some limit =>
      if !taken.waits then s.atOnce .called
      else if limit ≤ .int 0 then s.later s.now .late
      else s.later s.now .called
    | none => s.atOnce .called
  | .connecting =>
    let url := match s.watcher.strategy with
      | .push url .. => url
      | .polling _ => ""
    let s := { s.mark (.connect url s.authorization) with session := s.nextSession, sessions := s.sessions.tail }
    if s.session.delay.isZero then s.atOnce .opened else s.later (s.after s.session.delay) .opened
  | .sending _ => s.atOnce .sent
  | .receiving =>
    match s.watcher.strategy with
    | .push _ _ _ patience => s.awaitFrame patience
    | .polling _ => s
  | .napping seconds => s.later (s.after seconds) .rested

/-- A step of the watcher's task, after which it waits for something else. -/
def advance (step : Watcher Number → Watcher Number) (s : Stage) : Stage := (s.took (s.service.drive step)).attend

/-- A step of the service from outside, which leaves the watcher's task where it waits, unless it ends it. -/
def touch (step : Service Number → Service Number) (s : Stage) : Stage := s.took (step s.service)

/-! ## What comes -/

/-- The answer to a question, and the stage after it. -/
def reply (q : Query) (s : Stage) : Except Text q.Reply × Stage :=
  match s.server with
  | none => (s.world.answer q, s)
  | some conversation =>
    let (result, s) := s.talk conversation (Client.survey Replies.wire q)
    (result.mapError Client.Failure.message, s)

/-- The listener at hand is called. -/
def calledListener (d : Delivery) (s : Stage) : Stage :=
  let (taken, s) := s.call d
  let limit := if taken.waits then s.watcher.listenerTimeout else none
  match taken.delay, limit with
  | none, none => s.atOnce (.answered taken)
  | none, some _ => s.later s.now (.answered taken)
  | some delay, none => s.later (s.after delay) (.answered taken)
  | some delay, some limit =>
    if delay < limit then s.later (s.after delay) (.answered taken) else s.later (s.after limit) .late

/-- The watcher's task gets what it has been waiting for. -/
def relieve (r : Relief) (s : Stage) : Stage :=
  match r, s.watcher.position with
  | .reply, .querying sweep after =>
    let w := s.watcher
    let (reply, s) := s.reply (sweep.query w.detector)
    s.advance fun _ => w.answered s.now sweep after reply
  | .called, .notifying d _ => s.calledListener d
  | .answered taken, .notifying d e =>
    let s := if taken.delay.isSome then s.mark (.finished d.listener) else s
    s.advance (·.notified s.now taken.outcome taken.batch d e)
  | .late, .notifying d e => s.advance (·.notified s.now .late d.batch d e)
  | .opened, .connecting =>
    match s.session.fault with
    | some f => s.advance (·.opened s.now (.error f))
    | none => { s with openedAt := s.now }.advance (·.opened s.now (.ok ()))
  | .sent, .sending frame =>
    match s.session.sendFault with
    | some f => s.advance (·.sent s.now frame (.error f))
    | none => (s.mark (.send frame)).advance (·.sent s.now frame (.ok ()))
  | .frame, .receiving =>
    match s.session.frames with
    | (_, arrival) :: rest =>
      { s with session := { s.session with frames := rest } }.advance (·.received s.now arrival)
    | [] => s
  | .closed, .receiving => s.advance (·.received s.now (.fault (.closed closedReason)))
  | .silence, .receiving => s.advance (·.received s.now .nothing)
  | .rested, .napping _ => s.advance (·.rested s.now)
  | _, _ => s

/-- A posted callback runs, which ends a nap. -/
def wake (s : Stage) : Stage :=
  let s := s.touch fun v => { v with watcher := { v.watcher with life := v.watcher.life.wake } }
  match s.watcher.position with
  | .napping _ => s.later s.now .rested
  | _ => s

/-- The watcher's report. -/
def report (s : Stage) : Watcher.Health Number × Stage :=
  let (health, w) := s.watcher.health s.now
  (health, s.took { s.service with watcher := w })

/-- The main task checks the connection and goes on. -/
def main (s : Stage) : Stage :=
  match s.service.state, s.server with
  | .unbegun, some conversation =>
    let (result, s) := s.talk conversation (Client.call Replies.wire .libraries)
    let url := conversation.client.baseUrl
    let s := s.touch fun v => v.begin.checked url s.serving.isSome (result.map List.length)
    match s.service.state, s.serving with
    | .running .., some _ => s.post s.now .serve
    | _, _ => s
  | _, _ => s

/-- The endpoint begins to be served. -/
def serve (s : Stage) : Stage :=
  match s.service.state, s.serving with
  | .running _ true, some serving =>
    let s := s.mark (.serve serving.port)
    match serving.seconds with
    | none => s
    | some seconds => s.post (s.after seconds) .serveEnd
  | _, _ => s

/-- The endpoint is no longer served. -/
def serveEnd (s : Stage) : Stage :=
  match s.serving.bind (·.fault) with
  | some f => s.touch (·.servingFailed f)
  | none => (s.mark .serveEnd).touch (·.served)

/-- Something that the outside does. -/
def act (s : Stage) : Action → Stage
  | .start => s.touch fun v => { v with watcher := v.watcher.start }
  | .stop => s.touch fun v => { v with watcher := v.watcher.stop }
  | .health =>
    let (health, s) := s.report
    s.mark (.health health)
  | .world w latency => { s with world := w, latency }
  | .cancel =>
    -- a main task that is cancelled while it waits for the endpoint takes it with it; an endpoint whose time is up
    -- does not wait for that
    let early := s.agenda.any fun e => (e.2 matches .serveEnd) && decide (e.1 ≤ s.now)
    let agenda := match s.service.state with
      | .running .. => s.agenda.filter fun e => !(e.2 matches .serve | .serveEnd)
      | _ => s.agenda
    { s with agenda }.touch (·.cancel early)
  | .shutDown =>
    let s := s.touch (·.askToShutDown)
    if s.service.guests = 0 then s else s.post (s.after (.int Service.grace)) .guestGrace

/-- Does what is on the agenda. -/
def perform (s : Stage) : Job → Stage
  | .act a => s.act a
  | .begin => if s.watcher.position matches .created then s.advance (·.begin s.now) else s
  | .wake => s.wake
  | .relieve ticket r => if ticket = s.ticket then s.relieve r else s
  | .main => s.main
  | .serve => s.serve
  | .serveEnd => s.serveEnd
  | .grace => s.touch (·.graceOver)
  | .guestGrace => s.touch (·.guestGraceOver)

/-! ## Running -/

/-- Works off the agenda as far as it is due before `limit`, or all of it without a limit, in at most `fuel` steps. -/
def run (limit : Option Number) : Nat → Stage → Stage
  | 0, s => s
  | fuel + 1, s =>
    match s.agenda with
    | [] => s
    | (t, j) :: rest =>
      if limit.any (· ≤ t) then s
      else run limit fuel ({ s with now := Scalar.greatest s.now t, agenda := rest }.perform j)

/-- The most steps of a rehearsal. -/
def fuel : Nat := 1000000

/-- The rehearsal up to a given time. -/
def runUntil (t : Number) (s : Stage) : Stage :=
  let s := run (some t) fuel s
  { s with now := Scalar.greatest s.now t }

/-- A step of the watcher that was asked for from outside, with all that follows. -/
def carryOut (step : Watcher Number → Watcher Number) (s : Stage) : Stage := run none fuel (s.advance step)

/-- What could be seen since the last time, in order. -/
def takeTrace (s : Stage) : Trace × Stage := (s.trace.reverse, { s with trace := [] })

end Stage

end MediaWatch.Rehearsal
