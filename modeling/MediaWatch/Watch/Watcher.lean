import MediaWatch.Library.Sweep
import MediaWatch.Policy.Backoff
import MediaWatch.Policy.Breaker
import MediaWatch.Watch.Frame
import MediaWatch.Watch.Lifecycle

/-!
# Watchers

A `Watcher` reports the changes of a server to its listeners, by sweeping its libraries now and then or through a
subscription that is backed by sweeps. Its task stands at a `Position`, where it waits for the outside: an answer of the
server, the end of a listener's call, a connection, a frame, the end of a nap. For each position there is a step that
takes what the outside brings and goes to the next one (`answered`, `notified`, `opened`, `sent`, `received`, `rested`).
What happens on the way is written to the `journal`.
-/

namespace MediaWatch

/-- How a watcher learns of changes. -/
inductive Strategy (τ : Type) where
  | polling (interval : τ)
  | push (url : String) (fallback : Bool) (pollInterval receiveTimeout : τ)

namespace Strategy

variable {τ : Type}

/-- Whether the strategy sweeps beside its subscription. -/
def hasFallback : Strategy τ → Bool
  | .polling _ => false
  | .push _ fallback _ _ => fallback

def mode : Strategy τ → String
  | .polling _ => "polling"
  | .push _ true _ _ => "auto"
  | .push _ false _ _ => "subscription"

end Strategy

/-! ## Positions -/

/-- What a task goes on with when the work at hand is done. -/
inductive After where
  /-- The top of its loop. -/
  | loop
  /-- The nap between two sweeps of a polling watcher. -/
  | idle
  /-- The nap between two sweeps that stand in for the subscription. -/
  | fallback
  /-- The next frame of the session. -/
  | receive
  /-- Nothing: the work was asked for from outside the task. -/
  | caller
  deriving Repr, DecidableEq

/-- A batch on its way to the listeners; `listener` is the one being called. -/
structure Delivery where
  hook : Hook
  batch : List Event
  listener : Nat
  deriving Repr, DecidableEq

/-- What follows a delivery: other batches, the libraries that a sweep has left, and then the rest. -/
structure Errand where
  batches : List (Hook × List Event)
  libraries : List Text
  after : After
  deriving Repr, DecidableEq

/-- The frames that open a subscription. -/
inductive Opening where
  | hello
  | subscribe
  deriving Repr, DecidableEq

/-- The frame that is sent; a subscription carries a query. -/
def Opening.envelope (query : String) : Opening → Json.Value
  | .hello => .obj [("type", .str "connection_init")]
  | .subscribe =>
    .obj [("id", .str "1"), ("type", .str "start"), ("payload", .obj [("query", .str query)])]

/-- Where a task stands. A session is assumed to be left in the step that ends it: the handshake that closes a connection
is no position of its own, and nothing else happens meanwhile. -/
inductive Position (τ : Type) where
  /-- There is no task. -/
  | absent
  /-- The task has not begun. -/
  | created
  | querying (sweep : Sweep) (after : After)
  | notifying (delivery : Delivery) (errand : Errand)
  | connecting
  | sending (frame : Opening)
  | receiving
  | napping (seconds : τ)

/-- What a watcher does that others can see or have to act on. -/
inductive Entry where
  | status (s : Status)
  | notice (n : Notice)
  /-- A task was created and is to begin. -/
  | created
  /-- A callback was posted that is to wake the task. -/
  | posted
  /-- The session with the server was left. -/
  | left

/-- How the call of a listener ends. -/
inductive Outcome where
  | returned
  | late
  | failed
  deriving Repr, DecidableEq

/-- Why a session ends with a fault: the connection was closed, or anything else. -/
inductive Fault where
  | closed (reason : Text)
  | other (reason : Text)
  deriving Repr, DecidableEq

/-- What waiting for a frame brings. -/
inductive Arrival where
  | text (f : TextFrame)
  | binary
  | nothing
  | fault (f : Fault)

/-- A watcher with its task. The journal holds the latest entry first. -/
structure Watcher (τ : Type) where
  strategy : Strategy τ
  detector : Detector
  /-- The names of the listeners. -/
  listeners : List String
  listenerTimeout : Option τ
  life : Lifecycle
  store : Store
  lastEventAt : Option τ
  backoff : Backoff τ
  breaker : Breaker τ
  pushEnabled : Bool
  position : Position τ
  journal : List Entry

namespace Watcher

variable {τ : Type} [Scalar τ]

/-- A watcher that was never started. -/
def fresh (strategy : Strategy τ) (detector : Detector) (listeners : List String) (listenerTimeout : Option τ)
    (backoff : Backoff τ) (breaker : Breaker τ) : Watcher τ :=
  { strategy, detector, listeners, listenerTimeout, life := .initial, store := [], lastEventAt := none, backoff, breaker
    pushEnabled := true, position := .absent, journal := [] }

def mode (w : Watcher τ) : String := w.strategy.mode

def hasFallback (w : Watcher τ) : Bool := w.strategy.hasFallback

/-! ## Elementary steps -/

/-- Writes to the journal. -/
def note (e : Entry) (w : Watcher τ) : Watcher τ := { w with journal := e :: w.journal }

def say (n : Notice) (w : Watcher τ) : Watcher τ := w.note (.notice n)

def sayAll (ns : List Notice) (w : Watcher τ) : Watcher τ := ns.foldl (fun w n => w.say n) w

/-- Notes a status that differs from the one before. -/
def noteStatus (before : Status) (w : Watcher τ) : Watcher τ :=
  if w.life.status = before then w else w.note (.status w.life.status)

def setStatus (s : Status) (w : Watcher τ) : Watcher τ :=
  noteStatus w.life.status { w with life := { w.life with status := s } }

def goto (p : Position τ) (w : Watcher τ) : Watcher τ := { w with position := p }

/-- Reads the phase of the breaker. -/
def readBreaker (now : τ) (w : Watcher τ) : Watcher τ :=
  let (breaker, notices) := w.breaker.read now
  sayAll notices { w with breaker }

/-! ## Life -/

/-- Starts the watcher. -/
def start (w : Watcher τ) : Watcher τ :=
  let (life, started) := w.life.start
  match started with
  | .already => w
  | .resumed => say (.resuming w.mode) { w with life }
  | .created =>
    ((noteStatus w.life.status { w with life, position := .created }).note .created).say (.starting w.mode)

/-- Stops the watcher. -/
def stop (w : Watcher τ) : Watcher τ :=
  let stopped := note .posted { w with life := w.life.stop }
  if w.life.active then stopped.say (.stopping w.mode) else stopped

/-- The end of the task. -/
def finish (w : Watcher τ) : Watcher τ :=
  let (life, ended) := w.life.finish
  match ended with
  | .handedOver => note .created { w with life, position := .created }
  | .crashed => noteStatus w.life.status (say (.exited w.mode) { w with life, position := .absent })
  | .stopped => noteStatus w.life.status { w with life, position := .absent }

/-! ## From one position to the next -/

/-- Takes a nap, unless the session is over. -/
def nap (seconds : τ) (w : Watcher τ) : Watcher τ :=
  if w.life.active then goto (.napping (Scalar.clamp seconds)) { w with life := w.life.beginSleep } else w.finish

/-- Begins a sweep. -/
def sweep (after : After) (w : Watcher τ) : Watcher τ := w.goto (.querying .listing after)

/-- Opens a session. -/
def connect (url : String) (w : Watcher τ) : Watcher τ :=
  ((w.setStatus .connecting).say (.connecting url)).goto .connecting

/-- Whether the subscription is left alone for now. Its breaker has just been read unless push is disabled. -/
def avoidsPush (w : Watcher τ) : Bool := w.hasFallback && (!w.pushEnabled || w.breaker.isOpen)

/-- Begins a sweep that stands in for the subscription. -/
def fallBack (w : Watcher τ) : Watcher τ :=
  let w := if w.life.status = .degraded then w else w.say .fallingBack
  (w.setStatus .degraded).sweep .fallback

/-- The top of the task's loop. -/
def loop (now : τ) (w : Watcher τ) : Watcher τ :=
  if !w.life.active then w.finish
  else match w.strategy with
    | .polling _ => (w.setStatus .polling).sweep .idle
    | .push url fallback _ _ =>
      let w := if fallback && w.pushEnabled then w.readBreaker now else w
      if w.avoidsPush then w.fallBack else w.connect url

/-- Waits before the next attempt to connect. -/
def reconnect (now : τ) (w : Watcher τ) : Watcher τ :=
  let (delay, backoff) := w.backoff.next
  let w := readBreaker now { w with backoff }
  let w := w.setStatus (if w.breaker.isOpen then .degraded else .reconnecting)
  (w.say (.reconnecting (Scalar.tenths delay) w.backoff.attempt)).nap delay

/-- Gives up the subscription: for good, or for sweeps alone. -/
def giveUp (now : τ) (w : Watcher τ) : Watcher τ :=
  let w := w.say (.givingUp w.backoff.attempt)
  if w.hasFallback then loop now { w with pushEnabled := false }
  else
    let w := w.setStatus .failed
    finish { w with life := w.life.clearFlag }

/-- Counts the end of a session as a failure and decides how to go on. -/
def sessionEnded (now : τ) (w : Watcher τ) : Watcher τ :=
  if !w.life.active then w.finish
  else
    let (breaker, notices) := w.breaker.fail now
    let w := sayAll notices { w with breaker }
    if w.backoff.exhausted then w.giveUp now
    else
      let w := if w.hasFallback then w.readBreaker now else w
      if w.hasFallback && w.breaker.isOpen then w.loop now else w.reconnect now

/-- A fault ends the session. -/
def sessionFailed (now : τ) (f : Fault) (w : Watcher τ) : Watcher τ :=
  let notice := match f with
    | .closed reason => Notice.connectionClosed reason
    | .other reason => Notice.sessionFailed reason
  (w.say notice).sessionEnded now

/-- Waits for the next frame, unless the session is over. -/
def receive (now : τ) (w : Watcher τ) : Watcher τ :=
  if w.life.active then w.goto .receiving else (w.note .left).sessionEnded now

/-- Goes on when the work at hand is done. -/
def goOn (now : τ) (after : After) (w : Watcher τ) : Watcher τ :=
  match after, w.strategy with
  | .loop, _ => w.loop now
  | .idle, .polling interval => if w.life.active then (w.setStatus .idle).nap interval else w.finish
  | .fallback, .push _ _ pollInterval _ => w.nap pollInterval
  | .receive, _ => w.receive now
  | _, _ => w.goto .absent

/-! ## Delivering -/

/-- Goes on with the batches of an errand, then with its sweep, then with the rest. -/
def pursue (now : τ) (libraries : List Text) (after : After) : List (Hook × List Event) → Watcher τ → Watcher τ
  | [], w =>
    match Sweep.next libraries with
    | .ask s => w.goto (.querying s after)
    | _ => w.goOn now after
  | (hook, events) :: rest, w =>
    if events.isEmpty then pursue now libraries after rest w
    else
      let w := { w with lastEventAt := some now }
      if w.listeners.isEmpty then pursue now libraries after rest w
      else w.goto (.notifying ⟨hook, events, 0⟩ ⟨rest, libraries, after⟩)

/-- The batches that report the changes of a library. -/
def batches (changes : Changes) : List (Hook × List Event) :=
  [(.booksAdded, changes.addedBooks.map .book), (.seriesDeleted, changes.removedSeries.map .series)]

/-- Reports changes. -/
def emit (now : τ) (changes : Changes) (libraries : List Text) (after : After) (w : Watcher τ) : Watcher τ :=
  pursue now libraries after (batches changes) w

/-- The time after which a listener is late, as messages show it. -/
def timeoutText (w : Watcher τ) : String :=
  match w.listenerTimeout with
  | some t => Scalar.text t
  | none => "None"

/-- A listener's call has ended and has left the batch as `batch`. -/
def notified (now : τ) (outcome : Outcome) (batch : List Event) (d : Delivery) (e : Errand) (w : Watcher τ) :
    Watcher τ :=
  let name := w.listeners.getD d.listener ""
  let events := Event.describeAll batch
  let w := match outcome with
    | .returned => w
    | .late => w.say (.listenerLate name w.timeoutText d.hook.name events)
    | .failed => w.say (.listenerFailed name d.hook.name events)
  if d.listener + 1 < w.listeners.length then w.goto (.notifying { d with batch, listener := d.listener + 1 } e)
  else pursue now e.libraries e.after e.batches w

/-! ## Sweeping -/

/-- The server has answered the question of a sweep. -/
def answered (now : τ) (w : Watcher τ) (s : Sweep) (after : After) (reply : Except Text (s.query w.detector).Reply) :
    Watcher τ :=
  let outcome := s.step w.detector w.store reply
  let w := sayAll outcome.notices { w with store := outcome.store }
  match outcome.progress with
  | .ask s => w.goto (.querying s after)
  | .report changes rest => w.emit now changes rest after
  | .done => w.goOn now after

/-! ## The subscription -/

/-- The connection is open, or could not be opened. -/
def opened (now : τ) (result : Except Fault Unit) (w : Watcher τ) : Watcher τ :=
  match result with
  | .ok () => w.goto (.sending .hello)
  | .error f => w.sessionFailed now f

/-- A frame was sent, or could not be sent, which closes the connection and ends the session. -/
def sent (now : τ) (frame : Opening) (result : Except Fault Unit) (w : Watcher τ) : Watcher τ :=
  match result, frame with
  | .ok (), .hello => w.goto (.sending .subscribe)
  | .ok (), .subscribe => w.receive now
  | .error f, _ => (w.note .left).sessionFailed now f

/-- The server has acknowledged the connection. -/
def acknowledge (w : Watcher τ) : Watcher τ :=
  let w := if w.life.status = .connected then w else w.say .established
  let w := w.setStatus .connected
  let (breaker, notices) := w.breaker.succeed
  sayAll notices { w with backoff := w.backoff.reset, breaker }

/-- Takes a text frame that does not end the subscription, and goes on as told. -/
def handle (now : τ) (f : TextFrame) (after : After) (w : Watcher τ) : Watcher τ :=
  match Frame.read f with
  | .acknowledged =>
    let w := w.acknowledge
    if w.hasFallback then w.sweep after else w.goOn now after
  | .created e => pursue now [] after [(.booksAdded, [.book e])] w
  | .complained payload => (w.say (.complained payload)).goOn now after
  | .unreadable => (w.say (.unreadable f.text)).goOn now after
  | .completed => w.say .completed
  | .rejected payload => w.say (.rejected payload)
  | .silent => w.goOn now after

/-- Waiting for a frame has brought something. With a fault, and with a frame that ends the subscription, the connection is
closed and the session ends. -/
def received (now : τ) (arrival : Arrival) (w : Watcher τ) : Watcher τ :=
  match arrival with
  | .nothing | .binary => w.receive now
  | .fault f => (w.note .left).sessionFailed now f
  | .text f =>
    let w := w.handle now f .receive
    if (Frame.read f).ends then (w.note .left).sessionEnded now else w

/-! ## The task as a whole -/

/-- The task begins. -/
def begin (now : τ) (w : Watcher τ) : Watcher τ :=
  match w.strategy with
  | .polling interval => (w.say (.pollingEvery (Scalar.text interval))).loop now
  | .push _ fallback _ _ => if fallback then w.sweep .loop else w.loop now

/-- A nap is over. -/
def rested (now : τ) (w : Watcher τ) : Watcher τ := w.loop now

/-- Whether the task is within a session. -/
def inSession (w : Watcher τ) : Bool :=
  match w.position with
  | .sending _ | .receiving | .querying _ .receive => true
  | .notifying _ e => e.after == .receive
  | _ => false

/-- The task is cancelled where it stands. -/
def cancel (w : Watcher τ) : Watcher τ := (if w.inSession then w.note .left else w).finish

/-! ## Health -/

/-- What a watcher says about itself. -/
structure Health (τ : Type) where
  mode : String
  active : Bool
  status : Status
  lastEventAt : Option τ
  /-- The breaker and the attempts to reconnect, where there is a subscription. -/
  push : Option (Breaker τ × Nat)

/-- The watcher's report. It reads the breaker, which may take notice of its cooldown. -/
def health (now : τ) (w : Watcher τ) : Health τ × Watcher τ :=
  match w.strategy with
  | .polling _ => (⟨w.mode, w.life.active, w.life.status, w.lastEventAt, none⟩, w)
  | .push .. =>
    let w := w.readBreaker now
    (⟨w.mode, w.life.active, w.life.status, w.lastEventAt, some (w.breaker, w.backoff.attempt)⟩, w)

end Watcher

end MediaWatch
