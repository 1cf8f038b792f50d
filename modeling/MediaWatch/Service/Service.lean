import MediaWatch.Client.Exchange
import MediaWatch.Watch.Watcher

/-!
# The service

A `Service` runs a watcher: its main task checks the connection, starts the watcher and waits for its task, and for the
health endpoint where there is one. However that ends, the main task shuts down: it stops the watcher, waits for its task
within a grace and closes the client. The steps are what can happen to the main task; `Service.drive` is a step of the
watcher, after which the main task takes notice if the watcher's task has ended.
-/

namespace MediaWatch

namespace Service

/-- How the main task ends. -/
inductive Ending where
  | returned
  | cancelled
  | failed (f : Client.Failure)
  deriving Repr, DecidableEq

/-- Where the main task stands. -/
inductive State where
  | unbegun
  /-- The connection is being checked. -/
  | checking
  /-- The watcher runs, if `watching`, and the endpoint is served, if `serving`. -/
  | running (watching serving : Bool)
  /-- The watcher was stopped, and its task has not ended yet. -/
  | closing (e : Ending)
  | ended (e : Ending)
  deriving Repr, DecidableEq

end Service

open Service

/-- A service with its watcher. The watcher's journal takes the reports of the service too. -/
structure Service (τ : Type) where
  watcher : Watcher τ
  state : State
  /-- Calls from outside to shut down that wait for the watcher's task. -/
  guests : Nat
  /-- How often shutting down has begun, by the main task or from outside. -/
  shutdowns : Nat
  /-- How often the client was closed. -/
  closings : Nat

namespace Service

variable {τ : Type} [Scalar τ]

/-- The grace of a shutdown, in seconds. -/
def grace : Int := 10

/-- What a signal to terminate leads to: a report and the exit code of success. -/
def terminated : Notice × Nat := (.terminated, 0)

/-- A service that has not begun. -/
def ofWatcher (w : Watcher τ) : Service τ := ⟨w, .unbegun, 0, 0, 0⟩

/-- Whether the watcher has a task. -/
def hasTask (s : Service τ) : Bool := s.watcher.life.task.isSome

def say (n : Notice) (s : Service τ) : Service τ := { s with watcher := s.watcher.say n }

/-- Closes the client. -/
def closeClient (s : Service τ) : Service τ := { s with closings := s.closings + 1 }

/-! ## Shutting down -/

/-- The main task closes the client and ends. -/
def close (e : Ending) (s : Service τ) : Service τ := { s.closeClient with state := .ended e }

/-- The main task shuts down: it closes the client once the watcher's task has ended. -/
def shutDown (e : Ending) (s : Service τ) : Service τ :=
  let s := { s with watcher := s.watcher.stop, shutdowns := s.shutdowns + 1 }
  if s.hasTask then { s with state := .closing e } else s.close e

/-- The calls from outside that were waiting close the client. -/
def releaseGuests (s : Service τ) : Service τ :=
  if s.guests = 0 then s else { s with guests := 0, closings := s.closings + s.guests }

/-- Takes notice of the end of the watcher's task. -/
def settle (s : Service τ) : Service τ :=
  if s.hasTask then s
  else
    let s := s.releaseGuests
    match s.state with
    | .running true true => { s with state := .running false true }
    | .running true false => s.shutDown .returned
    | .closing e => s.close e
    | _ => s

/-- A step of the watcher. -/
def drive (step : Watcher τ → Watcher τ) (s : Service τ) : Service τ := settle { s with watcher := step s.watcher }

/-- The grace of the main task is over. The watcher's task is cancelled. -/
def graceOver (s : Service τ) : Service τ :=
  match s.state with
  | .closing e => (say .graceExpired { s with watcher := s.watcher.cancel, guests := 0 }).close e
  | _ => s

/-! ## The main task -/

/-- The main task begins. -/
def begin (s : Service τ) : Service τ :=
  match s.state with
  | .unbegun => { s with state := .checking }
  | _ => s

/-- Starts the watcher, beside the endpoint if it is served. -/
def run (serving : Bool) (s : Service τ) : Service τ :=
  { s with watcher := s.watcher.start, state := .running true serving }

/-- The check has found so many libraries, or has failed. A server that cannot be reached now may be later; any other
failure is the end. -/
def checked (url : String) (serving : Bool) (result : Except Client.Failure Nat) (s : Service τ) : Service τ :=
  match s.state with
  | .checking =>
    match result with
    | .ok n => (s.say (.connected url n)).run serving
    | .error (.client e) => (s.say (.unreachable url e.message)).run serving
    | .error f => s.shutDown (.failed f)
  | _ => s

/-- The endpoint is no longer served. -/
def served (s : Service τ) : Service τ :=
  match s.state with
  | .running true true => { s with state := .running true false }
  | .running false true => s.shutDown .returned
  | _ => s

/-- Serving the endpoint has failed. -/
def servingFailed (f : Client.Failure) (s : Service τ) : Service τ :=
  match s.state with
  | .running _ true => s.shutDown (.failed f)
  | _ => s

/-! ## Cancelling -/

/-- Whether a cancellation ends the watcher's task at once: it waits for a listener or a connection without a bound of
its own. Where it waits with a bound, others run before it ends. Listeners and connections are assumed to let go when
they are cancelled, without waiting for anything else. -/
def unwindsAtOnce (w : Watcher τ) : Bool :=
  match w.position with
  | .notifying .. => w.listenerTimeout.isNone
  | .connecting => true
  | _ => false

/-- The watcher's task is cancelled while the main task waits for it to shut down. The main task takes that for a
cancellation of its own, and the client stays open. -/
def abandon (s : Service τ) : Service τ :=
  { s with watcher := s.watcher.cancel, guests := 0, state := .ended .cancelled }

/-- The main task is cancelled. The cancellation goes on to the watcher's task and to the endpoint. Once the endpoint
has ended, the main task shuts down, and the watcher's task may still be ending by then: most often it is gone when the
main task comes to wait for it, but an `early` main task waits for it already. It is early if the endpoint ends of its own
accord as it is cancelled, for then it has ended sooner than if the cancellation had to take its way. The watcher's task
is assumed to have begun: a task that is cancelled before it begins does nothing at all, and would not even end as this
one does. -/
def cancel (early : Bool) (s : Service τ) : Service τ :=
  match s.state with
  | .unbegun => { s with state := .ended .cancelled }
  | .checking => s.shutDown .returned
  | .running watching serving =>
    if !watching || !s.hasTask then s.shutDown .returned
    else if serving && !unwindsAtOnce s.watcher then
      let s := shutDown .returned { s with guests := 0 }
      if early then s.abandon else s.drive Watcher.cancel
    else shutDown .returned { s with watcher := s.watcher.cancel, guests := 0 }
  | .closing _ => s.abandon
  | .ended _ => s

/-! ## Calls from outside -/

/-- Someone else asks to shut down: the watcher is stopped, and the client closed when its task has ended. -/
def askToShutDown (s : Service τ) : Service τ :=
  let s := { s with watcher := s.watcher.stop, shutdowns := s.shutdowns + 1 }
  if s.hasTask then { s with guests := s.guests + 1 } else s.closeClient

/-- The grace of such a call is over: the watcher's task is cancelled, which the main task takes for a cancellation of
its own. -/
def guestGraceOver (s : Service τ) : Service τ :=
  if s.guests = 0 then s
  else
    let s := closeClient (say .graceExpired { s with watcher := s.watcher.cancel, guests := 0 })
    match s.state with
    | .running true _ => s.shutDown .returned
    | .closing _ => { s with state := .ended .cancelled }
    | _ => s

end Service

end MediaWatch
