import MediaWatch.Event
import MediaWatch.Notice
import MediaWatch.Number
import MediaWatch.Watch.Watcher

/-!
# Listeners that play a part

A `Part` is a kind of listener, each with its own way to take a call (`Part.take`): it answers at once, fails, dawdles,
spoils the batch, or does not know the call.
-/

namespace MediaWatch.Rehearsal

/-- The parts that listeners play. -/
inductive Part where
  /-- Takes note of what it hears. -/
  | record
  /-- Fails after that. -/
  | fail
  /-- Gives up after that, as if it had waited too long. -/
  | timeout
  /-- Takes its time after that. -/
  | slow (delay : Number)
  /-- Empties the batch after that, and may fail. -/
  | mutate (fails : Bool)
  /-- Does not let itself be waited for. -/
  | sync
  /-- The same, and fails on added books. -/
  | syncFail
  /-- Knows of added books alone. -/
  | onlyBooks
  /-- Reports what it hears. -/
  | log
  /-- Hears all and does nothing. -/
  | base

namespace Part

/-- The name of the part in messages. -/
def name : Part → String
  | record => "RecordingListener"
  | fail => "FailingListener"
  | timeout => "TimeoutListener"
  | slow _ => "SlowListener"
  | mutate _ => "MutatingListener"
  | sync => "SyncListener"
  | syncFail => "SyncFailingListener"
  | onlyBooks => "PartialListener"
  | log => "LoggingEventListener"
  | base => "MediaServerEventListener"

/-- How a listener takes a call. -/
structure Taken where
  /-- Whether the call can be waited for, and thus be late. -/
  waits : Bool
  /-- Whether the listener notes what it hears. -/
  notes : Bool
  /-- What it reports. -/
  notices : List Notice
  /-- How long it goes on, if it does not answer at once. -/
  delay : Option Number
  /-- The batch afterwards. -/
  batch : List Event
  outcome : Outcome

/-- Whether a call is about added books or removed series. -/
def isReported : Hook → Bool
  | .booksAdded | .seriesDeleted => true
  | _ => false

/-- Whether a call is known to a listener that takes all of them. -/
def isKnown : Hook → Bool
  | .other _ => false
  | _ => true

/-- Reports the books of a batch up to the first event that is none. -/
def reportBooks : List Event → List Notice × Outcome
  | [] => ([], .returned)
  | .book e :: rest =>
    let (notices, outcome) := reportBooks rest
    (.bookAdded e :: notices, outcome)
  | .series _ :: _ => ([], .failed)

/-- A call that does nothing. -/
def quiet (batch : List Event) : Taken := ⟨true, false, [], none, batch, .returned⟩

/-- A call that the listener does not know. -/
def unknown (batch : List Event) : Taken := ⟨false, false, [], none, batch, .failed⟩

/-- A call of which note is taken. -/
def noted (batch : List Event) (outcome : Outcome) : Taken := ⟨true, true, [], none, batch, outcome⟩

/-- How a call that reaches the part is taken: the part knows the hook and reacts to it. -/
def react (p : Part) (hook : Hook) (batch : List Event) : Taken :=
  match p with
  | record => noted batch .returned
  | fail => noted batch .failed
  | timeout => noted batch .late
  | slow delay => { noted batch .returned with delay := some delay }
  | mutate fails => noted [] (if fails then .failed else .returned)
  | sync => { noted batch .returned with waits := false }
  | syncFail => { noted batch (if hook = .booksAdded then .failed else .returned) with waits := false }
  | onlyBooks => noted batch .returned
  | log =>
    match hook with
    | .booksAdded =>
      let (notices, outcome) := reportBooks batch
      { quiet batch with notices, outcome }
    | _ => { quiet batch with notices := batch.map fun e => .seriesRemoved e.libraryId e.seriesId }
  | base => quiet batch

/-- How the part takes a call. -/
def take (p : Part) (hook : Hook) (batch : List Event) : Taken :=
  match p with
  | onlyBooks => if hook = .booksAdded then p.react hook batch else unknown batch
  | sync | syncFail => if isReported hook then p.react hook batch else unknown batch
  | _ => if isReported hook then p.react hook batch else if isKnown hook then quiet batch else unknown batch

end Part

end MediaWatch.Rehearsal
