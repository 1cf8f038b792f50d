import MediaWatch.Client.Session
import MediaWatch.Library.Catalog
import MediaWatch.Watch.Watcher

/-!
# Traces

A `Trace` is what could be seen of a rehearsal, each `Mark` with the time at which it was made.
-/

namespace MediaWatch.Rehearsal

/-- Something that can be seen. -/
inductive Mark where
  | status (s : Status)
  | log (n : Notice)
  /-- A question to a scripted world. -/
  | query (q : Query)
  /-- A message to a scripted server. -/
  | message (m : Client.Sent)
  | connect (url : String) (authorization : Text)
  | send (frame : Opening)
  | disconnect
  /-- A listener is called. -/
  | deliver (listener : Nat) (hook : Hook) (batch : List Event)
  /-- A listener that took its time is done. -/
  | finished (listener : Nat)
  /-- The report that was asked for. -/
  | health (h : Watcher.Health Number)
  /-- The endpoint begins to be served. -/
  | serve (port : Int)
  | serveEnd

/-- What could be seen, the latest first. -/
abbrev Trace := List (Number × Mark)

end MediaWatch.Rehearsal
