import MediaWatch.Library.Enumeration
import MediaWatch.Library.Changes

/-!
# Sweeps

A `Sweep` checks every library of a server: it asks for the libraries, drops the snapshots of those that are gone, and
reads one after the other. A library that was read in full is stored and its changes are handed over
(`Sweep.Progress.report`); a failure is noted, leaves the stored snapshot as it is, and the sweep goes on with the next
library.
-/

namespace MediaWatch

/-- How libraries are read: the size of a page, and whether removed series are reported. -/
structure Detector where
  pageSize : Int
  reportRemoved : Bool
  deriving Repr, DecidableEq

/-- A sweep at a question. -/
inductive Sweep where
  | listing
  | reading (e : Enumeration) (rest : List Text)
  deriving Repr, DecidableEq

/-- Where a sweep stands after an answer: at the next question, at the changes of a library with others to follow, or
at its end. -/
inductive Sweep.Progress where
  | ask (s : Sweep)
  | report (changes : Changes) (rest : List Text)
  | done
  deriving Repr, DecidableEq

/-- The state of a sweep after an answer. -/
structure Sweep.Outcome where
  store : Store
  notices : List Notice
  progress : Sweep.Progress

namespace Sweep

variable (d : Detector)

/-- The question at hand. -/
def query : Sweep → Query
  | .listing => .libraries
  | .reading e _ => e.query d.pageSize

/-- Goes on with the libraries that are left. -/
def next : List Text → Progress
  | [] => .done
  | library :: rest => .ask (.reading (.start library) rest)

/-- Takes the answer to the question at hand, or the reason why there is none. -/
def step (store : Store) : (s : Sweep) → Except Text (s.query d).Reply → Outcome
  | .listing, .error reason => ⟨store, [.listingFailed reason], .done⟩
  | .listing, .ok libraries =>
    ⟨Store.retain libraries store, (Store.gone libraries store).map .libraryGone, next libraries⟩
  | .reading e rest, .error reason => ⟨store, [.libraryFailed e.library reason], next rest⟩
  | .reading e rest, .ok reply =>
    match e.step d.pageSize reply with
    | .ask e => ⟨store, [], .ask (.reading e rest)⟩
    | .done snapshot =>
      let (store, changes, notices) := Store.record d.reportRemoved e.library snapshot store
      ⟨store, notices, .report changes rest⟩

end Sweep

end MediaWatch
