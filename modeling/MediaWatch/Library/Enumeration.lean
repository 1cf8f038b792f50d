import MediaWatch.Library.Catalog
import MediaWatch.Library.Snapshot

/-!
# Enumerating a library

An `Enumeration` reads a library page by page, and for each series of a page its media, into a snapshot. It stands at
a question (`Enumeration.query`); the answer takes it to the next one or completes the snapshot (`Enumeration.step`).
Pages are asked for in order from the first, as long as the last one was not empty, announced another and did not
report itself as the last.
-/

namespace MediaWatch

/-- A library that is being read. -/
inductive Enumeration where
  /-- Page `n` is asked for. -/
  | page (library : Text) (n : Nat) (found : Snapshot)
  /-- The media of a series of page `n` are asked for, those of `later` to follow. -/
  | media (library : Text) (n : Nat) (reply : SeriesPage) (series : Text) (later : List Text) (found : Snapshot)
  deriving Repr, DecidableEq

/-- A reading that goes on, or the snapshot that it has led to. -/
inductive Enumeration.Next where
  | ask (e : Enumeration)
  | done (snapshot : Snapshot)
  deriving Repr, DecidableEq

namespace Enumeration

/-- The start of a reading. -/
def start (library : Text) : Enumeration := .page library 1 .empty

/-- The library that is read. -/
def library : Enumeration → Text
  | .page library .. => library
  | .media library .. => library

/-- The question at hand. -/
def query (pageSize : Int) : Enumeration → Query
  | .page library n _ => .seriesPage library n pageSize
  | .media _ _ _ series _ _ => .media series

/-- Whether page `n` was the last one, going by its answer. -/
def isLast (n : Nat) (reply : SeriesPage) : Bool :=
  !reply.hasNext || reply.series.isEmpty ||
    match reply.totalPages with
    | none => false
    | some total => total ≤ n

/-- Goes on with the series of page `n` that are left, then with the next page. -/
def follow (library : Text) (n : Nat) (reply : SeriesPage) (found : Snapshot) : List Text → Next
  | series :: later => .ask (.media library n reply series later (found.addSeries series))
  | [] => if isLast n reply then .done found else .ask (.page library (n + 1) found)

/-- The snapshot with the media of a series. -/
def addMedia (library : Text) (found : Snapshot) (listed : List ListedMedium) : Snapshot :=
  listed.foldl (fun s m => s.addMedium m.id (m.event library)) found

/-- Takes the answer to the question at hand. -/
def step (pageSize : Int) : (e : Enumeration) → (e.query pageSize).Reply → Next
  | .page library n found, reply => follow library n reply found reply.series
  | .media library n reply _ later found, listed => follow library n reply (addMedia library found listed) later

end Enumeration

end MediaWatch
