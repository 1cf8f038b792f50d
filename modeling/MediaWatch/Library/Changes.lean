import MediaWatch.Library.Snapshot
import MediaWatch.Notice

/-!
# Changes

`Changes.between` compares two snapshots of a library: the media that are in the later one only, and the series that
are in the earlier one only. `Store.record` stores a snapshot and reports what has changed; the first snapshot of a
library is its baseline and changes nothing.
-/

namespace MediaWatch

open Schema Schema.Fields

/-- What has changed in a library. -/
structure Changes where
  libraryId : Text
  addedBooks : List BookEvent
  removedSeries : List SeriesEvent
  deriving Repr, DecidableEq

namespace Changes

def codec : Codec Changes := .plain <|
  Changes.mk
    <$> required "library_id" .text (·.libraryId)
    <*> many "added_books" BookEvent.codec (·.addedBooks)
    <*> many "removed_series" SeriesEvent.codec (·.removedSeries)

/-- No changes. -/
def none (library : Text) : Changes := ⟨library, [], []⟩

/-- The books that only the later snapshot holds, in its order. -/
def added (previous current : Snapshot) : List BookEvent :=
  (current.media.filter fun entry => !Media.has entry.1 previous.media).map (·.2)

/-- The series that only the earlier snapshot holds, in ascending order. -/
def removed (library : Text) (previous current : Snapshot) : List SeriesEvent :=
  (Snapshot.ascending (previous.seriesIds.filter fun id => !current.seriesIds.contains id)).map (⟨library, ·⟩)

/-- What has changed between two snapshots; `reportRemoved` says whether removed series count. -/
def between (reportRemoved : Bool) (library : Text) (previous current : Snapshot) : Changes :=
  ⟨library, added previous current, if reportRemoved then removed library previous current else []⟩

/-- Whether nothing has changed. -/
def isEmpty (c : Changes) : Bool := c.addedBooks.isEmpty && c.removedSeries.isEmpty

end Changes

/-- Stores a complete snapshot and reports the changes since the one before. -/
def Store.record (reportRemoved : Bool) (library : Text) (current : Snapshot) (store : Store) :
    Store × Changes × List Notice :=
  let stored := Store.replace library current store
  match Store.get? library store with
  | none => (stored, .none library, [.baseline library current.media.length current.seriesIds.length])
  | some previous =>
    let changes := Changes.between reportRemoved library previous current
    (stored, changes,
      if changes.isEmpty then [] else [.changed library changes.addedBooks.length changes.removedSeries.length])

end MediaWatch
