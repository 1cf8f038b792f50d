import MediaWatch.Library.Catalog

/-!
# Scripted worlds

A `World` is a server that is made up: its libraries with their series and media, and what it gets wrong. It answers
questions as `World.answer` says. The first library or series with an id is the one that counts.
-/

namespace MediaWatch.Rehearsal

/-- A series of a scripted library. -/
structure WorldSeries where
  id : Text
  media : List ListedMedium

/-- A scripted library, with what it gets wrong about its pages. -/
structure WorldLibrary where
  id : Text
  series : List WorldSeries
  /-- Pages that cannot be read. -/
  brokenPages : List Int
  /-- Pages that are empty. -/
  emptyPages : List Int
  /-- Whether every page holds what the first one should. -/
  stuck : Bool
  /-- What is said about the number of pages, in place of the truth. -/
  totalPages : Option (Option Int)
  /-- What is said about further pages, in place of the truth. -/
  hasNext : Option Bool

/-- A scripted server. -/
structure World where
  libraries : List WorldLibrary
  /-- Why the libraries cannot be listed. -/
  listingFault : Option Text
  /-- Series whose media cannot be listed. -/
  brokenSeries : List Text

namespace World

/-- A world without libraries. -/
def empty : World := ⟨[], none, []⟩

/-- The items from index `start` up to index `stop`; negative indices count from the end. -/
def slice {α : Type} (items : List α) (start stop : Int) : List α :=
  let place (i : Int) : Nat := if i < 0 then (items.length + i).toNat else i.toNat
  (items.take (place stop)).drop (place start)

/-- The true number of pages: one for an empty library. -/
def pageCount (count : Nat) (pageSize : Int) : Int := max 1 (-(Int.fdiv (-count) pageSize))

/-- A page of a library. -/
def page (l : WorldLibrary) (n pageSize : Int) : SeriesPage :=
  let total := pageCount l.series.length pageSize
  let chunk := if l.stuck then 1 else n
  let found := if l.emptyPages.contains n then [] else slice l.series ((chunk - 1) * pageSize) (chunk * pageSize)
  ⟨found.map (·.id), l.hasNext.getD (n < total), l.totalPages.getD (some total)⟩

/-- The answer to a question. -/
def answer (w : World) : (q : Query) → Except Text q.Reply
  | .libraries =>
    match w.listingFault with
    | some reason => .error reason
    | none => .ok (w.libraries.map (·.id))
  | .seriesPage library n pageSize =>
    match w.libraries.find? (·.id == library) with
    | none => .error ("library " ++ library ++ " unavailable")
    | some l =>
      if l.brokenPages.contains n then .error ("page " ++ toString n ++ " of " ++ library ++ " unavailable")
      else .ok (page l n pageSize)
  | .media series =>
    if w.brokenSeries.contains series then .error ("series " ++ series ++ " unavailable")
    else .ok (((w.libraries.flatMap (·.series)).find? (·.id == series)).elim [] (·.media))

end World

end MediaWatch.Rehearsal
