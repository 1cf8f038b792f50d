import MediaWatch.Event

/-!
# Catalogs

What can be asked of a server to enumerate its libraries: the list of libraries, a page of the series of a library and
the media of a series. `Query.Reply` is the type of the answer to each.
-/

namespace MediaWatch

/-- A question to the server. -/
inductive Query where
  | libraries
  | seriesPage (library : Text) (page pageSize : Int)
  | media (series : Text)
  deriving Repr, DecidableEq

/-- A page of series: their ids, and what the server says about further pages. -/
structure SeriesPage where
  series : List Text
  hasNext : Bool
  totalPages : Option Int
  deriving Repr, DecidableEq

/-- A medium in the list of a series. -/
structure ListedMedium where
  id : Text
  seriesId : Text
  libraryId : Option Text
  deriving Repr, DecidableEq

/-- The answer to a question. -/
abbrev Query.Reply : Query → Type
  | .libraries => List Text
  | .seriesPage .. => SeriesPage
  | .media _ => List ListedMedium

/-- The event of a listed medium; its library is the one being read unless it names another. -/
def ListedMedium.event (library : Text) (m : ListedMedium) : BookEvent :=
  let named := m.libraryId.getD ""
  ⟨if named.isEmpty then library else named, m.seriesId, m.id⟩

/-- A server that answers every question, or says why it cannot. -/
abbrev Catalog := (q : Query) → Except Text q.Reply

end MediaWatch
