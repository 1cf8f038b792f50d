import MediaWatch.Client.Session
import MediaWatch.Library.Catalog

/-!
# Surveying a server

`Client.survey` puts the questions of a sweep to the server: `Query.Reply` is what is left of the records in its
answers.
-/

namespace MediaWatch.Client

variable {σ τ : Type} (wire : Wire σ τ)

/-- What a sweep needs of a medium. -/
def listed (m : Server.Medium) : ListedMedium := ⟨m.id, m.seriesId, m.libraryId⟩

/-- What a sweep needs of a page of series. -/
def seriesPage (p : Server.Page Server.Series) : SeriesPage := ⟨p.content.map (·.id), p.hasNext, p.totalPages⟩

/-- Puts a question to the server. -/
def survey : (q : Query) → Talk σ τ q.Reply
  | .libraries => return (← call wire .libraries).map (·.id)
  | .seriesPage library page pageSize => return seriesPage (← call wire (.seriesPage library page pageSize))
  | .media series => return (← call wire (.allMedia series)).map listed

end MediaWatch.Client
