import MediaWatch.Client.Session
import MediaWatch.Server.OfUpdate

/-!
# The client of a host application

What a host application asks of a server, in neutral records. What the server cannot do is passed over in silence:
it has one generated cover for each series and book, which cannot be deleted, and it cannot reset metadata.
-/

namespace MediaWatch.Client.Host

open MediaWatch.Shelf

variable {σ τ : Type} (wire : Wire σ τ)

/-- The id of the only thumbnail. -/
def thumbnailId : Text := "default"

def series (id : Text) : Talk σ τ Series := return .ofServer (← call wire (.series id))

/-- The number of series on a page. -/
def pageSize : Int := 500

def seriesPage (library : Text) (number : Int) : Talk σ τ (Page Series) := do
  let page ← call wire (.seriesPage library number pageSize)
  return ⟨page.content.map .ofServer, some page.currentPage, page.totalPages, page.totalElements⟩

/-- A cover; a server that has none, or does not answer, gives none. -/
def cover (c : Cover) : Talk σ τ (Option Image) :=
  tryCatch (some <$> fetch wire c) fun
    | .client _ => return none
    | f => throw f

def seriesThumbnails (id : Text) : Talk σ τ (List SeriesThumbnail) := do
  match ← cover wire (.series id) with
  | none => return []
  | some _ => return [⟨thumbnailId, id, some "generated", true⟩]

def bookThumbnails (id : Text) : Talk σ τ (List BookThumbnail) := do
  match ← cover wire (.medium id) with
  | none => return []
  | some _ => return [⟨thumbnailId, id, some "generated", true⟩]

/-- The book of a medium, as part of a conversation. -/
def toBook (m : Server.Medium) : Talk σ τ Book :=
  match Book.ofServer m with
  | .ok b => return b
  | .error fault => throw (.unmappable fault)

def book (id : Text) : Talk σ τ Book := do toBook (← call wire (.mediumWithSeries id))

def books (series : Text) : Talk σ τ (List Book) := do (← call wire (.allMedia series)).mapM toBook

def library (id : Text) : Talk σ τ Library := return .ofServer (← call wire (.library id))

def libraries : Talk σ τ (List Library) := return (← call wire .libraries).map .ofServer

def updateSeries [Scalar τ] (id : Text) (u : SeriesMetadataUpdate) : Talk σ τ Unit :=
  Client.updateSeries wire id (.ofUpdate u)

def updateBook [Scalar τ] (id : Text) (u : BookMetadataUpdate) : Talk σ τ Unit :=
  Client.updateMedium wire id (.ofUpdate u)

/-- Scans a series for changes; what the server says about it does not matter. -/
def refreshMetadata (series : Text) : Talk σ τ Unit := do let _ ← call wire (.scanSeries series)

end MediaWatch.Client.Host
