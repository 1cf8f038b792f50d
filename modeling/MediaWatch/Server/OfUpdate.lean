import MediaWatch.Server.Records
import MediaWatch.Shelf.Records

/-!
# Updates for the server

The inputs that carry a neutral update to the server (`SeriesMetadataInput.ofUpdate`, `MediumMetadataInput.ofUpdate`).
A part that the update leaves alone stays unset; authors are spread over the fields of their roles. `overwrite` is what
the server makes of an input: the fields that are set replace those of the metadata.
-/

namespace MediaWatch.Server

open MediaWatch.Shelf (Author SeriesStatus SeriesMetadataUpdate BookMetadataUpdate WebLink)

/-- The word that stands for a status. -/
def statusWord : SeriesStatus → Text
  | .ongoing => "ongoing"
  | .completed => "completed"
  | .abandoned => "cancelled"
  | .hiatus => "hiatus"
  | .ended => "ended"

/-- The names of the authors with a role. -/
def namesWithRole (authors : List Author) (role : Text) : List Text :=
  (authors.filter fun a => a.role == role).map (·.name)

def linkUrls (links : List WebLink) : List Text := links.map (·.url)

/-! ## Series -/

namespace SeriesMetadataInput

/-- An input that sets nothing. -/
def empty : SeriesMetadataInput :=
  ⟨none, none, none, none, none, none, none, none, none, none, none, none, none, none⟩

def ofUpdate (u : SeriesMetadataUpdate) : SeriesMetadataInput :=
  { empty with
    title := u.title.map (·.name)
    summary := u.summary
    publisher := u.publisher
    status := u.status.map statusWord
    ageRating := u.ageRating
    genres := u.genres
    writers := u.authors.map (namesWithRole · "WRITER")
    links := u.links.map linkUrls }

end SeriesMetadataInput

/-- The metadata with the fields of an input set. -/
def SeriesMetadata.overwrite (m : SeriesMetadata) (i : SeriesMetadataInput) : SeriesMetadata :=
  { m with
    ageRating := i.ageRating <|> m.ageRating
    booktype := i.booktype <|> m.booktype
    characters := i.characters.getD m.characters
    comicid := i.comicid <|> m.comicid
    genres := i.genres.getD m.genres
    imprint := i.imprint <|> m.imprint
    links := i.links.getD m.links
    metaType := i.metaType <|> m.metaType
    publisher := i.publisher <|> m.publisher
    status := i.status <|> m.status
    summary := i.summary <|> m.summary
    title := i.title <|> m.title
    volume := i.volume <|> m.volume
    writers := i.writers.getD m.writers }

/-! ## Media -/

namespace MediumMetadataInput

/-- An input that sets nothing. -/
def empty : MediumMetadataInput :=
  ⟨none, none, none, none, none, none, none, none, none, none, none, none, none, none, none, none, none, none, none,
   none, none, none, none, none, none, none⟩

def ofUpdate (u : BookMetadataUpdate) : MediumMetadataInput :=
  { empty with
    title := u.title
    summary := u.summary
    number := u.number.bind Numeral.anyFloat?
    year := u.releaseDate.map (·.year)
    month := u.releaseDate.map (·.month)
    day := u.releaseDate.map (·.day)
    genres := u.tags
    writers := u.authors.map (namesWithRole · "WRITER")
    pencillers := u.authors.map (namesWithRole · "PENCILLER")
    inkers := u.authors.map (namesWithRole · "INKER")
    colorists := u.authors.map (namesWithRole · "COLORIST")
    letterers := u.authors.map (namesWithRole · "LETTERER")
    editors := u.authors.map (namesWithRole · "EDITOR")
    links := u.links.map linkUrls
    identifierIsbn := u.isbn }

end MediumMetadataInput

/-- The metadata with the fields of an input set. -/
def MediumMetadata.overwrite (m : MediumMetadata) (i : MediumMetadataInput) : MediumMetadata :=
  { m with
    title := i.title <|> m.title
    titleSort := i.titleSort <|> m.titleSort
    series := i.series <|> m.series
    number := i.number <|> m.number
    volume := i.volume <|> m.volume
    summary := i.summary <|> m.summary
    notes := i.notes <|> m.notes
    genres := i.genres.getD m.genres
    year := i.year <|> m.year
    month := i.month <|> m.month
    day := i.day <|> m.day
    writers := i.writers.getD m.writers
    pencillers := i.pencillers.getD m.pencillers
    inkers := i.inkers.getD m.inkers
    colorists := i.colorists.getD m.colorists
    letterers := i.letterers.getD m.letterers
    coverArtists := i.coverArtists.getD m.coverArtists
    editors := i.editors.getD m.editors
    publisher := i.publisher <|> m.publisher
    links := i.links.getD m.links
    characters := i.characters.getD m.characters
    teams := i.teams.getD m.teams
    pageCount := i.pageCount <|> m.pageCount
    ageRating := i.ageRating <|> m.ageRating
    language := i.language <|> m.language
    identifierIsbn := i.identifierIsbn <|> m.identifierIsbn }

end MediaWatch.Server
