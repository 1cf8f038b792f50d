import MediaWatch.Schema.Record

/-!
# The neutral media model

Libraries, series and books as a host application sees them, whatever server they come from, with the updates it may
ask for (`SeriesMetadataUpdate`, `BookMetadataUpdate`). Every record has a codec that knows its fields by one name.
-/

namespace MediaWatch.Shelf

open Schema Schema.Fields Json

/-! ## Choices -/

inductive SeriesStatus where
  | ended
  | ongoing
  | abandoned
  | hiatus
  | completed
  deriving Repr, DecidableEq

namespace SeriesStatus

def all : List SeriesStatus := [ended, ongoing, abandoned, hiatus, completed]

def word : SeriesStatus → String
  | ended => "ENDED"
  | ongoing => "ONGOING"
  | abandoned => "ABANDONED"
  | hiatus => "HIATUS"
  | completed => "COMPLETED"

def codec : Codec SeriesStatus := .choice word all

end SeriesStatus

inductive ReadingDirection where
  | leftToRight
  | rightToLeft
  | vertical
  | webtoon
  deriving Repr, DecidableEq

namespace ReadingDirection

def all : List ReadingDirection := [leftToRight, rightToLeft, vertical, webtoon]

def word : ReadingDirection → String
  | leftToRight => "LEFT_TO_RIGHT"
  | rightToLeft => "RIGHT_TO_LEFT"
  | vertical => "VERTICAL"
  | webtoon => "WEBTOON"

def codec : Codec ReadingDirection := .choice word all

end ReadingDirection

/-! ## Small records -/

structure Image where
  data : ByteArray
  mimeType : Option Text

def Image.codec : Codec Image := .plain <|
  Image.mk <$> required "data" .bytes (·.data) <*> maybe "mime_type" .text (·.mimeType)

structure WebLink where
  label : Text
  url : Text
  deriving Repr, DecidableEq

def WebLink.codec : Codec WebLink := .plain <|
  WebLink.mk <$> required "label" .text (·.label) <*> required "url" .text (·.url)

structure Author where
  name : Text
  role : Text
  deriving Repr, DecidableEq

def Author.codec : Codec Author := .plain <|
  Author.mk <$> required "name" .text (·.name) <*> required "role" .text (·.role)

structure AlternativeTitle where
  label : Text
  title : Text
  deriving Repr, DecidableEq

def AlternativeTitle.codec : Codec AlternativeTitle := .plain <|
  AlternativeTitle.mk <$> required "label" .text (·.label) <*> required "title" .text (·.title)

structure SeriesTitle where
  name : Text
  kind : Option Text
  language : Option Text
  deriving Repr, DecidableEq

def SeriesTitle.codec : Codec SeriesTitle := .plain <|
  SeriesTitle.mk
    <$> required "name" .text (·.name)
    <*> maybe "type" .text (·.kind)
    <*> maybe "language" .text (·.language)

structure Library where
  id : Text
  name : Text
  roots : List Text
  deriving Repr, DecidableEq

def Library.codec : Codec Library := .plain <|
  Library.mk <$> required "id" .text (·.id) <*> required "name" .text (·.name) <*> many "roots" .text (·.roots)

/-! ## Series -/

/-- Which parts of a series' metadata are locked against changes. -/
structure SeriesLocks where
  status : Bool := false
  title : Bool := false
  titleSort : Bool := false
  summary : Bool := false
  readingDirection : Bool := false
  publisher : Bool := false
  ageRating : Bool := false
  language : Bool := false
  genres : Bool := false
  tags : Bool := false
  totalBookCount : Bool := false
  authors : Bool := false
  releaseYear : Bool := false
  alternativeTitles : Bool := false
  links : Bool := false
  deriving Repr, DecidableEq

structure SeriesMetadata where
  status : SeriesStatus := .ongoing
  title : Text
  titleSort : Text
  alternativeTitles : List AlternativeTitle := []
  summary : Text := ""
  readingDirection : Option ReadingDirection := none
  publisher : Option Text := none
  alternativePublishers : List Text := []
  ageRating : Option Int := none
  language : Option Text := none
  genres : List Text := []
  tags : List Text := []
  totalBookCount : Option Int := none
  authors : List Author := []
  releaseYear : Option Int := none
  links : List WebLink := []
  locks : SeriesLocks := {}
  deriving DecidableEq

/-- The locks as fields of the metadata. -/
def SeriesLocks.fields : Fields SeriesMetadata SeriesLocks :=
  SeriesLocks.mk
    <$> flag "status_lock" (·.locks.status)
    <*> flag "title_lock" (·.locks.title)
    <*> flag "title_sort_lock" (·.locks.titleSort)
    <*> flag "summary_lock" (·.locks.summary)
    <*> flag "reading_direction_lock" (·.locks.readingDirection)
    <*> flag "publisher_lock" (·.locks.publisher)
    <*> flag "age_rating_lock" (·.locks.ageRating)
    <*> flag "language_lock" (·.locks.language)
    <*> flag "genres_lock" (·.locks.genres)
    <*> flag "tags_lock" (·.locks.tags)
    <*> flag "total_book_count_lock" (·.locks.totalBookCount)
    <*> flag "authors_lock" (·.locks.authors)
    <*> flag "release_year_lock" (·.locks.releaseYear)
    <*> flag "alternative_titles_lock" (·.locks.alternativeTitles)
    <*> flag "links_lock" (·.locks.links)

def SeriesMetadata.codec : Codec SeriesMetadata := .plain <|
  SeriesMetadata.mk
    <$> given "status" SeriesStatus.codec .ongoing (·.status)
    <*> required "title" .text (·.title)
    <*> required "title_sort" .text (·.titleSort)
    <*> many "alternative_titles" AlternativeTitle.codec (·.alternativeTitles)
    <*> given "summary" .text "" (·.summary)
    <*> maybe "reading_direction" ReadingDirection.codec (·.readingDirection)
    <*> maybe "publisher" .text (·.publisher)
    <*> given "alternative_publishers" .textSet [] (·.alternativePublishers)
    <*> maybe "age_rating" .int (·.ageRating)
    <*> maybe "language" .text (·.language)
    <*> many "genres" .text (·.genres)
    <*> many "tags" .text (·.tags)
    <*> maybe "total_book_count" .int (·.totalBookCount)
    <*> many "authors" Author.codec (·.authors)
    <*> maybe "release_year" .int (·.releaseYear)
    <*> many "links" WebLink.codec (·.links)
    <*> SeriesLocks.fields

structure Series where
  id : Text
  libraryId : Text
  name : Text
  booksCount : Option Int := none
  metadata : SeriesMetadata
  url : Option Text := none
  deleted : Bool := false
  deriving DecidableEq

def Series.codec : Codec Series := .plain <|
  Series.mk
    <$> required "id" .text (·.id)
    <*> required "library_id" .text (·.libraryId)
    <*> required "name" .text (·.name)
    <*> maybe "books_count" .int (·.booksCount)
    <*> required "metadata" SeriesMetadata.codec (·.metadata)
    <*> maybe "url" .text (·.url)
    <*> flag "deleted" (·.deleted)

/-! ## Books -/

/-- Which parts of a book's metadata are locked against changes. -/
structure BookLocks where
  title : Bool := false
  summary : Bool := false
  number : Bool := false
  numberSort : Bool := false
  releaseDate : Bool := false
  authors : Bool := false
  tags : Bool := false
  isbn : Bool := false
  links : Bool := false
  deriving Repr, DecidableEq

structure BookMetadata where
  title : Text
  summary : Option Text := none
  number : Text
  numberSort : Option Text := none
  releaseDate : Option Date := none
  authors : List Author := []
  tags : List Text := []
  isbn : Option Text := none
  links : List WebLink := []
  locks : BookLocks := {}
  deriving DecidableEq

/-- The locks as fields of the metadata. -/
def BookLocks.fields : Fields BookMetadata BookLocks :=
  BookLocks.mk
    <$> flag "title_lock" (·.locks.title)
    <*> flag "summary_lock" (·.locks.summary)
    <*> flag "number_lock" (·.locks.number)
    <*> flag "number_sort_lock" (·.locks.numberSort)
    <*> flag "release_date_lock" (·.locks.releaseDate)
    <*> flag "authors_lock" (·.locks.authors)
    <*> flag "tags_lock" (·.locks.tags)
    <*> flag "isbn_lock" (·.locks.isbn)
    <*> flag "links_lock" (·.locks.links)

def BookMetadata.codec : Codec BookMetadata := .plain <|
  BookMetadata.mk
    <$> required "title" .text (·.title)
    <*> maybe "summary" .text (·.summary)
    <*> required "number" .text (·.number)
    <*> maybe "number_sort" .text (·.numberSort)
    <*> maybe "release_date" .date (·.releaseDate)
    <*> many "authors" Author.codec (·.authors)
    <*> many "tags" .text (·.tags)
    <*> maybe "isbn" .text (·.isbn)
    <*> many "links" WebLink.codec (·.links)
    <*> BookLocks.fields

structure Book where
  id : Text
  seriesId : Text
  libraryId : Option Text := none
  seriesTitle : Text
  name : Text
  url : Text
  number : Option Int := none
  oneshot : Bool := false
  metadata : BookMetadata
  deleted : Bool := false
  deriving DecidableEq

def Book.codec : Codec Book := .plain <|
  Book.mk
    <$> required "id" .text (·.id)
    <*> required "series_id" .text (·.seriesId)
    <*> maybe "library_id" .text (·.libraryId)
    <*> required "series_title" .text (·.seriesTitle)
    <*> required "name" .text (·.name)
    <*> required "url" .text (·.url)
    <*> maybe "number" .int (·.number)
    <*> flag "oneshot" (·.oneshot)
    <*> required "metadata" BookMetadata.codec (·.metadata)
    <*> flag "deleted" (·.deleted)

/-! ## Thumbnails and pages -/

structure SeriesThumbnail where
  id : Text
  seriesId : Text
  kind : Option Text
  selected : Bool

def SeriesThumbnail.codec : Codec SeriesThumbnail := .plain <|
  SeriesThumbnail.mk
    <$> required "id" .text (·.id)
    <*> required "series_id" .text (·.seriesId)
    <*> maybe "type" .text (·.kind)
    <*> flag "selected" (·.selected)

structure BookThumbnail where
  id : Text
  bookId : Text
  kind : Option Text
  selected : Bool

def BookThumbnail.codec : Codec BookThumbnail := .plain <|
  BookThumbnail.mk
    <$> required "id" .text (·.id)
    <*> required "book_id" .text (·.bookId)
    <*> maybe "type" .text (·.kind)
    <*> flag "selected" (·.selected)

/-- One page of a listing. -/
structure Page (α : Type) where
  content : List α
  pageNumber : Option Int
  totalPages : Option Int
  totalElements : Option Int

def Page.codec {α : Type} (c : Codec α) : Codec (Page α) := .plain <|
  Page.mk
    <$> required "content" c.list (·.content)
    <*> maybe "page_number" .int (·.pageNumber)
    <*> maybe "total_pages" .int (·.totalPages)
    <*> maybe "total_elements" .int (·.totalElements)

/-! ## Updates -/

/-- Changes to the metadata of a series; a part that is `none` stays as it is. -/
structure SeriesMetadataUpdate where
  status : Option SeriesStatus
  title : Option SeriesTitle
  titleSort : Option SeriesTitle
  alternativeTitles : Option (List SeriesTitle)
  summary : Option Text
  readingDirection : Option ReadingDirection
  publisher : Option Text
  alternativePublishers : Option (List Text)
  ageRating : Option Int
  language : Option Text
  genres : Option (List Text)
  tags : Option (List Text)
  totalBookCount : Option Int
  authors : Option (List Author)
  releaseYear : Option Int
  links : Option (List WebLink)

def SeriesMetadataUpdate.codec : Codec SeriesMetadataUpdate := .plain <|
  SeriesMetadataUpdate.mk
    <$> maybe "status" SeriesStatus.codec (·.status)
    <*> maybe "title" SeriesTitle.codec (·.title)
    <*> maybe "title_sort" SeriesTitle.codec (·.titleSort)
    <*> maybe "alternative_titles" SeriesTitle.codec.list (·.alternativeTitles)
    <*> maybe "summary" .text (·.summary)
    <*> maybe "reading_direction" ReadingDirection.codec (·.readingDirection)
    <*> maybe "publisher" .text (·.publisher)
    <*> maybe "alternative_publishers" .textSet (·.alternativePublishers)
    <*> maybe "age_rating" .int (·.ageRating)
    <*> maybe "language" .text (·.language)
    <*> maybe "genres" Codec.text.list (·.genres)
    <*> maybe "tags" Codec.text.list (·.tags)
    <*> maybe "total_book_count" .int (·.totalBookCount)
    <*> maybe "authors" Author.codec.list (·.authors)
    <*> maybe "release_year" .int (·.releaseYear)
    <*> maybe "links" WebLink.codec.list (·.links)

/-- Changes to the metadata of a book; a part that is `none` stays as it is. -/
structure BookMetadataUpdate where
  title : Option Text
  summary : Option Text
  number : Option Text
  numberSort : Option Float
  releaseDate : Option Date
  authors : Option (List Author)
  tags : Option (List Text)
  isbn : Option Text
  links : Option (List WebLink)

def BookMetadataUpdate.codec : Codec BookMetadataUpdate := .plain <|
  BookMetadataUpdate.mk
    <$> maybe "title" .text (·.title)
    <*> maybe "summary" .text (·.summary)
    <*> maybe "number" .text (·.number)
    <*> maybe "number_sort" .float (·.numberSort)
    <*> maybe "release_date" .date (·.releaseDate)
    <*> maybe "authors" Author.codec.list (·.authors)
    <*> maybe "tags" Codec.text.list (·.tags)
    <*> maybe "isbn" .text (·.isbn)
    <*> maybe "links" WebLink.codec.list (·.links)

end MediaWatch.Shelf
