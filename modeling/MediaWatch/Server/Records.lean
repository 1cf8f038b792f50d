import MediaWatch.Schema.Record

/-!
# What the server sends

The records of the media server, each with its codec: libraries, series and media with their metadata
(`Library.codec`, `Series.codec`, `Medium.codec`), pages (`PageInfo`, `Page`) and the envelopes of queries and answers
(`Request`, `Response`). `Page.ofNodes` builds a page from the nodes of an answer and what it says about paging.
-/

namespace MediaWatch.Server

open Schema Schema.Fields Json

/-! ## Libraries -/

structure Tag where
  id : Text
  name : Text

def Tag.codec : Codec Tag := .aliased <|
  Tag.mk <$> required "id" .text (·.id) <*> required "name" .text (·.name)

structure ThumbnailConfig where
  format : Text
  quality : Option Number

def ThumbnailConfig.codec : Codec ThumbnailConfig := .aliased <|
  ThumbnailConfig.mk
    <$> given "format" .text "WEBP" (·.format)
    <*> given "quality" Codec.real.optional (some (.int 85)) (·.quality)

structure LibraryConfig where
  convertRarToZip : Bool
  hardDeleteConversions : Bool
  generateFileHashes : Bool
  processMetadata : Bool
  thumbnailConfig : Option ThumbnailConfig

def LibraryConfig.codec : Codec LibraryConfig := .aliased <|
  LibraryConfig.mk
    <$> flag "convert_rar_to_zip" (·.convertRarToZip)
    <*> flag "hard_delete_conversions" (·.hardDeleteConversions)
    <*> flag "generate_file_hashes" (·.generateFileHashes)
    <*> given "process_metadata" .bool true (·.processMetadata)
    <*> maybe "thumbnail_config" ThumbnailConfig.codec (·.thumbnailConfig)

structure Library where
  id : Text
  name : Text
  description : Option Text
  path : Text
  status : Option Text
  createdAt : Option Moment
  updatedAt : Option Moment
  tags : List Tag
  config : Option LibraryConfig

def Library.codec : Codec Library := .aliased <|
  Library.mk
    <$> required "id" .text (·.id)
    <*> required "name" .text (·.name)
    <*> maybe "description" .text (·.description)
    <*> required "path" .text (·.path)
    <*> maybe "status" .text (·.status)
    <*> maybe "created_at" .moment (·.createdAt)
    <*> maybe "updated_at" .moment (·.updatedAt)
    <*> many "tags" Tag.codec (·.tags)
    <*> maybe "config" LibraryConfig.codec (·.config)

/-! ## Series -/

structure SeriesMetadata where
  seriesId : Option Text
  ageRating : Option Int
  booktype : Option Text
  comicid : Option Int
  descriptionFormatted : Option Text
  imprint : Option Text
  metaType : Option Text
  publicationRun : Option Text
  publisher : Option Text
  status : Option Text
  summary : Option Text
  title : Option Text
  totalIssues : Option Int
  volume : Option Int
  year : Option Int
  characters : List Text
  genres : List Text
  links : List Text
  writers : List Text

def SeriesMetadata.codec : Codec SeriesMetadata := .aliased <|
  SeriesMetadata.mk
    <$> maybe "series_id" .text (·.seriesId)
    <*> maybe "age_rating" .int (·.ageRating)
    <*> maybe "booktype" .text (·.booktype)
    <*> maybe "comicid" .int (·.comicid)
    <*> maybe "description_formatted" .text (·.descriptionFormatted)
    <*> maybe "imprint" .text (·.imprint)
    <*> maybe "meta_type" .text (·.metaType)
    <*> maybe "publication_run" .text (·.publicationRun)
    <*> maybe "publisher" .text (·.publisher)
    <*> maybe "status" .text (·.status)
    <*> maybe "summary" .text (·.summary)
    <*> maybe "title" .text (·.title)
    <*> maybe "total_issues" .int (·.totalIssues)
    <*> maybe "volume" .int (·.volume)
    <*> maybe "year" .int (·.year)
    <*> texts "characters" (·.characters)
    <*> texts "genres" (·.genres)
    <*> texts "links" (·.links)
    <*> texts "writers" (·.writers)

structure Series where
  id : Text
  name : Text
  description : Option Text
  path : Text
  status : Option Text
  createdAt : Option Moment
  updatedAt : Option Moment
  libraryId : Text
  mediaCount : Int
  tags : List Tag
  metadata : Option SeriesMetadata

def Series.codec : Codec Series := .aliased <|
  Series.mk
    <$> required "id" .text (·.id)
    <*> required "name" .text (·.name)
    <*> maybe "description" .text (·.description)
    <*> required "path" .text (·.path)
    <*> maybe "status" .text (·.status)
    <*> maybe "created_at" .moment (·.createdAt)
    <*> maybe "updated_at" .moment (·.updatedAt)
    <*> required "library_id" .text (·.libraryId)
    <*> given "media_count" .int 0 (·.mediaCount)
    <*> many "tags" Tag.codec (·.tags)
    <*> maybe "metadata" SeriesMetadata.codec (·.metadata)

/-! ## Media -/

structure MediumMetadata where
  id : Option Codec.Label
  mediaId : Option Text
  ageRating : Option Int
  format : Option Text
  day : Option Int
  language : Option Text
  month : Option Int
  notes : Option Text
  number : Option Float
  pageCount : Option Int
  publisher : Option Text
  series : Option Text
  seriesGroup : Option Text
  storyArc : Option Text
  storyArcNumber : Option Float
  summary : Option Text
  title : Option Text
  titleSort : Option Text
  volume : Option Int
  year : Option Int
  identifierIsbn : Option Text
  writers : List Text
  genres : List Text
  characters : List Text
  colorists : List Text
  coverArtists : List Text
  editors : List Text
  inkers : List Text
  letterers : List Text
  links : List Text
  pencillers : List Text
  teams : List Text

def MediumMetadata.codec : Codec MediumMetadata := .aliased <|
  MediumMetadata.mk
    <$> maybe "id" (.label false) (·.id)
    <*> maybe "media_id" .text (·.mediaId)
    <*> maybe "age_rating" .int (·.ageRating)
    <*> maybe "format" .text (·.format)
    <*> maybe "day" .int (·.day)
    <*> maybe "language" .text (·.language)
    <*> maybe "month" .int (·.month)
    <*> maybe "notes" .text (·.notes)
    <*> maybe "number" .float (·.number)
    <*> maybe "page_count" .int (·.pageCount)
    <*> maybe "publisher" .text (·.publisher)
    <*> maybe "series" .text (·.series)
    <*> maybe "series_group" .text (·.seriesGroup)
    <*> maybe "story_arc" .text (·.storyArc)
    <*> maybe "story_arc_number" .float (·.storyArcNumber)
    <*> maybe "summary" .text (·.summary)
    <*> maybe "title" .text (·.title)
    <*> maybe "title_sort" .text (·.titleSort)
    <*> maybe "volume" .int (·.volume)
    <*> maybe "year" .int (·.year)
    <*> maybe "identifier_isbn" .text (·.identifierIsbn)
    <*> texts "writers" (·.writers)
    <*> texts "genres" (·.genres)
    <*> texts "characters" (·.characters)
    <*> texts "colorists" (·.colorists)
    <*> texts "cover_artists" (·.coverArtists)
    <*> texts "editors" (·.editors)
    <*> texts "inkers" (·.inkers)
    <*> texts "letterers" (·.letterers)
    <*> texts "links" (·.links)
    <*> texts "pencillers" (·.pencillers)
    <*> texts "teams" (·.teams)

/-- The series that a medium belongs to, as far as a medium tells. -/
structure SeriesSelection where
  id : Text
  name : Text
  resolvedName : Text
  metadata : Option SeriesMetadata

def SeriesSelection.codec : Codec SeriesSelection := .aliased <|
  SeriesSelection.mk
    <$> required "id" .text (·.id)
    <*> required "name" .text (·.name)
    <*> required "resolved_name" .text (·.resolvedName)
    <*> maybe "metadata" SeriesMetadata.codec (·.metadata)

structure Medium where
  id : Text
  name : Text
  description : Option Text
  path : Text
  size : Int
  extension : Option Text
  pages : Int
  status : Option Text
  createdAt : Option Moment
  updatedAt : Option Moment
  seriesId : Text
  libraryId : Option Text
  hash : Option Text
  seriesPosition : Option Int
  metadata : Option MediumMetadata
  series : Option SeriesSelection

/-- The codec of a medium, given how its series is written. -/
def Medium.codecWith (series : Fields Medium (Option SeriesSelection)) : Codec Medium := .aliased <|
  Medium.mk
    <$> required "id" .text (·.id)
    <*> required "name" .text (·.name)
    <*> maybe "description" .text (·.description)
    <*> required "path" .text (·.path)
    <*> given "size" .int 0 (·.size)
    <*> maybe "extension" .text (·.extension)
    <*> given "pages" .int 0 (·.pages)
    <*> maybe "status" .text (·.status)
    <*> maybe "created_at" .moment (·.createdAt)
    <*> maybe "updated_at" .moment (·.updatedAt)
    <*> required "series_id" .text (·.seriesId)
    <*> maybe "library_id" .text (·.libraryId)
    <*> maybe "hash" .text (·.hash)
    <*> maybe "series_position" .int (·.seriesPosition)
    <*> maybe "metadata" MediumMetadata.codec (·.metadata)
    <*> series

def Medium.codec : Codec Medium := Medium.codecWith (maybe "series" SeriesSelection.codec (·.series))

/-- A medium that has to tell its series. -/
def Medium.withSeries : Codec Medium :=
  Medium.codecWith (required "series" SeriesSelection.codec.present (·.series))

/-! ## Pages -/

/-- What an answer says about the page it is. -/
structure PageInfo where
  totalPages : Int
  totalItems : Option Int
  currentPage : Int
  pageSize : Int
  pageOffset : Option Int
  zeroBased : Option Bool

def PageInfo.codec : Codec PageInfo := .aliased <|
  PageInfo.mk
    <$> required "total_pages" .int (·.totalPages)
    <*> maybe "total_items" .int (·.totalItems)
    <*> required "current_page" .int (·.currentPage)
    <*> required "page_size" .int (·.pageSize)
    <*> maybe "page_offset" .int (·.pageOffset)
    <*> maybe "zero_based" .bool (·.zeroBased)

/-- One page of a listing. -/
structure Page (α : Type) where
  content : List α
  totalPages : Option Int
  totalElements : Option Int
  currentPage : Int
  pageSize : Int
  hasNext : Bool
  hasPrevious : Bool

def Page.codec {α : Type} (c : Codec α) : Codec (Page α) := .plain <|
  Page.mk
    <$> required "content" c.list (·.content)
    <*> maybe "total_pages" .int (·.totalPages)
    <*> maybe "total_elements" .int (·.totalElements)
    <*> required "current_page" .int (·.currentPage)
    <*> required "page_size" .int (·.pageSize)
    <*> required "has_next" .bool (·.hasNext)
    <*> required "has_previous" .bool (·.hasPrevious)

/-- Whether pages are counted from zero: as the server says, else exactly when this is page zero. -/
def PageInfo.countsFromZero (info : PageInfo) : Bool := info.zeroBased.getD (info.currentPage == 0)

/-- The number of the last page. -/
def PageInfo.lastPage (info : PageInfo) : Int :=
  if info.countsFromZero then info.totalPages - 1 else info.totalPages

/-- The page with the given nodes. Without any word about paging it is the requested page and the only one. -/
def Page.ofNodes {α : Type} (nodes : List α) (info : Option PageInfo) (page pageSize : Int) : Page α :=
  match info with
  | none =>
    { content := nodes, totalPages := none, totalElements := none, currentPage := page, pageSize := pageSize
      hasNext := false, hasPrevious := false }
  | some info =>
    { content := nodes, totalPages := some info.totalPages, totalElements := info.totalItems
      currentPage := info.currentPage, pageSize := info.pageSize
      hasNext := info.currentPage < info.lastPage, hasPrevious := 0 < info.currentPage }

/-! ## Envelopes -/

/-- A query or mutation with its arguments. -/
structure Request where
  query : Text
  arguments : Members

def Request.codec : Codec Request := .plain <|
  Request.mk <$> required "query" .text (·.query) <*> given "variables" .object [] (·.arguments)

/-- An error that the server reports within an answer. -/
structure ErrorEntry where
  message : Text
  path : Option (List Codec.Label)
  extensions : Option Members

def ErrorEntry.codec : Codec ErrorEntry := .plain <|
  ErrorEntry.mk
    <$> required "message" .text (·.message)
    <*> maybe "path" (Codec.label true).list (·.path)
    <*> maybe "extensions" .object (·.extensions)

/-- The envelope of an answer. -/
structure Response where
  data : Option Members
  errors : Option (List ErrorEntry)

def Response.codec : Codec Response := .plain <|
  Response.mk <$> maybe "data" .object (·.data) <*> maybe "errors" ErrorEntry.codec.list (·.errors)

/-! ## Metadata inputs -/

/-- The fields of a series' metadata to set; a field that is `none` stays as it is. -/
structure SeriesMetadataInput where
  ageRating : Option Int
  booktype : Option Text
  characters : Option (List Text)
  comicid : Option Int
  genres : Option (List Text)
  imprint : Option Text
  links : Option (List Text)
  metaType : Option Text
  publisher : Option Text
  status : Option Text
  summary : Option Text
  title : Option Text
  volume : Option Int
  writers : Option (List Text)

def SeriesMetadataInput.codec : Codec SeriesMetadataInput := .aliased <|
  SeriesMetadataInput.mk
    <$> maybe "age_rating" .int (·.ageRating)
    <*> maybe "booktype" .text (·.booktype)
    <*> maybe "characters" Codec.text.list (·.characters)
    <*> maybe "comicid" .int (·.comicid)
    <*> maybe "genres" Codec.text.list (·.genres)
    <*> maybe "imprint" .text (·.imprint)
    <*> maybe "links" Codec.text.list (·.links)
    <*> maybe "meta_type" .text (·.metaType)
    <*> maybe "publisher" .text (·.publisher)
    <*> maybe "status" .text (·.status)
    <*> maybe "summary" .text (·.summary)
    <*> maybe "title" .text (·.title)
    <*> maybe "volume" .int (·.volume)
    <*> maybe "writers" Codec.text.list (·.writers)

/-- The fields of a medium's metadata to set; a field that is `none` stays as it is. -/
structure MediumMetadataInput where
  title : Option Text
  titleSort : Option Text
  series : Option Text
  number : Option Float
  volume : Option Int
  summary : Option Text
  notes : Option Text
  genres : Option (List Text)
  year : Option Int
  month : Option Int
  day : Option Int
  writers : Option (List Text)
  pencillers : Option (List Text)
  inkers : Option (List Text)
  colorists : Option (List Text)
  letterers : Option (List Text)
  coverArtists : Option (List Text)
  editors : Option (List Text)
  publisher : Option Text
  links : Option (List Text)
  characters : Option (List Text)
  teams : Option (List Text)
  pageCount : Option Int
  ageRating : Option Int
  language : Option Text
  identifierIsbn : Option Text

def MediumMetadataInput.codec : Codec MediumMetadataInput := .aliased <|
  MediumMetadataInput.mk
    <$> maybe "title" .text (·.title)
    <*> maybe "title_sort" .text (·.titleSort)
    <*> maybe "series" .text (·.series)
    <*> maybe "number" .float (·.number)
    <*> maybe "volume" .int (·.volume)
    <*> maybe "summary" .text (·.summary)
    <*> maybe "notes" .text (·.notes)
    <*> maybe "genres" Codec.text.list (·.genres)
    <*> maybe "year" .int (·.year)
    <*> maybe "month" .int (·.month)
    <*> maybe "day" .int (·.day)
    <*> maybe "writers" Codec.text.list (·.writers)
    <*> maybe "pencillers" Codec.text.list (·.pencillers)
    <*> maybe "inkers" Codec.text.list (·.inkers)
    <*> maybe "colorists" Codec.text.list (·.colorists)
    <*> maybe "letterers" Codec.text.list (·.letterers)
    <*> maybe "cover_artists" Codec.text.list (·.coverArtists)
    <*> maybe "editors" Codec.text.list (·.editors)
    <*> maybe "publisher" .text (·.publisher)
    <*> maybe "links" Codec.text.list (·.links)
    <*> maybe "characters" Codec.text.list (·.characters)
    <*> maybe "teams" Codec.text.list (·.teams)
    <*> maybe "page_count" .int (·.pageCount)
    <*> maybe "age_rating" .int (·.ageRating)
    <*> maybe "language" .text (·.language)
    <*> maybe "identifier_isbn" .text (·.identifierIsbn)

end MediaWatch.Server
