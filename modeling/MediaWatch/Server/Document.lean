/-!
# Queries

The documents that are sent to the server, each an operation with a selection of fields (`Document.text`). Selections
that several documents share are fragments, documents of their own; spliced into another they keep their indentation
and stand between blank lines.
-/

namespace MediaWatch.Server

/-- A document, or a selection that documents share. -/
inductive Document where
  | libraryFields
  | seriesMetadataFields
  | seriesFields
  | mediaMetadataFields
  | mediaFields
  | pageInfoFields
  | getLibraries
  | getLibrary
  | scanLibrary
  | getSeries
  | getSeriesDetail
  | updateSeriesMetadata
  | scanSeries
  | getMedia
  | getAllMedia
  | getMediaDetail
  | getMediaWithSeries
  | updateMediaMetadata
  | uploadSeriesCover
  | uploadMediaCover
  | readEventsSubscription
  deriving Repr, DecidableEq

namespace Document

/-- All documents. -/
def all : List Document :=
  [libraryFields, seriesMetadataFields, seriesFields, mediaMetadataFields, mediaFields, pageInfoFields, getLibraries,
   getLibrary, scanLibrary, getSeries, getSeriesDetail, updateSeriesMetadata, scanSeries, getMedia, getAllMedia,
   getMediaDetail, getMediaWithSeries, updateMediaMetadata, uploadSeriesCover, uploadMediaCover,
   readEventsSubscription]

/-- The name that a document goes by. -/
def name : Document → String
  | libraryFields => "LIBRARY_FIELDS"
  | seriesMetadataFields => "SERIES_METADATA_FIELDS"
  | seriesFields => "SERIES_FIELDS"
  | mediaMetadataFields => "MEDIA_METADATA_FIELDS"
  | mediaFields => "MEDIA_FIELDS"
  | pageInfoFields => "PAGE_INFO_FIELDS"
  | getLibraries => "GET_LIBRARIES"
  | getLibrary => "GET_LIBRARY"
  | scanLibrary => "SCAN_LIBRARY"
  | getSeries => "GET_SERIES"
  | getSeriesDetail => "GET_SERIES_DETAIL"
  | updateSeriesMetadata => "UPDATE_SERIES_METADATA"
  | scanSeries => "SCAN_SERIES"
  | getMedia => "GET_MEDIA"
  | getAllMedia => "GET_ALL_MEDIA"
  | getMediaDetail => "GET_MEDIA_DETAIL"
  | getMediaWithSeries => "GET_MEDIA_WITH_SERIES"
  | updateMediaMetadata => "UPDATE_MEDIA_METADATA"
  | uploadSeriesCover => "UPLOAD_SERIES_COVER"
  | uploadMediaCover => "UPLOAD_MEDIA_COVER"
  | readEventsSubscription => "READ_EVENTS_SUBSCRIPTION"

/-- The document with the given name. -/
def ofName? (s : String) : Option Document := all.find? fun d => d.name == s

/-! ## Layout -/

/-- A line at the given depth. -/
def line (depth : Nat) (s : String) : String := String.ofList (List.replicate (4 * depth) ' ') ++ s

/-- A line for each field. -/
def fields (depth : Nat) (names : List String) : List String := names.map (line depth)

/-- A selection in braces after its head. -/
def block (depth : Nat) (head : String) (body : List String) : List String :=
  [line depth (head ++ " \x7b")] ++ body ++ [line depth "\x7d"]

/-- A fragment between blank lines. -/
def splice (lines : List String) : List String := [""] ++ lines ++ [""]

/-! ## Fragments -/

def libraryLines : List String :=
  fields 1 ["id", "name", "description", "path", "status", "createdAt", "updatedAt"] ++
  block 1 "tags" (fields 2 ["id", "name"]) ++
  block 1 "config"
    (fields 2 ["convertRarToZip", "hardDeleteConversions", "generateFileHashes", "processMetadata"] ++
     block 2 "thumbnailConfig" (fields 3 ["format", "quality"]))

def seriesMetadataLines : List String :=
  fields 1 ["seriesId", "ageRating", "booktype", "comicid", "comicImage", "descriptionFormatted", "imprint", "metaType",
    "publicationRun", "publisher", "status", "summary", "title", "totalIssues", "volume", "year", "characters"] ++
  block 1 "collects" (fields 2 ["series", "comicid", "issueid", "issues"]) ++
  fields 1 ["genres", "links", "writers"]

def seriesLines : List String :=
  fields 1 ["id", "name", "description", "path", "status", "createdAt", "updatedAt", "libraryId", "mediaCount"] ++
  block 1 "tags" (fields 2 ["id", "name"]) ++
  block 1 "metadata" (splice seriesMetadataLines)

def mediaMetadataLines : List String :=
  fields 1 ["id", "mediaId", "ageRating", "format", "day", "language", "month", "notes", "number", "pageCount",
    "publisher", "series", "seriesGroup", "storyArc", "storyArcNumber", "summary", "title", "titleSort", "volume", "year",
    "identifierIsbn", "writers", "genres", "characters", "colorists", "coverArtists", "editors", "inkers", "letterers",
    "links", "pencillers", "teams"]

def mediaLines : List String :=
  fields 1 ["id", "name", "path", "size", "extension", "pages", "status", "createdAt", "updatedAt", "seriesId",
    "libraryId", "hash", "seriesPosition"] ++
  block 1 "metadata" (splice mediaMetadataLines)

def pageInfoLines : List String :=
  block 1 "pageInfo"
    (block 2 "... on OffsetPaginationInfo"
      (fields 3 ["totalPages", "totalItems", "currentPage", "pageSize", "pageOffset", "zeroBased"]))

/-- The series of a medium in a list. -/
def seriesOfMedium : List String := block 3 "series" (fields 4 ["id", "name", "resolvedName"])

/-- A mutation that answers with the id of what it changed. -/
def mutation (head call : String) : List String := block 0 head (block 1 call (fields 2 ["id"]))

/-! ## Documents -/

/-- The lines of a document. -/
def lines : Document → List String
  | libraryFields => libraryLines
  | seriesMetadataFields => seriesMetadataLines
  | seriesFields => seriesLines
  | mediaMetadataFields => mediaMetadataLines
  | mediaFields => mediaLines
  | pageInfoFields => pageInfoLines
  | getLibraries =>
    block 0 "query GetLibraries($pagination: Pagination!)"
      (block 1 "libraries(pagination: $pagination)" (block 2 "nodes" (splice libraryLines)))
  | getLibrary => block 0 "query GetLibrary($id: ID!)" (block 1 "libraryById(id: $id)" (splice libraryLines))
  | scanLibrary => block 0 "mutation ScanLibrary($id: ID!)" (fields 1 ["scanLibrary(id: $id)"])
  | getSeries =>
    block 0 "query GetSeries($filter: SeriesFilterInput!, $pagination: Pagination!)"
      (block 1 "series(filter: $filter, pagination: $pagination)"
        (block 2 "nodes" (splice seriesLines) ++ splice pageInfoLines))
  | getSeriesDetail => block 0 "query GetSeriesDetail($id: ID!)" (block 1 "seriesById(id: $id)" (splice seriesLines))
  | updateSeriesMetadata =>
    mutation "mutation UpdateSeriesMetadata($id: ID!, $input: SeriesMetadataInput!)"
      "updateSeriesMetadata(id: $id, input: $input)"
  | scanSeries => block 0 "mutation ScanSeries($id: ID!)" (fields 1 ["scanSeries(id: $id)"])
  | getMedia =>
    block 0 "query GetMedia($filter: MediaFilterInput!, $pagination: Pagination!)"
      (block 1 "media(filter: $filter, pagination: $pagination)"
        (block 2 "nodes" (splice mediaLines ++ seriesOfMedium) ++ splice pageInfoLines))
  | getAllMedia =>
    block 0 "query GetAllMedia($filter: MediaFilterInput!, $pagination: Pagination!)"
      (block 1 "media(filter: $filter, pagination: $pagination)"
        (block 2 "nodes" (splice mediaLines ++ seriesOfMedium)))
  | getMediaDetail => block 0 "query GetMediaDetail($id: ID!)" (block 1 "mediaById(id: $id)" (splice mediaLines))
  | getMediaWithSeries =>
    block 0 "query GetMediaWithSeries($id: ID!)"
      (block 1 "mediaById(id: $id)"
        (splice mediaLines ++
         block 2 "series"
          (fields 3 ["id", "name", "resolvedName"] ++ block 3 "metadata" (splice seriesMetadataLines))))
  | updateMediaMetadata =>
    mutation "mutation UpdateMediaMetadata($id: ID!, $input: MediaMetadataInput!)"
      "updateMediaMetadata(id: $id, input: $input)"
  | uploadSeriesCover =>
    mutation "mutation UploadSeriesCover($id: ID!, $image: String!)"
      "uploadSeriesThumbnailBase64(id: $id, image: $image)"
  | uploadMediaCover =>
    mutation "mutation UploadMediaCover($id: ID!, $image: String!)" "uploadMediaThumbnailBase64(id: $id, image: $image)"
  | readEventsSubscription =>
    block 0 "subscription ReadEvents"
      (block 1 "readEvents"
        (fields 2 ["__typename"] ++ block 2 "... on CreatedMedia" (fields 3 ["id", "seriesId", "libraryId"])))

/-- The text of a document: every line on a fresh one. -/
def text (d : Document) : String := String.join (d.lines.map ("\n" ++ ·)) ++ "\n"

end Document

end MediaWatch.Server
