import MediaWatch.Client.Exchange
import MediaWatch.Server.Pagination
import MediaWatch.Shelf.Records

/-!
# Calls

A `Call` is a query with the way its data are read: a document, its arguments and a decoder. `Call.outcome` is what a
call comes to after an exchange. Covers are fetched rather than queried; `Cover.outcome` is what becomes of those.
-/

namespace MediaWatch.Client

open Json Schema Schema.Fields

/-- A query whose data are read as an `α`. -/
structure Call (α : Type) where
  document : Server.Document
  arguments : Members
  decode : Conversions → Members → Except Failure α

namespace Call

variable {α : Type}

/-- What a call comes to. -/
def outcome (d : Decoding) (c : Call α) (x : Exchange) : Except Failure α := do c.decode d.conversions (← x.data d)

def message (c : Call α) : Message := .query c.document c.arguments

/-! ## Shapes of data -/

/-- Data of the given shape. -/
def shaped {ρ : Type} (fields : Fields ρ ρ) (conversions : Conversions) (data : Members) : Except Failure ρ :=
  match (Codec.aliased fields).read conversions (.obj data) with
  | .ok r => .ok r
  | .error issues => .error (.client (.misshapen issues))

/-- One record with its own name, as the single field of the data. -/
def single (field : String) (c : Codec α) : Fields α α := required field c id

/-- A record that may be absent. -/
def record (field : String) (c : Codec α) (absence : Text) (conversions : Conversions) (data : Members) :
    Except Failure α := do
  match ← shaped (maybe field c id) conversions data with
  | some a => return a
  | none => .error (.client (.absent absence))

/-- The nodes of a listing. -/
def nodes (c : Codec α) : Codec (List α) := .aliased (required "nodes" c.list id)

/-- The nodes of a page, and what the answer says about it. -/
structure Nodes (α : Type) where
  nodes : List α
  pageInfo : Option Server.PageInfo

def Nodes.codec (c : Codec α) : Codec (Nodes α) := .aliased <|
  Nodes.mk
    <$> required "nodes" c.list (·.nodes)
    <*> given "page_info" (Server.PageInfo.codec.optional.blankAs .null) none (·.pageInfo)

/-- A page of a listing. -/
def page (field : String) (c : Codec α) (number size : Int) (conversions : Conversions) (data : Members) :
    Except Failure (Server.Page α) := do
  let found ← shaped (single field (Nodes.codec c)) conversions data
  return .ofNodes found.nodes found.pageInfo number size

/-! ## The calls -/

/-- The variable that names a record. -/
def byId (id : Text) : Members := [("id", .str id)]

/-- The arguments that select by a field. -/
def selecting (field : String) (id : Text) (pagination : Value) : Members :=
  [("filter", .obj [(field, .obj [("eq", .str id)])]), ("pagination", pagination)]

def libraries : Call (List Server.Library) where
  document := .getLibraries
  arguments := [("pagination", Server.Pagination.unpaginated)]
  decode := shaped (single "libraries" (nodes Server.Library.codec))

def library (id : Text) : Call Server.Library where
  document := .getLibrary
  arguments := byId id
  decode := record "library_by_id" Server.Library.codec ("Library not found: " ++ id)

/-- A mutation whose data do not matter. -/
def mutation (document : Server.Document) (arguments : Members) : Call Unit := ⟨document, arguments, fun _ _ => .ok ()⟩

def scanLibrary (id : Text) : Call Unit := mutation .scanLibrary (byId id)

def seriesPage (library : Text) (number size : Int) : Call (Server.Page Server.Series) where
  document := .getSeries
  arguments := selecting "libraryId" library (Server.Pagination.offset number size)
  decode := page "series" Server.Series.codec number size

def series (id : Text) : Call Server.Series where
  document := .getSeriesDetail
  arguments := byId id
  decode := record "series_by_id" Server.Series.codec ("Series not found: " ++ id)

def updateSeries (id : Text) (input : Server.SeriesMetadataInput) : Call Unit :=
  mutation .updateSeriesMetadata (byId id ++ ([("input", Server.SeriesMetadataInput.codec.write .wire input)] : Members))

def scanSeries (id : Text) : Call Bool where
  document := .scanSeries
  arguments := byId id
  decode := shaped (single "scan_series" Codec.bool)

def mediaPage (series : Text) (number size : Int) : Call (Server.Page Server.Medium) where
  document := .getMedia
  arguments := selecting "seriesId" series (Server.Pagination.offset number size)
  decode := page "media" Server.Medium.codec number size

def allMedia (series : Text) : Call (List Server.Medium) where
  document := .getAllMedia
  arguments := selecting "seriesId" series Server.Pagination.unpaginated
  decode := shaped (single "media" (nodes Server.Medium.codec))

def medium (id : Text) : Call Server.Medium where
  document := .getMediaDetail
  arguments := byId id
  decode := record "media_by_id" Server.Medium.codec ("Media not found: " ++ id)

def mediumWithSeries (id : Text) : Call Server.Medium where
  document := .getMediaWithSeries
  arguments := byId id
  decode := record "media_by_id" Server.Medium.withSeries ("Media not found: " ++ id)

def updateMedium (id : Text) (input : Server.MediumMetadataInput) : Call Unit :=
  mutation .updateMediaMetadata (byId id ++ ([("input", Server.MediumMetadataInput.codec.write .wire input)] : Members))

/-- The arguments of an upload. -/
def uploading (id : Text) (cover : Shelf.Image) : Members :=
  byId id ++ ([("image", .str (Base64.ofBytes cover.data))] : Members)

def uploadSeriesCover (id : Text) (cover : Shelf.Image) : Call Unit :=
  mutation .uploadSeriesCover (uploading id cover)

def uploadMediumCover (id : Text) (cover : Shelf.Image) : Call Unit :=
  mutation .uploadMediaCover (uploading id cover)

end Call

/-! ## Covers -/

/-- Whose cover is meant. -/
inductive Cover where
  | series (id : Text)
  | medium (id : Text)
  deriving Repr, DecidableEq

namespace Cover

def kind : Cover → String
  | series _ => "Series"
  | medium _ => "Media"

def path : Cover → Text
  | series id => "api/v2/series/" ++ id ++ "/thumbnail"
  | medium id => "api/v2/media/" ++ id ++ "/thumbnail"

/-- The message that asks for a cover, unless the id is garbled. -/
def message? (c : Cover) : Option Message := c.path.string?.map .fetch

/-- What fetching a cover comes to. -/
def outcome (c : Cover) (x : Exchange) : Except Failure Shelf.Image :=
  match x with
  | .answered a =>
    if a.status = 404 then .error (.client (.absent (c.kind ++ " cover not found")))
    else (x.success (c.kind ++ " cover request")).map fun a => ⟨⟨a.body.toArray⟩, a.contentType⟩
  | x => (x.success (c.kind ++ " cover request")).map fun a => ⟨⟨a.body.toArray⟩, a.contentType⟩

end Cover

end MediaWatch.Client
