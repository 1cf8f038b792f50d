import MediaWatch.Server.Records
import MediaWatch.Shelf.Records

/-!
# From the server to the shelf

The neutral records of what a server sends: `Library.ofServer`, `Series.ofServer` and `Book.ofServer`. A book's number
is the whole part of the number its metadata give, else its position in the series; `formatNumber` is the number as it
is shown. The date of a book is the day that its year, month and day name, if they name one (`releaseDate`).
-/

namespace MediaWatch.Shelf

/-- Why a record has no counterpart on the shelf. -/
inductive MappingFault where
  /-- The number of a book is not a number. -/
  | notANumber
  /-- The number of a book is infinite. -/
  | infinite
  /-- A part of a date does not fit 32 bits. -/
  | dateOverflow
  /-- The position of a book is too long to be written. -/
  | tooManyDigits
  deriving Repr, DecidableEq

/-! ## Libraries and series -/

def Library.ofServer (l : Server.Library) : Library := ⟨l.id, l.name, [l.path]⟩

/-- The status that a word of the server stands for, in lower case. -/
def SeriesStatus.ofWord : String → SeriesStatus
  | "completed" => .completed
  | "cancelled" => .abandoned
  | "abandoned" => .abandoned
  | "hiatus" => .hiatus
  | "ended" => .ended
  | _ => .ongoing

/-- The status that a text of the server stands for. -/
def SeriesStatus.ofText : Text → SeriesStatus
  | .plain s => .ofWord (Text.lowerAscii s)
  | .garbled .. => .ongoing

/-- A text, or another one when there is none or it is empty. -/
def orElse (text : Option Text) (other : Text) : Text :=
  match text with
  | none => other
  | some s => if s.isEmpty then other else s

/-- A link that is its own label. -/
def WebLink.ofUrl (url : Text) : WebLink := ⟨url, url⟩

def SeriesMetadata.ofServer (m : Server.SeriesMetadata) (s : Server.Series) : SeriesMetadata :=
  { status := .ofText (m.status.getD "")
    title := orElse m.title s.name
    titleSort := s.name
    summary := orElse m.summary ""
    publisher := m.publisher
    ageRating := m.ageRating
    genres := m.genres
    authors := m.writers.map (⟨·, "WRITER"⟩)
    links := m.links.map .ofUrl }

/-- The metadata of a series that has none. -/
def SeriesMetadata.default (s : Server.Series) : SeriesMetadata :=
  { title := s.name
    titleSort := s.name
    summary := orElse s.description ""
    totalBookCount := if 0 < s.mediaCount then some s.mediaCount else none }

def Series.ofServer (s : Server.Series) : Series :=
  { id := s.id
    libraryId := s.libraryId
    name := s.name
    booksCount := some s.mediaCount
    metadata := match s.metadata with
      | some m => .ofServer m s
      | none => .default s
    url := some s.path }

/-! ## Numbers and dates of books -/

/-- The whole part of a number. -/
def wholeNumber (x : Float) : Except MappingFault Int :=
  match Binary.ofFloat x with
  | .nan => .error .notANumber
  | .infinite _ => .error .infinite
  | .finite v => .ok v.whole

/-- A number as it is shown: without a point when it is whole. -/
def formatNumber (x : Float) : Text :=
  match Binary.ofFloat x with
  | .finite v => if v.isWhole then toString v.whole else Notation.finite v
  | _ => Notation.float x

/-- Whether an integer fits 32 bits. -/
def fits32 (n : Int) : Bool := -2147483648 ≤ n && n ≤ 2147483647

/-- A part of a date, the first one when it is missing or zero. -/
def datePart (n : Option Int) : Int :=
  match n with
  | none => 1
  | some n => if n = 0 then 1 else n

/-- The day with the given parts; without a year, or if there is no such day, none. -/
def releaseDate (year month day : Option Int) : Except MappingFault (Option Date) :=
  match year with
  | none => .ok none
  | some year =>
    if fits32 year && fits32 (datePart month) && fits32 (datePart day) then
      .ok (Date.ofParts? year (datePart month) (datePart day))
    else .error .dateOverflow

/-! ## Books -/

/-- The roles of authors in the order in which they are listed, each with the field of the metadata that names them. -/
def authorRoles : List (Text × (Server.MediumMetadata → List Text)) :=
  [("WRITER", (·.writers)), ("PENCILLER", (·.pencillers)), ("INKER", (·.inkers)), ("COLORIST", (·.colorists)),
   ("LETTERER", (·.letterers)), ("EDITOR", (·.editors))]

/-- The authors that metadata name, role by role. -/
def authors (m : Server.MediumMetadata) : List Author :=
  authorRoles.flatMap fun (role, names) => (names m).map (⟨·, role⟩)

def BookMetadata.ofServer (m : Server.MediumMetadata) : Except MappingFault BookMetadata :=
  (Shelf.releaseDate m.year m.month m.day).map fun date =>
    { title := m.title.getD ""
      summary := m.summary
      number := (m.number.map formatNumber).getD "0"
      numberSort := m.number.map formatNumber
      releaseDate := date
      authors := Shelf.authors m
      tags := m.genres
      isbn := m.identifierIsbn
      links := m.links.map .ofUrl }

/-- A position as it is shown. -/
def positionText (n : Int) : Except MappingFault Text :=
  if Schema.Conversions.maxDigits < Shortest.width n.natAbs then .error .tooManyDigits else .ok (toString n)

/-- The metadata of a medium that has none. -/
def BookMetadata.default (m : Server.Medium) : Except MappingFault BookMetadata :=
  ((m.seriesPosition.map positionText).getD (.ok "0")).map fun position =>
    { title := m.name, summary := m.description, number := position, numberSort := some position }

/-- The last component of a path, other than the current directory; empty if there is none. -/
def lastComponent (path : Text) : List Point :=
  let components := path.points.foldr (fun c parts => if c = .char '/' then [] :: parts else match parts with
    | p :: rest => (c :: p) :: rest
    | [] => [[c]]) [[]]
  (components.reverse.find? fun p => !p.isEmpty && p != [.char '.']).getD []

/-- A name without its extension. A point at either end of the name starts no extension. -/
def stem (name : List Point) : List Point :=
  let extension := name.reverse.takeWhile (· != .char '.')
  let kept := name.length - extension.length - 1
  if extension.length = name.length ∨ kept = 0 ∨ extension.isEmpty then name else name.take kept

/-- The name of the book in a file. -/
def bookName (path : Text) : Option Text := some (.ofPoints (stem (lastComponent path)))

/-- The number of a book. -/
def bookNumber (m : Server.Medium) : Except MappingFault (Option Int) :=
  match m.metadata.bind (·.number) with
  | some x => (wholeNumber x).map some
  | none => .ok m.seriesPosition

def Book.ofServer (m : Server.Medium) : Except MappingFault Book := do
  let number ← bookNumber m
  let metadata ← match m.metadata with
    | some metadata => BookMetadata.ofServer metadata
    | none => BookMetadata.default m
  return {
    id := m.id
    seriesId := m.seriesId
    libraryId := m.libraryId
    seriesTitle := (m.series.map (·.resolvedName)).getD "Unknown Series"
    name := orElse (bookName m.path) m.name
    url := m.path
    number
    metadata }

end MediaWatch.Shelf
