import MediaWatch.Schema.Record

/-!
# Events

What listeners are told: a book that was added (`BookEvent`) or a series (`SeriesEvent`). `Hook` names the call of a
listener that a batch goes to.
-/

namespace MediaWatch

open Schema Schema.Fields

/-- A book, with the series and library that hold it. -/
structure BookEvent where
  libraryId : Text
  seriesId : Text
  bookId : Text
  deriving Repr, DecidableEq

def BookEvent.codec : Codec BookEvent := .plain <|
  BookEvent.mk
    <$> required "library_id" .text (·.libraryId)
    <*> required "series_id" .text (·.seriesId)
    <*> required "book_id" .text (·.bookId)

/-- A series, with the library that holds it. -/
structure SeriesEvent where
  libraryId : Text
  seriesId : Text
  deriving Repr, DecidableEq

def SeriesEvent.codec : Codec SeriesEvent := .plain <|
  SeriesEvent.mk <$> required "library_id" .text (·.libraryId) <*> required "series_id" .text (·.seriesId)

/-- An event of either kind. -/
inductive Event where
  | book (e : BookEvent)
  | series (e : SeriesEvent)
  deriving Repr, DecidableEq

namespace Event

def codec : Codec Event where
  read conversions v :=
    if (v.get? "book_id").isSome then (BookEvent.codec.read conversions v).map .book
    else (SeriesEvent.codec.read conversions v).map .series
  write form e := match e with
    | .book e => BookEvent.codec.write form e
    | .series e => SeriesEvent.codec.write form e

/-- The event's text in messages. -/
def describe : Event → Text
  | .book e => "book " ++ e.bookId ++ " (series " ++ e.seriesId ++ ", library " ++ e.libraryId ++ ")"
  | .series e => "series " ++ e.seriesId ++ " (library " ++ e.libraryId ++ ")"

/-- The text of a batch in messages. -/
def describeAll (events : List Event) : Text := Text.intercalate ", " (events.map describe)

/-- The library of an event. -/
def libraryId : Event → Text
  | .book e => e.libraryId
  | .series e => e.libraryId

/-- The series of an event. -/
def seriesId : Event → Text
  | .book e => e.seriesId
  | .series e => e.seriesId

end Event

/-- The calls that a listener may answer; `other` is one that no listener knows. -/
inductive Hook where
  | booksAdded
  | booksDeleted
  | seriesChanged
  | seriesDeleted
  | other (name : String)
  deriving Repr, DecidableEq

namespace Hook

def name : Hook → String
  | booksAdded => "on_books_added"
  | booksDeleted => "on_books_deleted"
  | seriesChanged => "on_series_changed"
  | seriesDeleted => "on_series_deleted"
  | other name => name

/-- The hook with the given name. -/
def ofName (s : String) : Hook :=
  ([booksAdded, booksDeleted, seriesChanged, seriesDeleted].find? fun h => h.name == s).getD (other s)

end Hook

end MediaWatch
