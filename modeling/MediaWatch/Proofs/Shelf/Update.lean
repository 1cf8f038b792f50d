import Mathlib.Data.List.Perm.Basic
import MediaWatch.Proofs.Server.Overwriting
import MediaWatch.Shelf.OfServer

/-!
# Updates and what is seen of them

An update of the shelf is sent to the server as an input with a field for each part that it sets; the server sets these
fields, and the shelf reads the metadata again. What is seen then is what was seen before, with the parts of the update
in their places: `SeriesMetadata.updated` and `BookMetadata.updated` say which part shows where. The way out and the way
back fit together part by part: words and statuses (`SeriesStatus.ofText_statusWord`), names and roles
(`map_namesWithRole`), dates (`releaseDate_of_date`). The main results, `series_update_seen` and `book_update_seen`, say
what is sent and what is seen, for any metadata before.
-/

namespace MediaWatch.Shelf

open Json Schema

/-! ## Out and back -/

theorem SeriesStatus.ofText_statusWord (s : SeriesStatus) : ofText (Server.statusWord s) = s := by
  cases s <;> rfl

/-- The names of a role, under it again, are the authors with that role. -/
theorem map_namesWithRole (authors : List Author) (role : Text) :
    (Server.namesWithRole authors role).map (⟨·, role⟩) = authors.filter (·.role == role) := by
  rw [Server.namesWithRole, List.map_map]
  refine (List.map_congr_left fun a ha => ?_).trans (List.map_id _)
  have hrole : a.role = role := eq_of_beq (List.mem_filter.mp ha).2
  rw [Function.comp_apply, ← hrole]
  rfl

/-- Links that are set, or those that were there, shown as links again. -/
theorem map_linkUrls_getD (links : Option (List WebLink)) (urls : List Text) :
    ((links.map Server.linkUrls).getD urls).map WebLink.ofUrl =
      (links.map (·.map fun l => .ofUrl l.url)).getD (urls.map .ofUrl) := by
  cases links with
  | none => rfl
  | some links => exact List.map_map

theorem orElse_some (text other : Text) : orElse (some text) other = if text = "" then other else text := by
  simp only [orElse, Text.isEmpty_iff]

theorem orElse_empty (text : Text) : orElse (some text) "" = text := by
  rw [orElse_some]
  split
  · rename_i h; exact h.symm
  · rfl

/-! ## Series -/

/-- The metadata of a series with the parts of an update in their places. Of the authors the writers show, and instead
of an empty title the name of the series. -/
def SeriesMetadata.updated (before : SeriesMetadata) (u : SeriesMetadataUpdate) (name : Text) : SeriesMetadata :=
  { before with
    status := u.status.getD before.status
    title := (u.title.map fun t : SeriesTitle => if t.name = "" then name else t.name).getD before.title
    summary := u.summary.getD before.summary
    publisher := u.publisher <|> before.publisher
    ageRating := u.ageRating <|> before.ageRating
    genres := u.genres.getD before.genres
    authors := (u.authors.map (·.filter (·.role == "WRITER"))).getD before.authors
    links := (u.links.map (·.map fun l => .ofUrl l.url)).getD before.links }

theorem SeriesMetadata.ofServer_overwrite (u : SeriesMetadataUpdate) (m : Server.SeriesMetadata) (s : Server.Series) :
    ofServer (m.overwrite (.ofUpdate u)) s = (ofServer m s).updated u s.name := by
  have hstatus : SeriesStatus.ofText ((u.status.map Server.statusWord <|> m.status).getD "") =
      u.status.getD (.ofText (m.status.getD "")) := by
    cases u.status with
    | none => rfl
    | some status => exact status.ofText_statusWord
  have htitle : orElse (u.title.map (·.name) <|> m.title) s.name =
      (u.title.map fun t : SeriesTitle => if t.name = "" then s.name else t.name).getD (orElse m.title s.name) := by
    cases u.title with
    | none => rfl
    | some title => exact orElse_some title.name s.name
  have hsummary : orElse (u.summary <|> m.summary) "" = u.summary.getD (orElse m.summary "") := by
    cases u.summary with
    | none => rfl
    | some summary => exact orElse_empty summary
  have hauthors : ((u.authors.map (Server.namesWithRole · "WRITER")).getD m.writers).map (Author.mk · "WRITER") =
      (u.authors.map (·.filter (·.role == "WRITER"))).getD (m.writers.map (Author.mk · "WRITER")) := by
    cases u.authors with
    | none => rfl
    | some authors => exact map_namesWithRole authors "WRITER"
  simp only [ofServer, Server.SeriesMetadata.overwrite, Server.SeriesMetadataInput.ofUpdate, updated, hstatus, htitle,
    hsummary, hauthors, map_linkUrls_getD]

/-- **The update of a series.** Sent are the fields of the parts that are set, texts and lists that are empty included,
and no others. Once the server has set them, what is seen of the series is what was seen before, with the parts of the
update in their places. -/
theorem series_update_seen (conversions : Conversions) (u : SeriesMetadataUpdate) (m : Server.SeriesMetadata)
    (s : Server.Series) :
    let sent := (Server.SeriesMetadataInput.codec.write .wire (.ofUpdate u)).members
    let held := (Server.SeriesMetadata.codec.write .wire m).members
    sent = Members.present
        [("ageRating", u.ageRating.map .int), ("genres", u.genres.map .texts),
         ("links", u.links.map fun links => .texts (links.map (·.url))), ("publisher", u.publisher.map .str),
         ("status", u.status.map fun status => .str (Server.statusWord status)), ("summary", u.summary.map .str),
         ("title", u.title.map fun title => .str title.name),
         ("writers", u.authors.map fun authors => .texts ((authors.filter (·.role == .plain "WRITER")).map (·.name)))] ∧
      ∃ m', Server.SeriesMetadata.codec.read conversions (.obj (held.overwrite sent)) = .ok m' ∧
        SeriesMetadata.ofServer m' s = (SeriesMetadata.ofServer m s).updated u s.name := by
  intro sent held
  have hsent : sent = Members.present (Server.SeriesMetadataInput.ofUpdate u).entries :=
    congrArg Value.members (Server.SeriesMetadataInput.write_wire _)
  have hheld : held = Members.present m.entries := congrArg Value.members m.write_wire
  refine ⟨?_, m.overwrite (.ofUpdate u), ?_, SeriesMetadata.ofServer_overwrite u m s⟩
  · rw [hsent]
    simp only [Server.SeriesMetadataInput.entries, Server.SeriesMetadataInput.ofUpdate, Server.SeriesMetadataInput.empty,
      Members.present_cons, Option.map_none, Option.toList_none, List.nil_append, Option.map_map]
    rfl
  · rw [hsent, hheld]
    exact m.read_overwrite conversions _

/-! ## Books -/

/-- The roles of authors that the server knows, in the order in which they are shown. -/
def roles : List Text := ["WRITER", "PENCILLER", "INKER", "COLORIST", "LETTERER", "EDITOR"]

/-- Authors as they are shown, role by role. -/
def byRole (authors : List Author) : List Author := roles.flatMap fun role => authors.filter (·.role == role)

/-- None of those with a known role is lost, and none is shown twice. -/
theorem byRole_perm (authors : List Author) : (byRole authors).Perm (authors.filter (·.role ∈ roles)) := by
  have hroles : roles.Nodup := by decide
  rw [byRole]
  generalize roles = rs at hroles
  induction rs with
  | nil => simp
  | cons role rs ih =>
    obtain ⟨hrole, hrs⟩ := List.nodup_cons.mp hroles
    let known := authors.filter (·.role ∈ role :: rs)
    have hfirst : authors.filter (·.role == role) = known.filter (·.role == role) := by
      rw [List.filter_filter]
      refine List.filter_congr fun a _ => ?_
      by_cases h : a.role = role <;> simp [h]
    have hrest : authors.filter (·.role ∈ rs) = known.filter (fun a => !(a.role == role)) := by
      rw [List.filter_filter]
      refine List.filter_congr fun a _ => ?_
      by_cases h : a.role = role <;> simp [h, hrole]
    rw [List.flatMap_cons]
    refine ((ih hrs).append_left _).trans ?_
    rw [hfirst, hrest]
    exact List.filter_append_perm _ known

/-- The metadata of a book with the parts of an update in their places. A number shows if it can be read. -/
def BookMetadata.updated (before : BookMetadata) (u : BookMetadataUpdate) : BookMetadata :=
  let number := (u.number.bind Numeral.anyFloat?).map formatNumber
  { before with
    title := u.title.getD before.title
    summary := u.summary <|> before.summary
    number := number.getD before.number
    numberSort := number <|> before.numberSort
    releaseDate := u.releaseDate <|> before.releaseDate
    authors := (u.authors.map byRole).getD before.authors
    tags := u.tags.getD before.tags
    isbn := u.isbn <|> before.isbn
    links := (u.links.map (·.map fun l => .ofUrl l.url)).getD before.links }

theorem Calendar.daysIn_le (year month : Nat) : Calendar.daysIn year month ≤ 31 := by
  unfold Calendar.daysIn
  split_ifs <;> decide

/-- A day of the calendar is read from its parts. -/
theorem releaseDate_of_date (d : Date) : releaseDate (some d.year) (some d.month) (some d.day) = .ok (some d) := by
  have hday := d.isDay
  rw [Calendar.isDay, decide_eq_true_eq] at hday
  obtain ⟨-, hyear, hmonth, hmonth', hday, hday'⟩ := hday
  have hdays : d.day ≤ 31 := Nat.le_trans hday' (Calendar.daysIn_le d.year d.month)
  have hpart {n : Nat} (hn : 1 ≤ n) : datePart (some (n : Int)) = n := if_neg (by omega)
  have hfits {n : Nat} (hn : n ≤ 9999) : fits32 n = true := by
    rw [fits32, Bool.and_eq_true, decide_eq_true_eq, decide_eq_true_eq]
    omega
  rw [releaseDate, hpart hmonth, hpart hday, hfits hyear, hfits (by omega), hfits (by omega), Date.ofParts?_self]
  rfl

/-- The day of an update, or the one that was read before. -/
theorem releaseDate_overwrite (set : Option Date) {year month day : Option Int} {date : Option Date}
    (h : releaseDate year month day = .ok date) :
    releaseDate (set.map (fun d => (d.year : Int)) <|> year) (set.map (fun d => (d.month : Int)) <|> month)
      (set.map (fun d => (d.day : Int)) <|> day) = .ok (set <|> date) := by
  cases set with
  | none => exact h
  | some d => exact releaseDate_of_date d

theorem authors_overwrite (u : BookMetadataUpdate) (m : Server.MediumMetadata) :
    authors (m.overwrite (.ofUpdate u)) = (u.authors.map byRole).getD (authors m) := by
  simp only [authors, authorRoles, Server.MediumMetadata.overwrite, Server.MediumMetadataInput.ofUpdate]
  cases u.authors with
  | none => rfl
  | some as =>
    simp only [byRole, roles, List.flatMap_cons, List.flatMap_nil, Option.map_some, Option.getD_some, map_namesWithRole]

theorem BookMetadata.ofServer_overwrite (u : BookMetadataUpdate) {m : Server.MediumMetadata} {before : BookMetadata}
    (h : ofServer m = .ok before) : ofServer (m.overwrite (.ofUpdate u)) = .ok (before.updated u) := by
  cases hdate : Shelf.releaseDate m.year m.month m.day with
  | error fault => rw [ofServer, hdate] at h; cases h
  | ok date =>
    rw [ofServer, hdate] at h
    obtain rfl := Except.ok.inj h
    have hdate' : Shelf.releaseDate (m.overwrite (.ofUpdate u)).year (m.overwrite (.ofUpdate u)).month
        (m.overwrite (.ofUpdate u)).day = .ok (u.releaseDate <|> date) := releaseDate_overwrite u.releaseDate hdate
    rw [ofServer, hdate', authors_overwrite]
    simp only [Except.map, Server.MediumMetadata.overwrite, Server.MediumMetadataInput.ofUpdate, updated,
      map_linkUrls_getD, Option.orElse_eq_orElse, Option.orElse_eq_or, Option.map_or, Option.getD_or]

/-- **The update of a book.** Sent are the fields of the parts that are set, texts and lists that are empty included, and
no others: a date is sent in its three parts, authors are sent in the lists of all their roles, and a number is sent if
it can be read. Once the server has set them, what is seen of the book is what was seen before, with the parts of the
update in their places. Of its authors those with a known role are shown, each as often as it was given. -/
theorem book_update_seen (conversions : Conversions) (u : BookMetadataUpdate) (m : Server.MediumMetadata)
    (before : BookMetadata) (h : BookMetadata.ofServer m = .ok before) :
    let sent := (Server.MediumMetadataInput.codec.write .wire (.ofUpdate u)).members
    let held := (Server.MediumMetadata.codec.write .wire m).members
    let named (role : Text) : Option Value :=
      u.authors.map fun authors => .texts ((authors.filter (·.role == role)).map (·.name))
    sent = Members.present
        [("title", u.title.map .str), ("number", (u.number.bind Numeral.anyFloat?).map .float),
         ("summary", u.summary.map .str), ("genres", u.tags.map .texts),
         ("year", u.releaseDate.map fun d => .int d.year), ("month", u.releaseDate.map fun d => .int d.month),
         ("day", u.releaseDate.map fun d => .int d.day), ("writers", named "WRITER"),
         ("pencillers", named "PENCILLER"), ("inkers", named "INKER"), ("colorists", named "COLORIST"),
         ("letterers", named "LETTERER"), ("editors", named "EDITOR"),
         ("links", u.links.map fun links => .texts (links.map (·.url))), ("identifierIsbn", u.isbn.map .str)] ∧
      (∃ m', Server.MediumMetadata.codec.read conversions (.obj (held.overwrite sent)) = .ok m' ∧
        BookMetadata.ofServer m' = .ok (before.updated u)) ∧
      ∀ authors : List Author, (byRole authors).Perm (authors.filter (·.role ∈ roles)) := by
  intro sent held named
  have hsent : sent = Members.present (Server.MediumMetadataInput.ofUpdate u).entries :=
    congrArg Value.members (Server.MediumMetadataInput.write_wire _)
  have hheld : held = Members.present m.entries := congrArg Value.members m.write_wire
  refine ⟨?_, ⟨m.overwrite (.ofUpdate u), ?_, BookMetadata.ofServer_overwrite u h⟩, byRole_perm⟩
  · rw [hsent]
    simp only [Server.MediumMetadataInput.entries, Server.MediumMetadataInput.ofUpdate, Server.MediumMetadataInput.empty,
      Members.present_cons, Option.map_none, Option.toList_none, List.nil_append, Option.map_map, named]
    rfl
  · rw [hsent, hheld]
    exact m.read_overwrite conversions _

/-- Metadata with a year, a summary, an inker and a genre. -/
def inked : Server.MediumMetadata :=
  { id := none, mediaId := none, ageRating := none, format := none, day := none, language := none, month := none
    notes := none, number := none, pageCount := none, publisher := none, series := none, seriesGroup := none
    storyArc := none, storyArcNumber := none, summary := some "S", title := some "T", titleSort := none, volume := none
    year := some 2012, identifierIsbn := none, writers := [], genres := ["G"], characters := [], colorists := []
    coverArtists := [], editors := [], inkers := ["I"], letterers := [], links := [], pencillers := [], teams := [] }

/-- An update that takes the title and the genre away, and sets a number and authors, of whom the server does not know
the translator. -/
def recredited : BookMetadataUpdate :=
  { title := some "", summary := none, number := some "1.50", numberSort := none, releaseDate := none
    authors := some [⟨"E", "EDITOR"⟩, ⟨"T", "TRANSLATOR"⟩, ⟨"W", "WRITER"⟩], tags := some [], isbn := none, links := none }

theorem book_update_seen_of_inked :
    let before : BookMetadata :=
      { title := "T", summary := some "S", number := "0", releaseDate := Date.ofParts? 2012 1 1
        authors := [⟨"I", "INKER"⟩], tags := ["G"] }
    BookMetadata.ofServer inked = .ok before ∧
      ∃ m', Server.MediumMetadata.codec.read .lenient (.obj
          ((Server.MediumMetadata.codec.write .wire inked).members.overwrite
            (Server.MediumMetadataInput.codec.write .wire (.ofUpdate recredited)).members)) = .ok m' ∧
        BookMetadata.ofServer m' =
          .ok { before with
                title := "", number := "1.5", numberSort := some "1.5"
                authors := [⟨"W", "WRITER"⟩, ⟨"E", "EDITOR"⟩], tags := [] } := by
  intro before
  have hbefore : BookMetadata.ofServer inked = .ok before := rfl
  have hnumber : (recredited.number.bind Numeral.anyFloat?).map formatNumber = some "1.5" := by with_unfolding_all rfl
  have hseen : before.updated recredited =
      { before with
        title := "", number := "1.5", numberSort := some "1.5"
        authors := [⟨"W", "WRITER"⟩, ⟨"E", "EDITOR"⟩], tags := [] } := by
    rw [BookMetadata.updated, hnumber]
    rfl
  obtain ⟨-, ⟨m', hread, h⟩, -⟩ := book_update_seen .lenient recredited inked before hbefore
  exact ⟨hbefore, m', hread, hseen ▸ h⟩

end MediaWatch.Shelf
