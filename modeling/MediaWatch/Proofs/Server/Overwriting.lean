import MediaWatch.Proofs.Schema.Wire
import MediaWatch.Server.OfUpdate

/-!
# Metadata under an input

What the server makes of the fields that are sent to it. The metadata that it holds, and the input that it gets, are
objects of which the tables `entries` give the members. Setting those of the input on top of those of the metadata, and
reading the outcome, gives the metadata with the fields of the input set: `SeriesMetadata.read_overwrite` and
`MediumMetadata.read_overwrite`.
-/

namespace MediaWatch.Server

open Json Schema Schema.Fields

/-! ## Tables -/

/-- The fields of the metadata of a series by the names that they have on the wire, each with its value if it is set. -/
def SeriesMetadata.entries (m : SeriesMetadata) : List (Text × Option Value) :=
  [("seriesId", m.seriesId.map .str), ("ageRating", m.ageRating.map .int), ("booktype", m.booktype.map .str),
   ("comicid", m.comicid.map .int), ("descriptionFormatted", m.descriptionFormatted.map .str),
   ("imprint", m.imprint.map .str), ("metaType", m.metaType.map .str), ("publicationRun", m.publicationRun.map .str),
   ("publisher", m.publisher.map .str), ("status", m.status.map .str), ("summary", m.summary.map .str),
   ("title", m.title.map .str), ("totalIssues", m.totalIssues.map .int), ("volume", m.volume.map .int),
   ("year", m.year.map .int), ("characters", some (.texts m.characters)), ("genres", some (.texts m.genres)),
   ("links", some (.texts m.links)), ("writers", some (.texts m.writers))]

theorem SeriesMetadata.write_wire (m : SeriesMetadata) :
    SeriesMetadata.codec.write .wire m = .obj (Members.present m.entries) := by
  refine congrArg Value.obj ?_
  simp only [write_seq, write_map, write_maybe, write_texts, ← Members.present_append, List.cons_append, List.nil_append]
  rfl

/-- Likewise the fields of an input. -/
def SeriesMetadataInput.entries (i : SeriesMetadataInput) : List (Text × Option Value) :=
  [("ageRating", i.ageRating.map .int), ("booktype", i.booktype.map .str), ("characters", i.characters.map .texts),
   ("comicid", i.comicid.map .int), ("genres", i.genres.map .texts), ("imprint", i.imprint.map .str),
   ("links", i.links.map .texts), ("metaType", i.metaType.map .str), ("publisher", i.publisher.map .str),
   ("status", i.status.map .str), ("summary", i.summary.map .str), ("title", i.title.map .str),
   ("volume", i.volume.map .int), ("writers", i.writers.map .texts)]

theorem SeriesMetadataInput.write_wire (i : SeriesMetadataInput) :
    SeriesMetadataInput.codec.write .wire i = .obj (Members.present i.entries) := by
  refine congrArg Value.obj ?_
  simp only [write_seq, write_map, write_maybe, ← Members.present_append, List.cons_append, List.nil_append]
  rfl

/-- The fields of the metadata of a medium. -/
def MediumMetadata.entries (m : MediumMetadata) : List (Text × Option Value) :=
  [("id", m.id.map ((Codec.label false).write .wire)), ("mediaId", m.mediaId.map .str),
   ("ageRating", m.ageRating.map .int), ("format", m.format.map .str), ("day", m.day.map .int),
   ("language", m.language.map .str), ("month", m.month.map .int), ("notes", m.notes.map .str),
   ("number", m.number.map .float), ("pageCount", m.pageCount.map .int), ("publisher", m.publisher.map .str),
   ("series", m.series.map .str), ("seriesGroup", m.seriesGroup.map .str), ("storyArc", m.storyArc.map .str),
   ("storyArcNumber", m.storyArcNumber.map .float), ("summary", m.summary.map .str), ("title", m.title.map .str),
   ("titleSort", m.titleSort.map .str), ("volume", m.volume.map .int), ("year", m.year.map .int),
   ("identifierIsbn", m.identifierIsbn.map .str), ("writers", some (.texts m.writers)),
   ("genres", some (.texts m.genres)), ("characters", some (.texts m.characters)),
   ("colorists", some (.texts m.colorists)), ("coverArtists", some (.texts m.coverArtists)),
   ("editors", some (.texts m.editors)), ("inkers", some (.texts m.inkers)), ("letterers", some (.texts m.letterers)),
   ("links", some (.texts m.links)), ("pencillers", some (.texts m.pencillers)), ("teams", some (.texts m.teams))]

theorem MediumMetadata.write_wire (m : MediumMetadata) :
    MediumMetadata.codec.write .wire m = .obj (Members.present m.entries) := by
  refine congrArg Value.obj ?_
  simp only [write_seq, write_map, write_maybe, write_texts, ← Members.present_append, List.cons_append, List.nil_append]
  rfl

/-- The fields of an input for them. -/
def MediumMetadataInput.entries (i : MediumMetadataInput) : List (Text × Option Value) :=
  [("title", i.title.map .str), ("titleSort", i.titleSort.map .str), ("series", i.series.map .str),
   ("number", i.number.map .float), ("volume", i.volume.map .int), ("summary", i.summary.map .str),
   ("notes", i.notes.map .str), ("genres", i.genres.map .texts), ("year", i.year.map .int),
   ("month", i.month.map .int), ("day", i.day.map .int), ("writers", i.writers.map .texts),
   ("pencillers", i.pencillers.map .texts), ("inkers", i.inkers.map .texts), ("colorists", i.colorists.map .texts),
   ("letterers", i.letterers.map .texts), ("coverArtists", i.coverArtists.map .texts),
   ("editors", i.editors.map .texts), ("publisher", i.publisher.map .str), ("links", i.links.map .texts),
   ("characters", i.characters.map .texts), ("teams", i.teams.map .texts), ("pageCount", i.pageCount.map .int),
   ("ageRating", i.ageRating.map .int), ("language", i.language.map .str),
   ("identifierIsbn", i.identifierIsbn.map .str)]

theorem MediumMetadataInput.write_wire (i : MediumMetadataInput) :
    MediumMetadataInput.codec.write .wire i = .obj (Members.present i.entries) := by
  refine congrArg Value.obj ?_
  simp only [write_seq, write_map, write_maybe, ← Members.present_append, List.cons_append, List.nil_append]
  rfl

/-! ## Names -/

theorem SeriesMetadata.aliased (m : SeriesMetadata) : (Members.present m.entries).Aliased := by
  refine Members.aliased_present ?_
  simp only [entries, List.map_cons, List.map_nil]
  decide

theorem SeriesMetadataInput.aliased (i : SeriesMetadataInput) : (Members.present i.entries).Aliased := by
  refine Members.aliased_present ?_
  simp only [entries, List.map_cons, List.map_nil]
  decide

theorem SeriesMetadataInput.nodup_names (i : SeriesMetadataInput) :
    ((Members.present i.entries).map Prod.fst).Nodup := by
  refine (Members.names_present i.entries).nodup ?_
  simp only [entries, List.map_cons, List.map_nil]
  decide

theorem MediumMetadata.aliased (m : MediumMetadata) : (Members.present m.entries).Aliased := by
  refine Members.aliased_present ?_
  simp only [entries, List.map_cons, List.map_nil]
  decide

theorem MediumMetadataInput.aliased (i : MediumMetadataInput) : (Members.present i.entries).Aliased := by
  refine Members.aliased_present ?_
  simp only [entries, List.map_cons, List.map_nil]
  decide

theorem MediumMetadataInput.nodup_names (i : MediumMetadataInput) :
    ((Members.present i.entries).map Prod.fst).Nodup := by
  refine (Members.names_present i.entries).nodup ?_
  simp only [entries, List.map_cons, List.map_nil]
  decide

/-! ## Overwriting -/

theorem texts_getD (new : Option (List Text)) (old : List Text) :
    (new.map Value.texts).or (some (.texts old)) = some (.texts (new.getD old)) := by
  cases new <;> rfl

/-- The metadata of a series, read from what is left of them under an input. -/
theorem SeriesMetadata.read_overwrite (conversions : Conversions) (m : SeriesMetadata) (i : SeriesMetadataInput) :
    SeriesMetadata.codec.read conversions (.obj ((Members.present m.entries).overwrite (Members.present i.entries))) =
      .ok (m.overwrite i) := by
  have haliased := m.aliased.overwrite i.aliased
  have hvalue := Members.value?_overwrite i.nodup_names (Members.present m.entries)
  rw [SeriesMetadata.codec, read_aliased, SeriesMetadata.overwrite]
  -- one goal for each field, where its member is looked up in the input and then in the metadata
  repeat' first | apply read_seq | apply read_map
  all_goals first | apply read_maybe _ haliased | apply read_texts haliased
  all_goals
    rw [hvalue]
    simp +decide only [entries, SeriesMetadataInput.entries, Members.value?_present_cons, Members.value?_present_nil,
      if_true, if_false, Option.or_none, Option.none_or, Option.orElse_eq_orElse, Option.orElse_eq_or, Option.map_or,
      texts_getD]
  all_goals rfl

/-- The metadata of a medium, likewise. -/
theorem MediumMetadata.read_overwrite (conversions : Conversions) (m : MediumMetadata) (i : MediumMetadataInput) :
    MediumMetadata.codec.read conversions (.obj ((Members.present m.entries).overwrite (Members.present i.entries))) =
      .ok (m.overwrite i) := by
  have haliased := m.aliased.overwrite i.aliased
  have hvalue := Members.value?_overwrite i.nodup_names (Members.present m.entries)
  rw [MediumMetadata.codec, read_aliased, MediumMetadata.overwrite]
  repeat' first | apply read_seq | apply read_map
  all_goals first | apply read_maybe _ haliased | apply read_texts haliased
  all_goals
    rw [hvalue]
    simp +decide only [entries, MediumMetadataInput.entries, Members.value?_present_cons, Members.value?_present_nil,
      if_true, if_false, Option.or_none, Option.none_or, Option.orElse_eq_orElse, Option.orElse_eq_or, Option.map_or,
      texts_getD]
  all_goals rfl

end MediaWatch.Server
