import Mathlib.Data.List.Basic
import MediaWatch.Proofs.Library.Pages

/-!
# The register of a listing

A server may list a medium more than once: on another page, in another series, or twice in one list. The media of a
snapshot are a register of all that was listed (`Media.IsRegister`), however the records repeat: one entry for each
medium, in order of first listing, with the event of the record that was listed last. A record that is put keeps the
register (`Media.IsRegister.put`), and so does a whole reading (`Enumeration.isRegister_of_read`). Hence neither a
snapshot nor a report of a check has a medium twice (`Detector.registered_once`).
-/

namespace MediaWatch

/-! ## Registers -/

namespace Media

/-- The listed media in order of first listing, each with the event of its last record. -/
structure IsRegister (library : Text) (listed : List ListedMedium) (media : Media) : Prop where
  complete : ∀ m ∈ listed, m.id ∈ media.map (·.1)
  ordered : (media.map (·.1)).Pairwise fun id next => (listed.map (·.id)).idxOf id < (listed.map (·.id)).idxOf next
  latest : ∀ entry ∈ media, ∃ before m after, listed = before ++ m :: after ∧ m.id = entry.1 ∧
    (∀ other ∈ after, other.id ≠ entry.1) ∧ entry.2 = m.event library

theorem isRegister_nil (library : Text) : IsRegister library [] [] :=
  ⟨by simp, List.Pairwise.nil, by simp⟩

/-- The entries after a recording: the new one, and those of other ids. -/
theorem mem_put_iff {id : Text} {e : BookEvent} {entry : Text × BookEvent} {media : Media}
    (h : (media.map (·.1)).Nodup) : entry ∈ put id e media ↔ entry = (id, e) ∨ entry ∈ media ∧ entry.1 ≠ id := by
  induction media with
  | nil => simp [put]
  | cons first rest ih =>
    obtain ⟨k, x⟩ := first
    obtain ⟨hk, hrest⟩ := List.nodup_cons.mp h
    by_cases hid : k = id
    · subst hid
      have hother : ∀ entry ∈ rest, entry.1 ≠ k := by
        intro entry hm heq
        exact hk (List.mem_map.mpr ⟨entry, hm, heq⟩)
      rw [put, if_pos rfl, List.mem_cons, List.mem_cons]
      constructor
      · rintro (rfl | hm)
        · exact Or.inl rfl
        · exact Or.inr ⟨Or.inr hm, hother entry hm⟩
      · rintro (rfl | ⟨rfl | hm, hne⟩)
        · exact Or.inl rfl
        · exact absurd rfl hne
        · exact Or.inr hm
    · rw [put, if_neg hid, List.mem_cons, List.mem_cons, ih hrest]
      constructor
      · rintro (rfl | rfl | ⟨hm, hne⟩)
        · exact Or.inr ⟨Or.inl rfl, hid⟩
        · exact Or.inl rfl
        · exact Or.inr ⟨Or.inr hm, hne⟩
      · rintro (rfl | ⟨rfl | hm, hne⟩)
        · exact Or.inr (Or.inl rfl)
        · exact Or.inl rfl
        · exact Or.inr (Or.inr ⟨hm, hne⟩)

theorem mem_ids_put {id other : Text} {e : BookEvent} {media : Media} :
    other ∈ (put id e media).map (·.1) ↔ id = other ∨ other ∈ media.map (·.1) := by
  rw [← has_iff_mem, has_put, Bool.or_eq_true, beq_iff_eq, has_iff_mem]

namespace IsRegister

variable {library : Text} {listed : List ListedMedium} {media : Media}

theorem nodup (h : IsRegister library listed media) : (media.map (·.1)).Nodup := by
  refine h.ordered.imp ?_
  rintro id _ hlt rfl
  exact Nat.lt_irrefl _ hlt

theorem mem_ids (h : IsRegister library listed media) {id : Text} :
    id ∈ media.map (·.1) ↔ id ∈ listed.map (·.id) := by
  constructor
  · intro hid
    obtain ⟨entry, hentry, rfl⟩ := List.mem_map.mp hid
    obtain ⟨before, m, after, rfl, hm, -⟩ := h.latest entry hentry
    exact List.mem_map.mpr ⟨m, by simp, hm⟩
  · intro hid
    obtain ⟨m, hm, rfl⟩ := List.mem_map.mp hid
    exact h.complete m hm

/-- The order of first listing does not change when a record is listed behind the others; a new id comes last. -/
theorem ordered_put (h : IsRegister library listed media) (m : ListedMedium) (e : BookEvent) :
    ((media.put m.id e).map (·.1)).Pairwise
      fun id next => (listed.map (·.id) ++ [m.id]).idxOf id < (listed.map (·.id) ++ [m.id]).idxOf next := by
  have hkeep : ∀ id ∈ media.map (·.1), (listed.map (·.id) ++ [m.id]).idxOf id = (listed.map (·.id)).idxOf id := by
    intro id hid
    exact List.idxOf_append_of_mem (h.mem_ids.mp hid)
  have hknown : (media.map (·.1)).Pairwise
      fun id next => (listed.map (·.id) ++ [m.id]).idxOf id < (listed.map (·.id) ++ [m.id]).idxOf next := by
    apply h.ordered.imp_of_mem
    intro id next hid hnext hlt
    rwa [hkeep id hid, hkeep next hnext]
  rw [keys_put]
  split
  · exact hknown
  · rename_i hnew
    rw [has_iff_mem, h.mem_ids] at hnew
    refine List.pairwise_append.mpr ⟨hknown, List.pairwise_singleton _ _, ?_⟩
    intro id hid next hnext
    rw [List.mem_singleton.mp hnext, hkeep id hid, List.idxOf_append_of_notMem hnew]
    exact Nat.lt_add_right _ (List.idxOf_lt_length_of_mem (h.mem_ids.mp hid))

/-- A record that is listed behind the others is put into the register. -/
theorem put (h : IsRegister library listed media) (m : ListedMedium) :
    IsRegister library (listed ++ [m]) (media.put m.id (m.event library)) where
  complete := by
    intro other hother
    rw [mem_ids_put]
    rcases List.mem_append.mp hother with hother | hother
    · exact Or.inr (h.complete other hother)
    · rw [List.mem_singleton.mp hother]
      exact Or.inl rfl
  ordered := by
    rw [List.map_append]
    exact h.ordered_put m _
  latest := by
    intro entry hentry
    rcases (mem_put_iff h.nodup).mp hentry with rfl | ⟨hentry, hne⟩
    · exact ⟨listed, m, [], rfl, rfl, by simp, rfl⟩
    · obtain ⟨before, first, after, rfl, hfirst, hafter, hevent⟩ := h.latest entry hentry
      refine ⟨before, first, after ++ [m], by simp, hfirst, ?_, hevent⟩
      intro other hother
      rcases List.mem_append.mp hother with hother | hother
      · exact hafter other hother
      · rw [List.mem_singleton.mp hother]
        exact hne.symm

end IsRegister

end Media

/-! ## Readings -/

namespace Enumeration

variable {library : Text}

/-- The media of a series are put into the register. -/
theorem isRegister_addMedia {before : List ListedMedium} {found : Snapshot}
    (h : Media.IsRegister library before found.media) (listed : List ListedMedium) :
    Media.IsRegister library (before ++ listed) (addMedia library found listed).media := by
  induction listed generalizing before found with
  | nil => rwa [List.append_nil]
  | cons m rest ih =>
    have hput : Media.IsRegister library (before ++ [m]) (found.addMedium m.id (m.event library)).media := h.put m
    have hrest := ih hput
    rwa [List.append_assoc] at hrest

/-- The snapshot that a reading ends with is a register of what was listed before and of all lists that are read. -/
theorem isRegister_of_read {pageSize : Int} {e : Enumeration} {answers later : List Catalog} {s : Snapshot}
    {before : List ListedMedium} (h : e.read pageSize answers = some (.ok s, later))
    (hbefore : Media.IsRegister e.library before e.found.media) :
    Media.IsRegister e.library (before ++ (listsIn (e.log pageSize answers)).flatten) s.media := by
  -- what was listed before grows with each list; the library stays that of the reading
  refine induction_of_read (motive := fun next log s => ∀ library before, (∀ e, next = .ask e → e.library = library) →
    Media.IsRegister library before next.found.media →
    Media.IsRegister library (before ++ (listsIn log).flatten) s.media) ?_ ?_ ?_ h _ before ?_ hbefore
  · intro s library before _ hfound
    show Media.IsRegister library (before ++ []) s.media
    rwa [List.append_nil]
  · intro library n found p log s ih library' before hlibrary hfound
    obtain rfl : library = library' := hlibrary _ rfl
    refine ih library before (fun e he => library_follow he) ?_
    rw [media_follow]
    exact hfound
  · intro library n p series later found listed log s ih library' before hlibrary hfound
    obtain rfl : library = library' := hlibrary _ rfl
    have hrest := ih library (before ++ listed) (fun e he => library_follow he) (by
      rw [media_follow]
      exact isRegister_addMedia hfound listed)
    simpa [listsIn, Record.media?] using hrest
  · rintro _ ⟨⟩
    rfl

end Enumeration

/-! ## Snapshots and reports -/

namespace ListedMedium

variable (library : Text) (m : ListedMedium)

/-- A medium that names its library is reported there. -/
theorem libraryId_event_of_named {own : Text} (h : m.libraryId = some own) (hne : own ≠ "") :
    (m.event library).libraryId = own := by
  simp [event, h, hne]

/-- A medium that names no library is reported in the one that is read. -/
theorem libraryId_event_of_unnamed (h : m.libraryId = none ∨ m.libraryId = some (.plain "")) :
    (m.event library).libraryId = library := by
  rcases h with h | h <;> simp [event, h]

end ListedMedium

/-- A server that answers each question with the same page or the same list. -/
def Catalog.telling (p : SeriesPage) (listed : List ListedMedium) : Catalog
  | .libraries => .ok []
  | .seriesPage .. => .ok p
  | .media _ => .ok listed

namespace Detector

/-- The books that are reported are some of the snapshot's, in its order. -/
theorem addedBooks_sublist (d : Detector) (library : Text) (stored : Option Snapshot) (s : Snapshot) :
    (d.report library stored s).addedBooks.Sublist (s.media.map (·.2)) := by
  cases stored with
  | none => exact List.nil_sublist _
  | some previous => exact List.filter_sublist.map _

/-- **Each medium once.** However pages and lists repeat series and media: the snapshot that a library is read into has
one entry for each medium that is listed and no others, in order of first listing; its key is the id of its book, and it
is made of the record that is listed last, with the library that is read where that record names none. A report that a
check hands over has books of that snapshot in its order, none of them twice. -/
theorem registered_once (d : Detector) (answers : List Catalog) (library : Text) :
    let listed := (d.listsRead answers library).flatten
    let ids := listed.map (·.id)
    (∀ s later, (Enumeration.start library).read d.pageSize answers = some (.ok s, later) →
      (s.media.map (·.1)).Nodup ∧ (∀ id, id ∈ s.media.map (·.1) ↔ id ∈ ids) ∧
      (s.media.map (·.1)).Pairwise (fun id next => ids.idxOf id < ids.idxOf next) ∧
      ∀ entry ∈ s.media, entry.2.bookId = entry.1 ∧ ∃ before m after, listed = before ++ m :: after ∧
        m.id = entry.1 ∧ (∀ other ∈ after, other.id ≠ entry.1) ∧ entry.2.seriesId = m.seriesId ∧
        (∀ own : Text, m.libraryId = some own → own ≠ "" → entry.2.libraryId = own) ∧
        (m.libraryId = none ∨ m.libraryId = some (.plain "") → entry.2.libraryId = library)) ∧
    ∀ store changes, d.detect store answers library = some changes →
      (changes.addedBooks.map (·.bookId)).Nodup ∧
      (changes.addedBooks.map (·.bookId)).Pairwise (fun id next => ids.idxOf id < ids.idxOf next) ∧
      ∃ s later, (Enumeration.start library).read d.pageSize answers = some (.ok s, later) ∧
        changes.addedBooks.Sublist (s.media.map (·.2)) := by
  intro listed ids
  have hregister : ∀ s later, (Enumeration.start library).read d.pageSize answers = some (.ok s, later) →
      Media.IsRegister library listed s.media := by
    intro s later hread
    exact Enumeration.isRegister_of_read hread (Media.isRegister_nil library)
  constructor
  · intro s later hread
    have h := hregister s later hread
    refine ⟨h.nodup, fun id => h.mem_ids, h.ordered, ?_⟩
    intro entry hentry
    obtain ⟨before, m, after, hlisted, hm, hafter, hevent⟩ := h.latest entry hentry
    rw [hevent]
    exact ⟨hm, before, m, after, hlisted, hm, hafter, rfl, fun own => m.libraryId_event_of_named library,
      m.libraryId_event_of_unnamed library⟩
  · intro store changes hdetect
    obtain ⟨s, later, hread, rfl, -⟩ := read_of_detect hdetect
    have h := hregister s later hread
    have hids : (s.media.map (·.2)).map (·.bookId) = s.media.map (·.1) := by
      rw [List.map_map]
      exact List.map_congr_left (Enumeration.read_start_sound hread).named
    have hsub := d.addedBooks_sublist library (store.get? library) s
    have hsubIds := hsub.map (·.bookId)
    rw [hids] at hsubIds
    exact ⟨h.nodup.sublist hsubIds, h.ordered.sublist hsubIds, s, later, hread, hsub⟩

/-- A library whose second page repeats a series: one medium is listed three times, one in two series, and one names
another library. -/
theorem registered_once_of_repeats :
    let d : Detector := ⟨2, false⟩
    let first : SeriesPage := ⟨["s", "t"], true, some 2⟩
    let second : SeriesPage := ⟨["s"], false, some 2⟩
    let answers : List Catalog := [.telling first [],
      .telling first [⟨"m", "s", none⟩, ⟨"n", "s", none⟩, ⟨"m", "s", none⟩], .telling first [⟨"n", "t", some "k"⟩],
      .telling second [], .telling second [⟨"o", "s", some ""⟩, ⟨"m", "u", none⟩]]
    let s : Snapshot := ⟨[("m", ⟨"l", "u", "m"⟩), ("n", ⟨"k", "t", "n"⟩), ("o", ⟨"l", "s", "o"⟩)], ["s", "t"]⟩
    let store : Store := [("l", ⟨[("n", ⟨"l", "s", "n"⟩)], ["s"]⟩)]
    let changes : Changes := ⟨"l", [⟨"l", "u", "m"⟩, ⟨"l", "s", "o"⟩], []⟩
    (d.listsRead answers "l").flatten.map (·.id) = ["m", "n", "m", "n", "o", "m"] ∧
      (Enumeration.start "l").read d.pageSize answers = some (.ok s, []) ∧
      (s.media.map (·.1)).Nodup ∧ (∀ entry ∈ s.media, entry.2.bookId = entry.1) ∧
      d.detect store answers "l" = some changes ∧ (changes.addedBooks.map (·.bookId)).Nodup := by
  intro d first second answers s store changes
  have hread : (Enumeration.start "l").read d.pageSize answers = some (.ok s, []) := rfl
  have hdetect : d.detect store answers "l" = some changes := rfl
  obtain ⟨hsnapshot, hreport⟩ := registered_once d answers "l"
  obtain ⟨hnodup, -, -, hentries⟩ := hsnapshot s [] hread
  exact ⟨rfl, hread, hnodup, fun entry hentry => (hentries entry hentry).1, hdetect, (hreport store changes hdetect).1⟩

end Detector

end MediaWatch
