import MediaWatch.Library.Enumeration

/-!
# Readings of a library

`Enumeration.read` reads a library on a list of answers, one for each question, whatever they are. A snapshot that a
reading ends with is sound (`Enumeration.read_sound`): it has one entry for each medium, which tells of that medium, and
each of its series once.
-/

namespace MediaWatch

/-! ## Sound snapshots -/

namespace Media

/-- The entries after a recording: the new one, and some of the old ones. -/
theorem mem_put {id : Text} {e : BookEvent} {entry : Text × BookEvent} :
    ∀ {media : Media}, entry ∈ put id e media → entry = (id, e) ∨ entry ∈ media
  | [], h => by simpa [put] using h
  | (k, x) :: rest, h => by
    by_cases hk : k = id
    · rw [put, if_pos hk] at h
      rcases List.mem_cons.mp h with rfl | h
      · exact Or.inl (by rw [hk])
      · exact Or.inr (List.mem_cons_of_mem _ h)
    · rw [put, if_neg hk] at h
      rcases List.mem_cons.mp h with rfl | h
      · exact Or.inr List.mem_cons_self
      · rcases mem_put h with h | h
        · exact Or.inl h
        · exact Or.inr (List.mem_cons_of_mem _ h)

/-- A known medium is one of the ids. -/
theorem has_iff_mem {id : Text} {media : Media} : has id media = true ↔ id ∈ media.map (·.1) := by
  simp [has]

end Media

namespace Snapshot

/-- Whether a snapshot holds a medium. -/
def holds (id : Text) (s : Snapshot) : Bool := Media.has id s.media

/-- One entry for each medium, which tells of that medium, and each series once. -/
structure Sound (s : Snapshot) : Prop where
  mediaOnce : (s.media.map (·.1)).Nodup
  named : ∀ entry ∈ s.media, entry.2.bookId = entry.1
  seriesOnce : s.seriesIds.Nodup

theorem sound_empty : empty.Sound := ⟨List.nodup_nil, by simp [empty], List.nodup_nil⟩

theorem Sound.addSeries {s : Snapshot} (h : s.Sound) (id : Text) : (s.addSeries id).Sound := by
  unfold Snapshot.addSeries
  split
  · exact h
  · rename_i hid
    refine ⟨h.mediaOnce, h.named, ?_⟩
    have hid' : id ∉ s.seriesIds := by simpa using hid
    exact List.nodup_append.mpr ⟨h.seriesOnce, by simp, fun a ha b hb => by
      rw [List.mem_singleton.mp hb]; rintro rfl; exact hid' ha⟩

theorem Sound.addMedium {s : Snapshot} (h : s.Sound) (e : BookEvent) : (s.addMedium e.bookId e).Sound := by
  refine ⟨?_, fun entry hm => ?_, h.seriesOnce⟩
  · show ((Media.put e.bookId e s.media).map (·.1)).Nodup
    rw [Media.keys_put]
    split
    · exact h.mediaOnce
    · rename_i hid
      rw [Media.has_iff_mem] at hid
      exact List.nodup_append.mpr ⟨h.mediaOnce, by simp, fun a ha b hb => by
        rw [List.mem_singleton.mp hb]; rintro rfl; exact hid ha⟩
  · rcases Media.mem_put hm with rfl | hm
    · rfl
    · exact h.named entry hm

/-- The entry of a medium that a sound snapshot holds. -/
theorem Sound.entry_of_holds {s : Snapshot} (h : s.Sound) {id : Text} (hid : s.holds id = true) :
    ∃ e, (id, e) ∈ s.media ∧ e.bookId = id := by
  obtain ⟨⟨k, e⟩, hm, rfl⟩ := List.mem_map.mp (Media.has_iff_mem.mp hid)
  exact ⟨e, hm, h.named _ hm⟩

end Snapshot

/-! ## Reading on given answers -/

namespace Enumeration

/-- Reads a library on the given answers: what it comes to, and the answers that are left; nothing if there are too few
of them. -/
def read (pageSize : Int) : List Catalog → Enumeration → Option (Except Text Snapshot × List Catalog)
  | [], _ => none
  | c :: later, e =>
    match c (e.query pageSize) with
    | .error reason => some (.error reason, later)
    | .ok reply =>
      match e.step pageSize reply with
      | .done snapshot => some (.ok snapshot, later)
      | .ask e => read pageSize later e

/-- What has been found so far. -/
def found : Enumeration → Snapshot
  | .page _ _ found => found
  | .media _ _ _ _ _ found => found

/-- The same of a reading that goes on or is over. -/
def Next.found : Next → Snapshot
  | .ask e => e.found
  | .done snapshot => snapshot

theorem sound_addMedia (library : Text) {found : Snapshot} (h : found.Sound) (listed : List ListedMedium) :
    (addMedia library found listed).Sound := by
  induction listed generalizing found with
  | nil => exact h
  | cons m rest ih => exact ih (h.addMedium (m.event library))

theorem follow_nil (library : Text) (n : Nat) (reply : SeriesPage) (found : Snapshot) :
    follow library n reply found [] = if isLast n reply then .done found else .ask (.page library (n + 1) found) := rfl

theorem sound_follow (library : Text) (n : Nat) (reply : SeriesPage) {found : Snapshot} (h : found.Sound)
    (series : List Text) : (follow library n reply found series).found.Sound := by
  cases series with
  | nil =>
    rw [follow_nil]
    split <;> exact h
  | cons id later => exact h.addSeries id

/-- An answer keeps what has been found sound. -/
theorem sound_step {pageSize : Int} {e : Enumeration} (h : e.found.Sound) (reply : (e.query pageSize).Reply) :
    (e.step pageSize reply).found.Sound := by
  cases e with
  | page library n found => exact sound_follow library n reply h _
  | media library n page series later found => exact sound_follow library n page (sound_addMedia library h reply) later

theorem library_follow {library : Text} {n : Nat} {reply : SeriesPage} {found : Snapshot} {series : List Text}
    {e : Enumeration} (h : follow library n reply found series = .ask e) : e.library = library := by
  cases series with
  | nil =>
    rw [follow_nil] at h
    split at h
    · cases h
    · cases h; rfl
  | cons id later => cases h; rfl

/-- A reading stays with its library. -/
theorem library_of_ask {pageSize : Int} {e e' : Enumeration} {reply : (e.query pageSize).Reply}
    (h : e.step pageSize reply = .ask e') : e'.library = e.library := by
  cases e with
  | page library n found => exact library_follow h
  | media library n page series later found => exact library_follow h

/-- The snapshot that a reading ends with is sound. -/
theorem read_sound {pageSize : Int} {answers later : List Catalog} {e : Enumeration} {s : Snapshot}
    (he : e.found.Sound) (h : e.read pageSize answers = some (.ok s, later)) : s.Sound := by
  induction answers generalizing e with
  | nil => cases h
  | cons c rest ih =>
    rw [read] at h
    split at h
    · cases h
    · rename_i reply _
      have hs := sound_step he reply
      split at h
      · rename_i snapshot hd
        rw [hd] at hs
        cases h
        exact hs
      · rename_i e' ha
        rw [ha] at hs
        exact ih hs h

/-- A snapshot that was read from the start is sound. -/
theorem read_start_sound {pageSize : Int} {answers later : List Catalog} {library : Text} {s : Snapshot}
    (h : (start library).read pageSize answers = some (.ok s, later)) : s.Sound :=
  read_sound (e := start library) Snapshot.sound_empty h

end Enumeration

end MediaWatch
