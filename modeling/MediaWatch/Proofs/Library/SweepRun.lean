import MediaWatch.Proofs.Library.Course

/-!
# Sweeps one after another

`Detector.courses` are the courses of sweeps that follow one another, each on answers of its own, whatever they are and
wherever they fail. A library that every listing holds once is reported in each sweep as the difference to the snapshot
that was read last (`Detector.report_eq_difference`): nothing is reported of the first snapshot, and a sweep that could
not read the library changes nothing about that. So a medium that stays is reported once, or not at all if it was there
from the beginning.
-/

namespace MediaWatch

/-! ## Differences -/

/-- What changes have to tell of two snapshots of a library: each medium that only the later one holds, once and as it
was read, and, if they count, the series that only the earlier one holds, in ascending order. -/
structure Changes.Tell (d : Detector) (library : Text) (previous current : Snapshot) (c : Changes) : Prop where
  libraryId_eq : c.libraryId = library
  addedOnce : ∀ id, c.addedBooks.countP (·.bookId == id) = if current.holds id && !previous.holds id then 1 else 0
  addedAsRead : ∀ e ∈ c.addedBooks, (e.bookId, e) ∈ current.media
  removedSorted : (c.removedSeries.map (·.seriesId)).Pairwise (· < ·)
  mem_removed : ∀ e, e ∈ c.removedSeries ↔ d.reportRemoved = true ∧ e.libraryId = library ∧
    e.seriesId ∈ previous.seriesIds ∧ e.seriesId ∉ current.seriesIds

namespace Snapshot

/-- Texts that differ stand in ascending order. -/
theorem ascending_sorted {texts : List Text} (h : texts.Nodup) : (ascending texts).Pairwise (· < ·) := by
  have hle : (ascending texts).Pairwise fun a b => !decide (b < a) :=
    List.pairwise_mergeSort
      (fun a b c hab hbc => by
        simp only [Bool.not_eq_true', decide_eq_false_iff_not] at hab hbc ⊢
        exact Text.le_trans hab hbc)
      (fun a b => by
        simp only [Bool.or_eq_true, Bool.not_eq_true', decide_eq_false_iff_not]
        exact Text.le_total a b)
      texts
  have hne : (ascending texts).Nodup := (List.mergeSort_perm texts _).nodup_iff.mpr h
  refine (hle.and hne).imp fun {a b} hab => ?_
  obtain ⟨hle, hne⟩ := hab
  simp only [Bool.not_eq_true', decide_eq_false_iff_not] at hle
  exact Classical.byContradiction fun hlt => hne (Text.le_antisymm hle hlt)

theorem mem_ascending {id : Text} {texts : List Text} : id ∈ ascending texts ↔ id ∈ texts := List.mem_mergeSort

end Snapshot

namespace Changes

theorem countP_added {previous current : Snapshot} (h : current.Sound) (id : Text) :
    (added previous current).countP (·.bookId == id) = if current.holds id && !previous.holds id then 1 else 0 := by
  have hkey : ∀ entry ∈ current.media.filter fun entry => !Media.has entry.1 previous.media,
      (entry.2.bookId == id) = true ↔ (entry.1 == id) = true := fun entry hm => by
    rw [h.named entry (List.mem_filter.mp hm).1]
  have honce : ((current.media.map (·.1)).filter fun k => !Media.has k previous.media).Nodup :=
    List.Pairwise.filter _ h.mediaOnce
  have hcount : (added previous current).countP (·.bookId == id) =
      ((current.media.map (·.1)).filter fun k => !Media.has k previous.media).count id := by
    rw [added, List.countP_map, List.count, List.filter_map, List.countP_map]
    exact List.countP_congr hkey
  rw [hcount, honce.count]
  simp only [List.mem_filter, Snapshot.holds, Bool.and_eq_true, Media.has_iff_mem]

theorem added_as_read {previous current : Snapshot} (h : current.Sound) {e : BookEvent}
    (he : e ∈ added previous current) : (e.bookId, e) ∈ current.media := by
  obtain ⟨entry, hm, rfl⟩ := List.mem_map.mp he
  have hm := (List.mem_filter.mp hm).1
  rw [h.named entry hm]
  exact hm

theorem removed_sorted {library : Text} {previous current : Snapshot} (h : previous.Sound) :
    ((removed library previous current).map (·.seriesId)).Pairwise (· < ·) := by
  rw [removed, List.map_map]
  simpa [Function.comp_def] using Snapshot.ascending_sorted (List.Pairwise.filter _ h.seriesOnce)

theorem mem_removed {library : Text} {previous current : Snapshot} {e : SeriesEvent} :
    e ∈ removed library previous current ↔
      e.libraryId = library ∧ e.seriesId ∈ previous.seriesIds ∧ e.seriesId ∉ current.seriesIds := by
  simp only [removed, List.mem_map, Snapshot.mem_ascending, List.mem_filter]
  constructor
  · rintro ⟨id, ⟨hp, hc⟩, rfl⟩
    exact ⟨rfl, hp, by simpa using hc⟩
  · rintro ⟨rfl, hp, hc⟩
    exact ⟨e.seriesId, ⟨hp, by simpa using hc⟩, rfl⟩

/-- The changes between two sound snapshots tell of their difference. -/
theorem tell_between {d : Detector} {library : Text} {previous current : Snapshot} (hp : previous.Sound)
    (hc : current.Sound) : (between d.reportRemoved library previous current).Tell d library previous current := by
  refine ⟨rfl, countP_added hc, fun e he => added_as_read hc he, ?_, fun e => ?_⟩
  · unfold between
    split
    · exact removed_sorted hp
    · exact List.Pairwise.nil
  · unfold between
    split
    · rename_i hr
      rw [mem_removed]
      exact ⟨fun h => ⟨hr, h⟩, fun h => h.2⟩
    · rename_i hr
      exact ⟨fun h => absurd h List.not_mem_nil, fun h => absurd h.1 hr⟩

end Changes

/-! ## One sweep -/

namespace Course

variable {d : Detector} {library : Text} {stored : Option Snapshot} {c : Course}

theorem readings_after_of_ne {other : Text} (h : other ≠ library) (r : Except Text Snapshot)
    (changes : List Changes) : (c.after [(other, r)] changes).readings library = c.readings library := by
  simp [readings, after, h]

theorem readings_after_self (r : Except Text Snapshot) (changes : List Changes) :
    (c.after [(library, r)] changes).readings library = r :: c.readings library := by
  simp [readings, after]

theorem reports_after_of_ne {other : Text} (h : other ≠ library) (r : Except Text Snapshot)
    (kept : Option Snapshot) :
    (c.after [(other, r)] (d.handed other kept r)).reports library = c.reports library := by
  have hnil : (d.handed other kept r).filter (·.libraryId = library) = [] :=
    List.filter_eq_nil_iff.mpr fun x hx => by simpa [Detector.libraryId_of_handed hx] using h
  simp [reports, after, hnil]

theorem reports_after_self (r : Except Text Snapshot) (kept : Option Snapshot) :
    (c.after [(library, r)] (d.handed library kept r)).reports library =
      d.handed library kept r ++ c.reports library := by
  have hself : (d.handed library kept r).filter (·.libraryId = library) = d.handed library kept r :=
    List.filter_eq_self.mpr fun x hx => by simp [Detector.libraryId_of_handed hx]
  simp [reports, after, hself]

/-- What a sweep may have done about a library of which `stored` was kept before. -/
inductive Shows (d : Detector) (library : Text) (stored : Option Snapshot) (c : Course) : Prop
  | unread : c.readings library = [] → c.reports library = [] → c.store.get? library = stored → Shows d library stored c
  | failed (reason : Text) : c.readings library = [.error reason] → c.reports library = [] →
      c.store.get? library = stored → Shows d library stored c
  | read (current : Snapshot) : current.Sound → c.readings library = [.ok current] →
      c.reports library = [d.report library stored current] → c.store.get? library = some current →
      Shows d library stored c

/-- What is done about other libraries does not show. -/
theorem Shows.after (h : c.Shows d library stored) {other : Text} (hne : other ≠ library)
    (r : Except Text Snapshot) (kept : Option Snapshot) :
    (c.after [(other, r)] (d.handed other kept r)).Shows d library stored := by
  have hr := readings_after_of_ne (c := c) hne r (d.handed other kept r)
  have hp := reports_after_of_ne (c := c) hne r kept (d := d)
  cases h with
  | unread h₁ h₂ h₃ => exact .unread (hr.trans h₁) (hp.trans h₂) h₃
  | failed reason h₁ h₂ h₃ => exact .failed reason (hr.trans h₁) (hp.trans h₂) h₃
  | read current hs h₁ h₂ h₃ => exact .read current hs (hr.trans h₁) (hp.trans h₂) h₃

end Course

namespace Sweep

variable (d : Detector) {library : Text}

/-- A sweep does nothing about a library that it has not left. -/
theorem carryAll_of_not_mem {libraries : List Text} (h : library ∉ libraries) (answers : List Catalog)
    (store : Store) :
    (carryAll d answers store libraries).readings library = [] ∧
      (carryAll d answers store libraries).reports library = [] ∧
      (carryAll d answers store libraries).store.get? library = store.get? library := by
  induction libraries generalizing answers store with
  | nil => exact ⟨rfl, rfl, rfl⟩
  | cons other rest ih =>
    obtain ⟨hne, hrest⟩ : other ≠ library ∧ library ∉ rest := by
      simpa [eq_comm] using h
    rcases carryAll_cons d answers store other rest with ⟨s, hs⟩ | ⟨r, later, -, hs⟩
    · rw [hs]
      exact ⟨rfl, rfl, rfl⟩
    · rw [hs]
      obtain ⟨h₁, h₂, h₃⟩ := ih hrest later (store.settle other r)
      exact ⟨(Course.readings_after_of_ne hne _ _).trans h₁, (Course.reports_after_of_ne hne _ _).trans h₂,
        h₃.trans (Store.get?_settle_of_ne hne.symm store r)⟩

/-- What a sweep shows of a library that it has left once. -/
theorem carryAll_shows {libraries : List Text} (h : libraries.count library = 1) (answers : List Catalog)
    (store : Store) : (carryAll d answers store libraries).Shows d library (store.get? library) := by
  induction libraries generalizing answers store with
  | nil => simp at h
  | cons other rest ih =>
    rcases carryAll_cons d answers store other rest with ⟨s, hs⟩ | ⟨r, later, hsound, hs⟩
    · rw [hs]
      exact .unread rfl rfl rfl
    · rw [hs]
      by_cases hne : other = library
      · subst hne
        have hrest : other ∉ rest := List.count_eq_zero.mp (by simpa using h)
        obtain ⟨h₁, h₂, h₃⟩ := carryAll_of_not_mem d hrest later (store.settle other r)
        have hr := (Course.readings_after_self r (d.handed other (store.get? other) r)).trans (by rw [h₁])
        have hp := (Course.reports_after_self (d := d) r (store.get? other)).trans (by rw [h₂, List.append_nil])
        have hk := h₃.trans (Store.get?_settle_self other store r)
        cases r with
        | error reason => exact .failed reason hr hp hk
        | ok current => exact .read current (hsound current rfl) hr hp hk
      · have hshows := ih (by simpa [hne] using h) later (store.settle other r)
        rw [Store.get?_settle_of_ne (Ne.symm hne)] at hshows
        exact hshows.after hne r _

/-- What a sweep shows of a library that every listing holds once. -/
theorem carry_listing_shows {answers : List Catalog} (store : Store)
    (h : ∀ c ∈ answers.head?, ∀ libraries, c .libraries = .ok libraries → libraries.count library = 1) :
    (carry d answers store .listing).Shows d library (store.get? library) := by
  cases answers with
  | nil => exact .unread rfl rfl rfl
  | cons c later =>
    cases hc : c .libraries with
    | error reason =>
      rw [carry_listing_error d later store hc]
      exact .unread rfl rfl rfl
    | ok libraries =>
      have hcount := h c rfl libraries hc
      rw [carry_listing_ok d later store hc]
      have hshows := carryAll_shows d hcount later (store.retain libraries)
      rwa [Store.get?_retain, if_pos (List.count_pos_iff.mp (by omega))] at hshows

end Sweep

/-! ## Many sweeps -/

/-- The courses of sweeps that follow one another, each on its own answers. -/
def Detector.courses (d : Detector) : List (List Catalog) → Store → List Course
  | [], _ => []
  | answers :: later, store =>
    let c := Sweep.carry d answers store .listing
    c :: d.courses later c.store

/-- Whether the listing of a sweep, if there is one, holds a library once. -/
def ListedOnce (library : Text) (answers : List Catalog) : Prop :=
  ∀ c ∈ answers.head?, ∀ libraries, c .libraries = .ok libraries → libraries.count library = 1

namespace Course

/-- What a sweep reports of a library that was read as `earlier` in the sweeps before: nothing unless it was read to its
end, nothing new the first time, and then the difference to the time before. -/
inductive Reports (d : Detector) (library : Text) (earlier : List Snapshot) (c : Course) : Prop
  | unread : c.readings library = [] → c.reports library = [] → Reports d library earlier c
  | failed (reason : Text) : c.readings library = [.error reason] → c.reports library = [] →
      Reports d library earlier c
  | baseline (current : Snapshot) : earlier = [] → c.readings library = [.ok current] →
      c.reports library = [.none library] → Reports d library earlier c
  | difference (previous current : Snapshot) (changes : Changes) : earlier.getLast? = some previous →
      c.readings library = [.ok current] → c.reports library = [changes] →
      changes.Tell d library previous current → Reports d library earlier c

variable {d : Detector} {library : Text} {c : Course}

/-- What is kept of a library is what was read last, and a sweep reports the difference to it. -/
theorem Shows.reports {earlier : List Snapshot} (h : c.Shows d library earlier.getLast?)
    (he : ∀ s ∈ earlier, s.Sound) :
    c.Reports d library earlier ∧ c.store.get? library = (earlier ++ c.snapshots library).getLast? ∧
      ∀ s ∈ c.snapshots library, s.Sound := by
  cases h with
  | unread hr hp hs =>
    have hn : c.snapshots library = [] := by rw [snapshots, hr]; rfl
    exact ⟨.unread hr hp, by rw [hn, List.append_nil, hs], by simp [hn]⟩
  | failed reason hr hp hs =>
    have hn : c.snapshots library = [] := by rw [snapshots, hr]; rfl
    exact ⟨.failed reason hr hp, by rw [hn, List.append_nil, hs], by simp [hn]⟩
  | read current hc hr hp hs =>
    have hn : c.snapshots library = [current] := by rw [snapshots, hr]; rfl
    refine ⟨?_, by rw [hn, List.getLast?_concat, hs], by simpa [hn] using hc⟩
    cases hl : earlier.getLast? with
    | none => exact .baseline current (List.getLast?_eq_none_iff.mp hl) hr (by rw [hp, hl]; rfl)
    | some previous =>
      have hprevious : previous.Sound := he previous (List.mem_of_getLast? hl)
      exact .difference previous current _ hl hr (by rw [hp, hl]; rfl) (Changes.tell_between hprevious hc)

end Course

section Run

variable {d : Detector} {library : Text}

/-- Every sweep reports the difference to the sweeps before. -/
theorem courses_report {sweeps : List (List Catalog)} {store : Store} {earlier : List Snapshot}
    (hlisted : ∀ answers ∈ sweeps, ListedOnce library answers) (hs : store.get? library = earlier.getLast?)
    (he : ∀ s ∈ earlier, s.Sound) {before after : List Course} {c : Course}
    (h : d.courses sweeps store = before ++ c :: after) :
    c.Reports d library (earlier ++ before.flatMap (·.snapshots library)) := by
  induction sweeps generalizing store earlier before with
  | nil => simp [Detector.courses] at h
  | cons answers later ih =>
    have hshows := Sweep.carry_listing_shows d store (hlisted answers List.mem_cons_self)
    rw [hs] at hshows
    obtain ⟨hreports, hstore, hsound⟩ := hshows.reports he
    rw [Detector.courses] at h
    cases before with
    | nil =>
      obtain ⟨rfl, -⟩ := List.cons.inj h
      simpa using hreports
    | cons first before =>
      obtain ⟨rfl, hlater⟩ := List.cons.inj h
      rw [List.flatMap_cons, ← List.append_assoc]
      refine ih (fun a ha => hlisted a (List.mem_cons_of_mem _ ha)) hstore (fun s hm => ?_) hlater
      rcases List.mem_append.mp hm with hm | hm
      · exact he s hm
      · exact hsound s hm

/-! ## How often a medium is reported -/

/-- How often a medium of a library is reported as added. -/
def timesReported (library id : Text) (courses : List Course) : Nat :=
  ((courses.flatMap (·.reports library)).flatMap (·.addedBooks)).countP (·.bookId == id)

/-- How often a medium appears that was not there the time before. -/
def arrivals (id : Text) : Option Snapshot → List Snapshot → Nat
  | _, [] => 0
  | previous, s :: later => (if s.holds id && previous.any (!·.holds id) then 1 else 0) + arrivals id (some s) later

/-- A medium that is there and stays does not arrive. -/
theorem arrivals_of_holds {id : Text} {previous : Snapshot} {later : List Snapshot} (hp : previous.holds id = true)
    (h : ∀ s ∈ later, s.holds id = true) : arrivals id (some previous) later = 0 := by
  induction later generalizing previous with
  | nil => rfl
  | cons s later ih =>
    rw [arrivals, ih (h s List.mem_cons_self) fun s hs => h s (List.mem_cons_of_mem _ hs)]
    simp [hp]

/-- A medium that comes once and stays arrives once. -/
theorem arrivals_of_not_holds {id : Text} {previous : Snapshot} {later : List Snapshot}
    (hp : previous.holds id = false) (hstays : later.Pairwise fun a b => a.holds id = true → b.holds id = true)
    (hcomes : ∃ s ∈ later, s.holds id = true) : arrivals id (some previous) later = 1 := by
  induction later generalizing previous with
  | nil => simp at hcomes
  | cons s later ih =>
    obtain ⟨hs, hlater⟩ := List.pairwise_cons.mp hstays
    rw [arrivals]
    cases hholds : s.holds id with
    | true => rw [arrivals_of_holds hholds fun b hb => hs b hb hholds]; simp [hp]
    | false =>
      have hcomes' : ∃ s ∈ later, s.holds id = true := by
        obtain ⟨x, hx, hxid⟩ := hcomes
        rcases List.mem_cons.mp hx with rfl | hx
        · rw [hholds] at hxid; cases hxid
        · exact ⟨x, hx, hxid⟩
      rw [ih hholds hlater hcomes']
      simp

/-- A medium is reported as often as it appears. -/
theorem timesReported_eq_arrivals (id : Text) {courses : List Course} {earlier : List Snapshot}
    (h : ∀ before c after, courses = before ++ c :: after →
      c.Reports d library (earlier ++ before.flatMap (·.snapshots library))) :
    timesReported library id courses = arrivals id earlier.getLast? (courses.flatMap (·.snapshots library)) := by
  induction courses generalizing earlier with
  | nil => rfl
  | cons c courses ih =>
    have hfirst : c.Reports d library earlier := by simpa using h [] c courses rfl
    have hlater : ∀ before x after, courses = before ++ x :: after →
        x.Reports d library ((earlier ++ c.snapshots library) ++ before.flatMap (·.snapshots library)) := by
      intro before x after hx
      have hreports := h (c :: before) x after (by rw [hx]; rfl)
      rwa [List.flatMap_cons, ← List.append_assoc] at hreports
    have hrest := ih hlater
    have hsplit : timesReported library id (c :: courses) =
        ((c.reports library).flatMap (·.addedBooks)).countP (·.bookId == id) + timesReported library id courses := by
      simp [timesReported]
    rw [hsplit, hrest, List.flatMap_cons]
    cases hfirst with
    | unread hr hp => simp [Course.snapshots, hr, hp]
    | failed reason hr hp => simp [Course.snapshots, hr, hp, Except.toOption]
    | baseline current he hr hp => simp [Course.snapshots, hr, hp, he, Except.toOption, Changes.none, arrivals]
    | difference previous current changes hl hr hp htell =>
      simp [Course.snapshots, hr, hp, hl, Except.toOption, arrivals, htell.addedOnce]

/-- **Sweeps report differences.** For a library that every listing holds once and that was not stored before: each
sweep reports what `Course.Reports` says of the snapshots of the sweeps before it, and so a medium that stays once it
was there is never reported if the first snapshot holds it, and once if only a later one does. -/
theorem report_eq_difference {sweeps : List (List Catalog)} {store : Store} (hnew : store.get? library = none)
    (hlisted : ∀ answers ∈ sweeps, ListedOnce library answers) :
    (∀ before c after, d.courses sweeps store = before ++ c :: after →
      c.Reports d library (before.flatMap (·.snapshots library))) ∧
    ∀ id first later, (d.courses sweeps store).flatMap (·.snapshots library) = first :: later →
      (first :: later).Pairwise (fun a b => a.holds id = true → b.holds id = true) →
      (first.holds id = true → timesReported library id (d.courses sweeps store) = 0) ∧
      (first.holds id = false → (∃ s ∈ later, s.holds id = true) →
        timesReported library id (d.courses sweeps store) = 1) := by
  have hlaw : ∀ before c after, d.courses sweeps store = before ++ c :: after →
      c.Reports d library ([] ++ before.flatMap (·.snapshots library)) := fun before c after h =>
    courses_report hlisted hnew (by simp) h
  refine ⟨hlaw, fun id first later hsnapshots hstays => ?_⟩
  obtain ⟨hfirst, hlater⟩ := List.pairwise_cons.mp hstays
  have htimes : timesReported library id (d.courses sweeps store) = arrivals id (some first) later := by
    rw [timesReported_eq_arrivals id hlaw, hsnapshots]
    simp [arrivals]
  rw [htimes]
  exact ⟨fun h => arrivals_of_holds h fun s hs => hfirst s hs h, fun h => arrivals_of_not_holds h hlater⟩

end Run

/-- A medium that comes while the library cannot be read is reported once, two sweeps later. -/
theorem report_eq_difference_of_outage :
    let sweeps := [List.replicate 3 (.ofMedia ["l"] ["m"]), List.replicate 3 (.mute ["l"]),
      List.replicate 3 (.ofMedia ["l"] ["m", "n"])]
    (∀ answers ∈ sweeps, ListedOnce "l" answers) ∧ Store.get? "l" [] = none ∧
      timesReported "l" "n" (Detector.courses ⟨10, true⟩ sweeps []) = 1 := by
  intro sweeps
  have hlisted : ∀ answers ∈ sweeps, ListedOnce "l" answers := by
    intro answers ha c hc libraries h
    simp only [sweeps, List.mem_cons, List.not_mem_nil, or_false] at ha
    rcases ha with rfl | rfl | rfl <;> cases hc <;> cases h <;> rfl
  have hnew : Store.get? "l" [] = none := rfl
  exact ⟨hlisted, hnew, ((report_eq_difference (d := ⟨10, true⟩) hnew hlisted).2 "n" _ _ rfl (by decide)).2
    (by decide) (by decide)⟩

end MediaWatch
