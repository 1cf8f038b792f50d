import MediaWatch.Proofs.Library.Isolation
import MediaWatch.Proofs.Library.SweepRun

/-!
# The pages of a reading

`Enumeration.log` lists what a reading is told, whatever the answers are: pages of series and the media of a series. The
pages of a reading that ends with a snapshot are turned in order from the first, up to the first one that is taken for
the last (`Turned`, `Enumeration.turns_of_read`); the snapshot holds what they list and nothing else
(`Enumeration.mem_seriesIds_of_read`, `Enumeration.holds_of_read`).

A page is taken for the last one if it says so (`SeriesPage.Closes`) or if it is empty. An empty page that announces
others is a gap; it cuts a reading short, and only a gap does (`Detector.cut_short_iff_gap`). The snapshot is stored all
the same, so that what stands on the pages behind the gap counts as removed (`Detector.removed_behind_gap`).
-/

namespace MediaWatch

/-! ## Pages -/

namespace SeriesPage

/-- Whether page `n` says that it is the last one: nothing follows, or its number has reached the number of pages. -/
def Closes (n : Nat) (p : SeriesPage) : Prop := p.hasNext = false ∨ ∃ total, p.totalPages = some total ∧ total ≤ n

/-- Whether page `n` says that there is a page `m` behind it. -/
def Announces (n m : Nat) (p : SeriesPage) : Prop :=
  p.hasNext = true ∧ n < m ∧ ∀ total, p.totalPages = some total → (m : Int) ≤ total

/-- A page announces the next one unless it says that it is the last. -/
theorem announces_next_iff (n : Nat) (p : SeriesPage) : p.Announces n (n + 1) ↔ ¬ p.Closes n := by
  constructor
  · rintro ⟨hnext, -, htotal⟩ (hno | ⟨total, hpages, hle⟩)
    · exact absurd (hno.symm.trans hnext) Bool.false_ne_true
    · have hlt := htotal total hpages
      omega
  · intro h
    refine ⟨?_, Nat.lt_succ_self n, ?_⟩
    · cases hnext : p.hasNext with
      | true => rfl
      | false => exact absurd (Or.inl hnext) h
    · intro total hpages
      have hlt : ¬ total ≤ n := fun hle => h (Or.inr ⟨total, hpages, hle⟩)
      omega

/-- A page announces some page behind it unless it says that it is the last. -/
theorem exists_announces_iff (n : Nat) (p : SeriesPage) : (∃ m, p.Announces n m) ↔ ¬ p.Closes n := by
  rw [← announces_next_iff]
  constructor
  · rintro ⟨m, hnext, hlt, htotal⟩
    refine ⟨hnext, Nat.lt_succ_self n, ?_⟩
    intro total hpages
    have hle := htotal total hpages
    omega
  · intro h
    exact ⟨n + 1, h⟩

/-- Whether page `n` is empty although it says that there are pages behind it. -/
def Gap (n : Nat) (p : SeriesPage) : Prop := p.series = [] ∧ ∃ m, p.Announces n m

/-- A page is taken for the last one if it says so or if it is empty. -/
theorem isLast_iff (n : Nat) (p : SeriesPage) : Enumeration.isLast n p = true ↔ p.Closes n ∨ p.series = [] := by
  unfold Enumeration.isLast Closes
  cases htotal : p.totalPages with
  | none => simp
  | some total =>
    simp only [Bool.or_eq_true, Bool.not_eq_true', List.isEmpty_iff, decide_eq_true_eq, Option.some.injEq,
      exists_eq_left']
    tauto

/-- A page that is taken for the last one says so unless it is a gap. -/
theorem closes_iff_not_gap {n : Nat} {p : SeriesPage} (h : Enumeration.isLast n p = true) :
    p.Closes n ↔ ¬ p.Gap n := by
  rw [Gap, exists_announces_iff]
  constructor
  · rintro hcloses ⟨-, hmore⟩
    exact hmore hcloses
  · intro hgap
    rcases (isLast_iff n p).mp h with hcloses | hseries
    · exact hcloses
    · exact Classical.byContradiction fun hmore => hgap ⟨hseries, hmore⟩

/-- A page that is not taken for the last one has series and announces the next page. -/
theorem announces_of_not_isLast {n : Nat} {p : SeriesPage} (h : Enumeration.isLast n p = false) :
    p.series ≠ [] ∧ p.Announces n (n + 1) := by
  have hnot : ¬ (p.Closes n ∨ p.series = []) := by
    rw [← isLast_iff, h]
    exact Bool.false_ne_true
  obtain ⟨hcloses, hseries⟩ := not_or.mp hnot
  exact ⟨hseries, (announces_next_iff n p).mpr hcloses⟩

end SeriesPage

/-- Pages that are turned one after the other from page `n`, up to the first one that is taken for the last. -/
inductive Turned : Nat → List (Nat × SeriesPage) → Prop
  | last {n : Nat} {p : SeriesPage} : Enumeration.isLast n p = true → Turned n [(n, p)]
  | next {n : Nat} {p : SeriesPage} {ps : List (Nat × SeriesPage)} :
      Enumeration.isLast n p = false → Turned (n + 1) ps → Turned n ((n, p) :: ps)

namespace Turned

variable {n : Nat} {ps : List (Nat × SeriesPage)}

/-- The numbers of the pages have no gaps. -/
theorem numbers (h : Turned n ps) : ps.map (·.1) = List.range' n ps.length := by
  induction h with
  | last _ => rfl
  | next _ _ ih => rw [List.map_cons, ih, List.length_cons, List.range'_succ]

/-- The last page alone is taken for the last one. -/
theorem split (h : Turned n ps) : ∃ before m last, ps = before ++ [(m, last)] ∧ m + 1 = n + ps.length ∧
    Enumeration.isLast m last = true ∧ ∀ p ∈ before, Enumeration.isLast p.1 p.2 = false := by
  induction h with
  | @last n p hlast => exact ⟨[], n, p, rfl, rfl, hlast, by simp⟩
  | @next n p ps hmore _ ih =>
    obtain ⟨before, m, last, rfl, hm, hlast, hbefore⟩ := ih
    refine ⟨(n, p) :: before, m, last, rfl, ?_, hlast, ?_⟩
    · rw [List.length_cons]
      omega
    · intro q hq
      rcases List.mem_cons.mp hq with rfl | hq
      · exact hmore
      · exact hbefore q hq

end Turned

/-! ## What a reading is told -/

/-- What a reading is told: the page with the given number, or the media of a series. -/
inductive Enumeration.Record where
  | page (n : Nat) (p : SeriesPage)
  | media (series : Text) (listed : List ListedMedium)
  deriving Repr, DecidableEq

namespace Enumeration

namespace Record

def page? : Record → Option (Nat × SeriesPage)
  | page n p => some (n, p)
  | media _ _ => none

def media? : Record → Option (List ListedMedium)
  | page _ _ => none
  | media _ listed => some listed

end Record

/-- The pages that a log tells of. -/
def pagesIn (log : List Record) : List (Nat × SeriesPage) := log.filterMap Record.page?

/-- The media lists that a log tells of. -/
def listsIn (log : List Record) : List (List ListedMedium) := log.filterMap Record.media?

/-- What the answer to the question at hand tells. -/
def record (pageSize : Int) : (e : Enumeration) → (e.query pageSize).Reply → Record
  | .page _ n _, p => .page n p
  | .media _ _ _ series _ _, listed => .media series listed

/-- What a reading is told on the given answers. -/
def log (pageSize : Int) : List Catalog → Enumeration → List Record
  | [], _ => []
  | c :: later, e =>
    match c (e.query pageSize) with
    | .error _ => []
    | .ok reply =>
      e.record pageSize reply :: match e.step pageSize reply with
        | .done _ => []
        | .ask e' => log pageSize later e'

/-! ## One answer -/

/-- The pages that are turned from where a reading stands, the page at hand included. -/
def Turns : Enumeration → List (Nat × SeriesPage) → Prop
  | .page _ n _, ps => Turned n ps
  | .media _ n p _ _ _, ps => Turned n ((n, p) :: ps)

/-- The same of a reading that goes on or is over. -/
def Next.Turns : Next → List (Nat × SeriesPage) → Prop
  | .ask e, ps => e.Turns ps
  | .done _, ps => ps = []

/-- The series that a reading has found, those of the page at hand included. -/
def seriesKnown : Enumeration → List Text
  | .page _ _ found => found.seriesIds
  | .media _ _ _ _ later found => found.seriesIds ++ later

/-- The same of a reading that goes on or is over. -/
def Next.seriesKnown : Next → List Text
  | .ask e => e.seriesKnown
  | .done s => s.seriesIds

variable {library : Text} {n : Nat} {p : SeriesPage} {found : Snapshot} {series : List Text}

theorem turned_of_follow {ps : List (Nat × SeriesPage)} (h : (follow library n p found series).Turns ps) :
    Turned n ((n, p) :: ps) := by
  cases series with
  | cons id later => exact h
  | nil =>
    rw [follow_nil] at h
    cases hlast : isLast n p with
    | true =>
      rw [if_pos hlast] at h
      obtain rfl : ps = [] := h
      exact .last hlast
    | false =>
      rw [if_neg (by simp [hlast])] at h
      exact .next hlast h

theorem mem_addSeries {id other : Text} {s : Snapshot} :
    id ∈ (s.addSeries other).seriesIds ↔ id ∈ s.seriesIds ∨ id = other := by
  unfold Snapshot.addSeries
  split
  · rename_i hknown
    constructor
    · exact Or.inl
    · rintro (hid | rfl)
      · exact hid
      · simpa using hknown
  · simp

/-- The next question leaves nothing of a page out. -/
theorem mem_seriesKnown_follow {id : Text} :
    id ∈ (follow library n p found series).seriesKnown ↔ id ∈ found.seriesIds ∨ id ∈ series := by
  cases series with
  | cons first later =>
    show id ∈ (found.addSeries first).seriesIds ++ later ↔ _
    rw [List.mem_append, mem_addSeries, List.mem_cons, or_assoc]
  | nil =>
    rw [follow_nil]
    split <;> simp [Next.seriesKnown, seriesKnown]

/-- The next question finds no media. -/
theorem media_follow : (follow library n p found series).found.media = found.media := by
  cases series with
  | cons first later =>
    show (found.addSeries first).media = found.media
    unfold Snapshot.addSeries
    split <;> rfl
  | nil =>
    rw [follow_nil]
    split <;> rfl

theorem holds_follow (id : Text) : (follow library n p found series).found.holds id = found.holds id := by
  rw [Snapshot.holds, media_follow, Snapshot.holds]

theorem seriesIds_addMedia (library : Text) (found : Snapshot) (listed : List ListedMedium) :
    (addMedia library found listed).seriesIds = found.seriesIds := by
  induction listed generalizing found with
  | nil => rfl
  | cons m rest ih => exact ih _

theorem holds_addMedia (id : Text) (library : Text) (found : Snapshot) (listed : List ListedMedium) :
    (addMedia library found listed).holds id = true ↔ found.holds id = true ∨ ∃ m ∈ listed, m.id = id := by
  induction listed generalizing found with
  | nil => simp [addMedia]
  | cons m rest ih =>
    have hone : (found.addMedium m.id (m.event library)).holds id = true ↔ m.id = id ∨ found.holds id = true := by
      simp [Snapshot.holds, Snapshot.addMedium]
    show (addMedia library (found.addMedium m.id (m.event library)) rest).holds id = true ↔ _
    rw [ih, hone, List.exists_mem_cons_iff]
    tauto

/-! ## Whole readings -/

variable {pageSize : Int} {e : Enumeration} {answers later : List Catalog} {s : Snapshot}

/-- A fact on readings that end with a snapshot: it holds of the snapshot at the end, and a page or the media of a
series carry it back. -/
theorem induction_of_read {motive : Next → List Record → Snapshot → Prop} (hdone : ∀ s, motive (.done s) [] s)
    (hpage : ∀ library n found (p : SeriesPage) log s, motive (follow library n p found p.series) log s →
      motive (.ask (.page library n found)) (.page n p :: log) s)
    (hmedia : ∀ library n p series later found (listed : List ListedMedium) log s,
      motive (follow library n p (addMedia library found listed) later) log s →
      motive (.ask (.media library n p series later found)) (.media series listed :: log) s)
    (h : e.read pageSize answers = some (.ok s, later)) : motive (.ask e) (e.log pageSize answers) s := by
  induction answers generalizing e with
  | nil => cases h
  | cons c rest ih =>
    rw [read] at h
    rw [log]
    cases hc : c (e.query pageSize) with
    | error reason =>
      rw [hc] at h
      cases h
    | ok reply =>
      rw [hc] at h
      dsimp only at h ⊢
      have hnext : ∀ log, motive (e.step pageSize reply) log s →
          motive (.ask e) (e.record pageSize reply :: log) s := by
        intro log hlog
        cases e with
        | page library n found => exact hpage library n found reply log s hlog
        | media library n p series later found => exact hmedia library n p series later found reply log s hlog
      apply hnext
      cases hs : e.step pageSize reply with
      | done snapshot =>
        rw [hs] at h
        cases h
        exact hdone s
      | ask e' =>
        rw [hs] at h
        exact ih h

/-- A reading that ends with a snapshot turns the pages up to the first one that is taken for the last. -/
theorem turns_of_read (h : e.read pageSize answers = some (.ok s, later)) :
    e.Turns (pagesIn (e.log pageSize answers)) := by
  refine induction_of_read (motive := fun next log _ => next.Turns (pagesIn log)) ?_ ?_ ?_ h
  · intro s
    rfl
  · intro library n found p log s hlog
    exact turned_of_follow hlog
  · intro library n p series later found listed log s hlog
    exact turned_of_follow hlog

/-- The snapshot has the series of all pages, and no others. -/
theorem mem_seriesIds_of_read (h : e.read pageSize answers = some (.ok s, later)) (id : Text) :
    id ∈ s.seriesIds ↔ id ∈ e.seriesKnown ∨ ∃ p ∈ pagesIn (e.log pageSize answers), id ∈ p.2.series := by
  refine induction_of_read
    (motive := fun next log s => id ∈ s.seriesIds ↔ id ∈ next.seriesKnown ∨ ∃ p ∈ pagesIn log, id ∈ p.2.series)
    ?_ ?_ ?_ h
  · intro s
    simp [Next.seriesKnown, pagesIn]
  · intro library n found p log s hlog
    rw [hlog, mem_seriesKnown_follow]
    simp [pagesIn, Record.page?, Next.seriesKnown, seriesKnown, or_assoc]
  · intro library n p series later found listed log s hlog
    rw [hlog, mem_seriesKnown_follow, seriesIds_addMedia]
    simp [pagesIn, Record.page?, Next.seriesKnown, seriesKnown]

/-- The snapshot holds the media of all lists, and no others. -/
theorem holds_of_read (h : e.read pageSize answers = some (.ok s, later)) (id : Text) :
    s.holds id = true ↔
      e.found.holds id = true ∨ ∃ listed ∈ listsIn (e.log pageSize answers), ∃ m ∈ listed, m.id = id := by
  refine induction_of_read
    (motive := fun next log s => s.holds id = true ↔
      next.found.holds id = true ∨ ∃ listed ∈ listsIn log, ∃ m ∈ listed, m.id = id)
    ?_ ?_ ?_ h
  · intro s
    simp [Next.found, listsIn]
  · intro library n found p log s hlog
    rw [hlog, holds_follow]
    simp [listsIn, Record.media?, Next.found, Enumeration.found]
  · intro library n p series later found listed log s hlog
    rw [hlog, holds_follow, holds_addMedia]
    simp [listsIn, Record.media?, Next.found, Enumeration.found, or_assoc]

end Enumeration

/-! ## What a check stores -/

/-- A server of one library with the given pages of series, each of which has a medium of the same name. -/
def Catalog.paged (pages : List (List Text)) : Catalog
  | .libraries => .ok ["l"]
  | .seriesPage _ page _ => .ok ⟨pages.getD (page.toNat - 1) [], page < pages.length, some pages.length⟩
  | .media series => .ok [⟨series, series, none⟩]

namespace Detector

variable (d : Detector)

/-- What is stored after a library was checked on the given answers. -/
def kept (store : Store) (answers : List Catalog) (library : Text) : Store :=
  match (Enumeration.start library).read d.pageSize answers with
  | some (.ok snapshot, _) => (store.record d.reportRemoved library snapshot).1
  | _ => store

/-- The pages that are read when a library is checked on the given answers. -/
def pagesRead (answers : List Catalog) (library : Text) : List (Nat × SeriesPage) :=
  Enumeration.pagesIn ((Enumeration.start library).log d.pageSize answers)

/-- The media lists that are read when a library is checked on the given answers. -/
def listsRead (answers : List Catalog) (library : Text) : List (List ListedMedium) :=
  Enumeration.listsIn ((Enumeration.start library).log d.pageSize answers)

variable {d} {store : Store} {answers : List Catalog} {library : Text} {changes : Changes}

/-- A check that hands over changes has read a snapshot and stored it. -/
theorem read_of_detect (h : d.detect store answers library = some changes) :
    ∃ s later, (Enumeration.start library).read d.pageSize answers = some (.ok s, later) ∧
      changes = d.report library (store.get? library) s ∧ d.kept store answers library = store.replace library s := by
  cases hread : (Enumeration.start library).read d.pageSize answers with
  | none =>
    rw [detect, hread] at h
    cases h
  | some result =>
    obtain ⟨r, later⟩ := result
    rw [detect, hread] at h
    cases r with
    | error reason => cases h
    | ok s =>
      obtain ⟨hstore, hchanges⟩ := Store.record_eq d library s store
      rw [Option.some.inj h] at hchanges
      refine ⟨s, later, rfl, List.singleton_inj.mp hchanges, ?_⟩
      rw [kept, hread]
      exact hstore

theorem mem_removed_report {stored : Option Snapshot} {current : Snapshot} {e : SeriesEvent} :
    e ∈ (d.report library stored current).removedSeries ↔ d.reportRemoved = true ∧ e.libraryId = library ∧
      (∃ previous, stored = some previous ∧ e.seriesId ∈ previous.seriesIds) ∧ e.seriesId ∉ current.seriesIds := by
  cases stored with
  | none => simp [report, Changes.none]
  | some previous =>
    unfold report Changes.between
    cases d.reportRemoved with
    | false => simp
    | true => simp [Changes.mem_removed]

/-- What a snapshot holds is not reported as added to it. -/
theorem not_holds_of_mem_added {previous current : Snapshot} (h : current.Sound) {e : BookEvent}
    (he : e ∈ (d.report library (some previous) current).addedBooks) : previous.holds e.bookId = false := by
  obtain ⟨entry, hm, rfl⟩ := List.mem_map.mp he
  obtain ⟨hentry, hnew⟩ := List.mem_filter.mp hm
  rw [h.named entry hentry]
  exact Bool.not_eq_true' _ |>.mp hnew

/-- **Only a gap cuts a reading short.** Whatever pages are answered: a check that stores a snapshot has read the pages
from the first up to one page `last`, and each page before had series and announced the next. The last page says that it
is the last, unless it is empty and announces others. The removed series are those that were stored and stand on none of
the pages that were read, and no medium of the lists that were read is added by the check after that. -/
theorem cut_short_iff_gap (h : d.detect store answers library = some changes) :
    ∃ s before n last,
      d.kept store answers library = store.replace library s ∧
      d.pagesRead answers library = before ++ [(n, last)] ∧
      (d.pagesRead answers library).map (·.1) = List.range' 1 n ∧
      (∀ p ∈ before, p.2.series ≠ [] ∧ p.2.Announces p.1 (p.1 + 1)) ∧
      (last.Closes n ↔ ¬ last.Gap n) ∧
      (∀ e, e ∈ changes.removedSeries ↔ d.reportRemoved = true ∧ e.libraryId = library ∧
        (∃ previous, store.get? library = some previous ∧ e.seriesId ∈ previous.seriesIds) ∧
        ∀ p ∈ d.pagesRead answers library, e.seriesId ∉ p.2.series) ∧
      ∀ again changes', d.detect (d.kept store answers library) again library = some changes' →
        ∀ e ∈ changes'.addedBooks, ∀ listed ∈ d.listsRead answers library, ∀ m ∈ listed, m.id ≠ e.bookId := by
  obtain ⟨s, later, hread, rfl, hkept⟩ := read_of_detect h
  have hturned : Turned 1 (d.pagesRead answers library) := Enumeration.turns_of_read hread
  obtain ⟨before, n, last, hpages, hn, hlast, hbefore⟩ := hturned.split
  refine ⟨s, before, n, last, hkept, hpages, ?_, ?_, SeriesPage.closes_iff_not_gap hlast, ?_, ?_⟩
  · have hlength : (d.pagesRead answers library).length = n := by omega
    rw [hturned.numbers, hlength]
  · intro p hp
    exact SeriesPage.announces_of_not_isLast (hbefore p hp)
  · intro e
    have hseries := Enumeration.mem_seriesIds_of_read hread e.seriesId
    rw [mem_removed_report, hseries]
    simp [Enumeration.start, Enumeration.seriesKnown, Snapshot.empty, pagesRead]
  · intro again changes' hagain e he listed hlisted m hm hid
    obtain ⟨s', later', hread', rfl, -⟩ := read_of_detect hagain
    rw [hkept, Store.get?_replace_self] at he
    have hholds : s.holds e.bookId = true :=
      (Enumeration.holds_of_read hread e.bookId).mpr (Or.inr ⟨listed, hlisted, m, hm, hid⟩)
    have hnot := not_holds_of_mem_added (Enumeration.read_start_sound hread') he
    exact absurd (hnot.symm.trans hholds) Bool.false_ne_true

/-- A library of three pages that is read to its end. -/
theorem cut_short_iff_gap_of_whole :
    let d : Detector := ⟨1, true⟩
    let answers := List.replicate 6 (Catalog.paged [["s"], ["t"], ["u"]])
    d.detect [] answers "l" = some (.none "l") ∧
      ∃ before last, d.pagesRead answers "l" = before ++ [(3, last)] ∧ (last.Closes 3 ↔ ¬ last.Gap 3) := by
  intro d answers
  have hdetect : d.detect [] answers "l" = some (.none "l") := rfl
  obtain ⟨s, before, n, last, -, hpages, hnumbers, -, hlast, -, -⟩ := cut_short_iff_gap hdetect
  have hn : n = 3 := by
    have hlength := congrArg List.length hnumbers
    rw [List.length_range'] at hlength
    exact hlength.symm
  subst hn
  exact ⟨hdetect, before, last, hpages, hlast⟩

/-- An empty second page of three: what was read of the first page is stored, the series on the third page is reported
as removed, and its medium is reported as new when the library is read the next time. -/
theorem removed_behind_gap :
    let d : Detector := ⟨1, true⟩
    let whole := List.replicate 6 (Catalog.paged [["s"], ["t"], ["u"]])
    let torn := Catalog.paged [["s"], [], ["u"]]
    let first := d.kept [] whole "l"
    let second := d.kept first (List.replicate 3 torn) "l"
    torn (.seriesPage "l" 3 1) = .ok ⟨["u"], false, some 3⟩ ∧
      d.pagesRead (List.replicate 3 torn) "l" = [(1, ⟨["s"], true, some 3⟩), (2, ⟨[], true, some 3⟩)] ∧
      ¬ SeriesPage.Closes 2 ⟨[], true, some 3⟩ ∧
      second = ([("l", ⟨[("s", ⟨"l", "s", "s"⟩)], ["s"]⟩)] : Store) ∧
      (∃ changes, d.detect first (List.replicate 3 torn) "l" = some changes ∧ ⟨"l", "u"⟩ ∈ changes.removedSeries) ∧
      ∃ changes, d.detect second whole "l" = some changes ∧ ⟨"l", "u", "u"⟩ ∈ changes.addedBooks := by
  intro d whole torn first second
  have hpages : d.pagesRead (List.replicate 3 torn) "l" = [(1, ⟨["s"], true, some 3⟩), (2, ⟨[], true, some 3⟩)] := rfl
  have hcloses : ¬ SeriesPage.Closes 2 ⟨[], true, some 3⟩ := by simp [SeriesPage.Closes]
  refine ⟨rfl, hpages, hcloses, rfl, ⟨_, rfl, ?_⟩, ⟨_, rfl, by decide⟩⟩
  exact Changes.mem_removed.mpr ⟨rfl, by decide, by decide⟩

end Detector

end MediaWatch
