import MediaWatch.Proofs.Library.Complete

/-!
# Servers that count their pages from zero

A server may count its pages from zero and say so (`Catalog.CountsFromZero`). A reading asks for page one first all the
same, and that is the second page. What it sees from there on are the pages of the library without the series of its
first page (`Server.chunk_succ`, `Server.lt_pageCount_sub_iff`); all of these are read, as the last of them is told
from the others (`Server.isLast_pageFromZero`), and nothing else is (`Enumeration.firstPage_missed`). So the snapshot is
that of the whole library only if the library is empty.
-/

namespace MediaWatch

/-! ## Pages counted from zero -/

namespace Server

section Chunks

variable {α : Type} {size n p : Nat} {entries : List α}

/-- The pages from the second one on hold what is left behind the first. -/
theorem chunk_succ (hp : 1 ≤ p) : chunk size entries (p + 1) = chunk size (entries.drop size) p := by
  obtain ⟨q, rfl⟩ : ∃ q, p = q + 1 := ⟨p - 1, by omega⟩
  rw [chunk, chunk, List.drop_drop, Nat.add_sub_cancel, Nat.add_sub_cancel, Nat.succ_mul, Nat.add_comm size]

/-- A page has others behind it just as if the first page were not there. -/
theorem lt_pageCount_sub_iff (hsize : 0 < size) (hp : 1 ≤ p) :
    p < pageCount size (n - size) ↔ p + 1 < pageCount size n := by
  rw [lt_pageCount_iff hsize hp, lt_pageCount_iff hsize (by omega), Nat.succ_mul]
  omega

/-- Behind the first page there is not all of a listing, as its first entry stands there. -/
theorem eq_nil_of_forall_mem_drop (hsize : 1 ≤ size) (honce : entries.Nodup)
    (h : ∀ entry ∈ entries, entry ∈ entries.drop size) : entries = [] := by
  cases entries with
  | nil => rfl
  | cons entry later =>
    obtain ⟨k, rfl⟩ : ∃ k, size = k + 1 := ⟨size - 1, by omega⟩
    have hlater : entry ∈ later.drop k := h entry List.mem_cons_self
    exact absurd (List.mem_of_mem_drop hlater) (List.nodup_cons.mp honce).1

end Chunks

/-- Page `p`, counted from zero, of a listing with the given ids. -/
def pageFromZero (size : Nat) (ids : List Text) (p : Nat) : SeriesPage :=
  ⟨chunk size ids (p + 1), p + 1 < pageCount size ids.length, some (pageCount size ids.length)⟩

/-- From page one on the same page is taken for the last one as if the listing began behind the first page. -/
theorem isLast_pageFromZero {size p : Nat} (hsize : 0 < size) (hp : 1 ≤ p) (ids : List Text) :
    Enumeration.isLast p (pageFromZero size ids p) = Enumeration.isLast p (idPage size (ids.drop size) p) := by
  have hmore := lt_pageCount_sub_iff (n := ids.length) hsize hp
  have hcloses : (pageFromZero size ids p).Closes p ↔ (idPage size (ids.drop size) p).Closes p := by
    simp only [SeriesPage.Closes, pageFromZero, idPage, List.length_drop, decide_eq_false_iff_not, Option.some.injEq,
      exists_eq_left', Int.ofNat_le]
    omega
  have hseries : (pageFromZero size ids p).series = (idPage size (ids.drop size) p).series := chunk_succ hp
  rw [Bool.eq_iff_iff, SeriesPage.isLast_iff, SeriesPage.isLast_iff, hcloses, hseries]

/-- The pages from page one on, counted from zero. -/
def pagesFromZero (size : Nat) (ids : List Text) : List (Nat × SeriesPage) :=
  (List.range' 1 (pageCount size (ids.drop size).length)).map fun p => (p, pageFromZero size ids p)

/-- They list what is left behind the first page. -/
theorem flatMap_pagesFromZero {size : Nat} (hsize : 0 < size) (ids : List Text) :
    (pagesFromZero size ids).flatMap (·.2.series) = ids.drop size := by
  have hchunks : ∀ p ∈ List.range' 1 (pageCount size (ids.drop size).length),
      (pageFromZero size ids p).series = chunk size (ids.drop size) p :=
    fun p hp => chunk_succ (List.mem_range'_1.mp hp).1
  rw [pagesFromZero, List.flatMap_map, List.flatMap_congr hchunks]
  exact flatMap_chunk_pageCount hsize _

/-- A reading turns all of them. -/
theorem turned_pagesFromZero {size : Nat} (hsize : 0 < size) (ids : List Text) :
    Turned 1 (pagesFromZero size ids) := by
  have hone := one_le_pageCount size (ids.drop size).length
  have hrow : Turned 1 ((List.range' 1 (pageCount size (ids.drop size).length - 1 + 1)).map
      fun p => (p, pageFromZero size ids p)) := by
    apply turned_range
    · intro p hp hlt
      rw [isLast_pageFromZero hsize hp]
      refine Bool.eq_false_iff.mpr fun hlast => ?_
      have heq := (isLast_idPage hsize hp (by omega)).mp hlast
      omega
    · rw [isLast_pageFromZero hsize (by omega)]
      exact (isLast_idPage hsize (by omega) (by omega)).mpr (by omega)
  rwa [Nat.sub_add_cancel hone] at hrow

/-- A page that is counted from zero, as the survey sees it. -/
theorem seriesPage_ofNodes_fromZero {series : List Series} {info : PageInfo} {total p : Nat}
    (htotal : info.totalPages = total) (hcurrent : info.currentPage = p) (hzero : info.zeroBased = some true)
    (page pageSize : Int) : Client.seriesPage (.ofNodes series (some info) page pageSize) =
      ⟨series.map (·.id), p + 1 < total, some total⟩ := by
  have hmore : (p : Int) < total - 1 ↔ p + 1 < total := by omega
  simp [Client.seriesPage, Page.ofNodes, PageInfo.lastPage, PageInfo.countsFromZero, hzero, htotal, hcurrent, hmore]

end Server

/-! ## A server that counts its pages from zero -/

open Server in
/-- A catalog that answers page `p` of a library, counted from zero, with the chunk of its series that comes after `p`
others, and each series with its media. Pages past the end are empty. -/
structure Catalog.CountsFromZero (c : Catalog) (library : Text) (size : Nat) (series : List Series)
    (media : Text → List Medium) : Prop where
  page : ∀ p : Nat, ∃ info : PageInfo,
    info.totalPages = pageCount size series.length ∧ info.currentPage = p ∧ info.zeroBased = some true ∧
    c (.seriesPage library p size) = .ok (Client.seriesPage (.ofNodes (chunk size series (p + 1)) (some info) p size))
  media : ∀ s ∈ series, c (.media s.id) = .ok ((media s.id).map Client.listed)

namespace Catalog

open Server

/-- A server of one library that counts its pages from zero. -/
def fromZero (size : Nat) (series : List Series) (media : Text → List Medium) : Catalog
  | .libraries => .ok []
  | .seriesPage _ page pageSize =>
    let info := ⟨pageCount size series.length, none, page, pageSize, none, some true⟩
    .ok (Client.seriesPage (.ofNodes (chunk size series (page.toNat + 1)) (some info) page pageSize))
  | .media id => .ok ((media id).map Client.listed)

theorem countsFromZero_fromZero (library : Text) (size : Nat) (series : List Series)
    (media : Text → List Medium) : (fromZero size series media).CountsFromZero library size series media := by
  constructor
  · intro p
    exact ⟨_, rfl, rfl, rfl, rfl⟩
  · intro s _
    rfl

/-- The pages as the survey sees them. -/
theorem CountsFromZero.pageFromZero {c : Catalog} {library : Text} {size : Nat} {series : List Series}
    {media : Text → List Medium} (h : c.CountsFromZero library size series media) (p : Nat) :
    c (.seriesPage library p size) = .ok (Server.pageFromZero size (series.map (·.id)) p) := by
  obtain ⟨info, htotal, hcurrent, hzero, hpage⟩ := h.page p
  rw [hpage, seriesPage_ofNodes_fromZero htotal hcurrent hzero, map_chunk, Server.pageFromZero, List.length_map]

end Catalog

namespace Enumeration

open Server

/-- **The first page of a server that counts from zero is missed**, and nothing else is. Whatever the size of a page and
the number of series: the pages are asked for from page one on, and the reading ends with the series that stand on the
pages behind the first, in the order of the listing, and with their media. It has all series of the library only if
there are none. -/
theorem firstPage_missed {c : Catalog} {library : Text} {size : Nat} {series : List Series}
    {media : Text → List Medium} (hsize : 1 ≤ size) (hids : (series.map (·.id)).Nodup)
    (h : c.CountsFromZero library size series media) :
    let rest := series.drop size
    let pages := pageCount size rest.length
    ∃ asked snapshot,
      (∀ more, (start library).run size c (pages + rest.length + more) = ⟨asked, some (.ok snapshot)⟩) ∧
      asked.filterMap Query.page? = (List.range' 1 pages).map (fun p : Nat => (p : Int)) ∧
      asked.filterMap Query.series? = rest.map (·.id) ∧
      snapshot.seriesIds = rest.map (·.id) ∧
      (∀ id, snapshot.holds id = true ↔ ∃ s ∈ rest, ∃ m ∈ media s.id, m.id = id) ∧
      ((∀ s ∈ series, s.id ∈ snapshot.seriesIds) ↔ series = []) := by
  intro rest pages
  let ids := series.map (·.id)
  have hdrop : ids.drop size = rest.map (·.id) := List.map_drop.symm
  have hcount : pageCount size (ids.drop size).length = pages := by rw [hdrop, List.length_map]
  have hall : (pagesFromZero size ids).flatMap (·.2.series) = rest.map (·.id) :=
    (flatMap_pagesFromZero hsize ids).trans hdrop
  have hpages : ∀ q ∈ pagesFromZero size ids, c (.seriesPage library q.1 size) = .ok q.2 := by
    intro q hq
    obtain ⟨p, -, rfl⟩ := List.mem_map.mp hq
    exact h.pageFromZero p
  have hmedia : ∀ id ∈ rest.map (·.id), c (.media id) = .ok ((media id).map Client.listed) := by
    intro id hid
    obtain ⟨s, hs, rfl⟩ := List.mem_map.mp hid
    exact h.media s (List.mem_of_mem_drop hs)
  obtain ⟨snapshot, hrun, hfound, hheld⟩ := snapshot_of_turned (turned_pagesFromZero hsize ids) hall
    (hdrop ▸ hids.drop) hpages hmedia
  refine ⟨(pagesFromZero size ids).flatMap (Query.ofPage library size), snapshot, fun more => ?_, ?_, ?_, hfound,
    fun id => ?_, ?_⟩
  · have hfuel : (pagesFromZero size ids).length + (rest.map (·.id)).length = pages + rest.length := by
      rw [pagesFromZero, List.length_map, List.length_range', hcount, List.length_map]
    exact hfuel ▸ hrun more
  · rw [Query.flatMap_ofPage_page?, pagesFromZero, List.map_map, hcount]
    rfl
  · rw [Query.flatMap_ofPage_series?, hall]
  · rw [hheld]
    simp [Client.listed]
  · rw [hfound, ← hdrop]
    constructor
    · intro hwhole
      have hnil : ids = [] := eq_nil_of_forall_mem_drop hsize hids (List.forall_mem_map.mpr hwhole)
      exact List.map_eq_nil_iff.mp hnil
    · rintro rfl s hs
      cases hs

/-- Three series on two pages: only the one on the second page is found. -/
theorem firstPage_missed_of_two_pages :
    let series := ["s", "t", "u"].map Series.bare
    let media := fun id => [Medium.bare id id]
    let c := Catalog.fromZero 2 series media
    (1 ≤ 2 ∧ (series.map (·.id)).Nodup ∧ c.CountsFromZero "l" 2 series media) ∧
      ∃ asked snapshot, (start "l").run 2 c 2 = ⟨asked, some (.ok snapshot)⟩ ∧
        asked.filterMap Query.page? = [1] ∧ snapshot.seriesIds = ["u"] ∧ snapshot.holds "u" = true := by
  intro series media c
  have hids : (series.map (·.id)).Nodup := by decide
  have hserves : c.CountsFromZero "l" 2 series media := Catalog.countsFromZero_fromZero "l" 2 series media
  obtain ⟨asked, snapshot, hrun, hpages, -, hfound, hmedia, -⟩ := firstPage_missed (by decide) hids hserves
  have hheld : snapshot.holds "u" = true :=
    (hmedia "u").mpr ⟨Series.bare "u", by simp [series], Medium.bare "u" "u", by simp [media, Series.bare], rfl⟩
  have hpage : pageCount 2 (series.drop 2).length = 1 := by decide
  have hrun := hrun 0
  rw [hpage] at hrun hpages
  exact ⟨⟨by decide, hids, hserves⟩, asked, snapshot, hrun, hpages, hfound, hheld⟩

/-- A library of one series on page zero. What is read is an empty library, and page zero is not asked for; of the same
library on a server that counts from one the series and its medium are read. -/
theorem one_series_missed :
    let series := [Series.bare "s"]
    let media := fun id => [Medium.bare "m" id]
    let c := Catalog.fromZero 2 series media
    c.CountsFromZero "l" 2 series media ∧
      c (.seriesPage "l" 0 2) = .ok ⟨["s"], false, some 1⟩ ∧
      c (.seriesPage "l" 1 2) = .ok ⟨[], false, some 1⟩ ∧
      (start "l").run 2 c 1 = ⟨[.seriesPage "l" 1 2], some (.ok .empty)⟩ ∧
      (start "l").run 2 (Catalog.fromOne 2 series media) 2 =
        ⟨[.seriesPage "l" 1 2, .media "s"], some (.ok ⟨[("m", ⟨"l", "s", "m"⟩)], ["s"]⟩)⟩ := by
  intro series media c
  have hserves : c.CountsFromZero "l" 2 series media := Catalog.countsFromZero_fromZero "l" 2 series media
  have hfirst : pageFromZero 2 ["s"] 0 = ⟨["s"], false, some 1⟩ := by decide
  have hsecond : pageFromZero 2 ["s"] 1 = ⟨[], false, some 1⟩ := by decide
  exact ⟨hserves, hfirst ▸ hserves.pageFromZero 0, hsecond ▸ hserves.pageFromZero 1, by with_unfolding_all rfl,
    by with_unfolding_all rfl⟩

end Enumeration

end MediaWatch
