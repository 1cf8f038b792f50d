import Mathlib.Algebra.Order.Floor.Div
import MediaWatch.Client.Survey
import MediaWatch.Library.Poll
import MediaWatch.Proofs.Library.Pages

/-!
# Complete readings

A catalog that answers is asked for the pages up to the first one that is taken for the last, and for the media of each
series on them (`Enumeration.run_of_turned`). A server that counts its pages from one and cuts a library into pages of
a given size (`Catalog.CountsFromOne`) is read completely: each page and each series is asked for once and in order, and
the snapshot has every series and holds every medium (`Enumeration.complete_of_countsFromOne`).
-/

namespace MediaWatch

/-! ## Runs on pages -/

/-- A reading that has asked something before what follows. -/
def Reading.after (asked : List Query) (r : Reading) : Reading := { r with asked := asked ++ r.asked }

theorem Reading.after_after (first second : List Query) (r : Reading) :
    (r.after second).after first = r.after (first ++ second) := by
  simp [after]

namespace Query

/-- The number of the page that is asked for. -/
def page? : Query → Option Int
  | .seriesPage _ page _ => some page
  | _ => none

/-- The series whose media are asked for. -/
def series? : Query → Option Text
  | .media series => some series
  | _ => none

/-- The questions about a page: the page, and the media of each series on it. -/
def ofPage (library : Text) (pageSize : Int) (q : Nat × SeriesPage) : List Query :=
  .seriesPage library q.1 pageSize :: q.2.series.map .media

theorem filterMap_page?_ofPage (library : Text) (pageSize : Int) (q : Nat × SeriesPage) :
    (ofPage library pageSize q).filterMap page? = [(q.1 : Int)] := by
  simp [ofPage, page?, List.filterMap_map, Function.comp_def]

theorem filterMap_series?_ofPage (library : Text) (pageSize : Int) (q : Nat × SeriesPage) :
    (ofPage library pageSize q).filterMap series? = q.2.series := by
  show (q.2.series.map .media).filterMap series? = q.2.series
  simp [series?, List.filterMap_map, Function.comp_def]

variable (library : Text) (pageSize : Int) (ps : List (Nat × SeriesPage))

theorem length_flatMap_ofPage :
    (ps.flatMap (ofPage library pageSize)).length = ps.length + (ps.flatMap (·.2.series)).length := by
  induction ps with
  | nil => rfl
  | cons q ps ih =>
    rw [List.flatMap_cons, List.length_append, ih, List.flatMap_cons, List.length_append, ofPage]
    simp only [List.length_cons, List.length_map]
    omega

theorem flatMap_ofPage_page? :
    (ps.flatMap (ofPage library pageSize)).filterMap page? = ps.map fun q => (q.1 : Int) := by
  simp only [List.filterMap_flatMap, filterMap_page?_ofPage, List.map_eq_flatMap]

theorem flatMap_ofPage_series? :
    (ps.flatMap (ofPage library pageSize)).filterMap series? = ps.flatMap (·.2.series) := by
  simp only [List.filterMap_flatMap, filterMap_series?_ofPage]

end Query

namespace Enumeration

variable {c : Catalog} {pageSize : Int} {library : Text} {media : Text → List ListedMedium}

/-- Goes on with a reading, if it goes on, on a catalog. -/
def Next.run (pageSize : Int) (c : Catalog) (fuel : Nat) : Next → Reading
  | .ask e => e.run pageSize c fuel
  | .done s => ⟨[], some (.ok s)⟩

/-- A question that is answered. -/
theorem run_succ {e : Enumeration} {reply : (e.query pageSize).Reply} (h : c (e.query pageSize) = .ok reply)
    (fuel : Nat) : e.run pageSize c (fuel + 1) =
      ((e.step pageSize reply).run pageSize c fuel).after [e.query pageSize] := by
  rw [run]
  simp only [h]
  cases e.step pageSize reply <;> rfl

/-- The snapshot with the given series and their media. -/
def gather (library : Text) (media : Text → List ListedMedium) (found : Snapshot) (series : List Text) :
    Snapshot :=
  series.foldl (fun s id => addMedia library (s.addSeries id) (media id)) found

theorem gather_append (found : Snapshot) (first second : List Text) :
    gather library media found (first ++ second) = gather library media (gather library media found first) second :=
  List.foldl_append ..

/-- Series that are not known yet come after those that are. -/
theorem seriesIds_gather {series : List Text} {found : Snapshot} (h : (found.seriesIds ++ series).Nodup) :
    (gather library media found series).seriesIds = found.seriesIds ++ series := by
  induction series generalizing found with
  | nil => exact (List.append_nil _).symm
  | cons id later ih =>
    have hnew : id ∉ found.seriesIds := by
      intro hid
      exact (List.nodup_append.mp h).2.2 id hid id List.mem_cons_self rfl
    have hids : (addMedia library (found.addSeries id) (media id)).seriesIds = found.seriesIds ++ [id] := by
      rw [seriesIds_addMedia, Snapshot.addSeries, if_neg (by simpa using hnew)]
    have hsplit : found.seriesIds ++ id :: later = (found.seriesIds ++ [id]) ++ later := by simp
    show (gather library media (addMedia library (found.addSeries id) (media id)) later).seriesIds = _
    rw [ih (by rwa [hids, ← hsplit]), hids, ← hsplit]

theorem holds_addSeries (id other : Text) (s : Snapshot) : (s.addSeries id).holds other = s.holds other := by
  unfold Snapshot.addSeries
  split <;> rfl

theorem holds_gather {series : List Text} {found : Snapshot} {id : Text} :
    (gather library media found series).holds id = true ↔
      found.holds id = true ∨ ∃ s ∈ series, ∃ m ∈ media s, m.id = id := by
  induction series generalizing found with
  | nil => simp [gather]
  | cons first later ih =>
    show (gather library media (addMedia library (found.addSeries first) (media first)) later).holds id = true ↔ _
    rw [ih, holds_addMedia, holds_addSeries, List.exists_mem_cons_iff, or_assoc]

/-- The media of the series of a page are asked for one after the other. -/
theorem run_follow {n : Nat} {p : SeriesPage} {series : List Text} (found : Snapshot)
    (hmedia : ∀ id ∈ series, c (.media id) = .ok (media id)) (more : Nat) :
    (follow library n p found series).run pageSize c (series.length + more) =
      ((follow library n p (gather library media found series) []).run pageSize c more).after (series.map .media) := by
  induction series generalizing found with
  | nil => rw [List.length_nil, Nat.zero_add]; rfl
  | cons id later ih =>
    have hanswer : c ((Enumeration.media library n p id later (found.addSeries id)).query pageSize) =
        .ok (media id) := hmedia id List.mem_cons_self
    have hlater := ih (addMedia library (found.addSeries id) (media id))
      fun other hm => hmedia other (List.mem_cons_of_mem _ hm)
    rw [List.length_cons, Nat.add_right_comm]
    show (Enumeration.media library n p id later (found.addSeries id)).run pageSize c (later.length + more + 1) = _
    rw [run_succ hanswer]
    show ((follow library n p (addMedia library (found.addSeries id) (media id)) later).run pageSize c
      (later.length + more)).after [.media id] = _
    rw [hlater, Reading.after_after]
    rfl

/-- A page is asked for, and then the media of its series. -/
theorem run_page {n : Nat} {p : SeriesPage} (found : Snapshot)
    (hpage : c (.seriesPage library n pageSize) = .ok p)
    (hmedia : ∀ id ∈ p.series, c (.media id) = .ok (media id)) (more : Nat) :
    (Enumeration.page library n found).run pageSize c ((Query.ofPage library pageSize (n, p)).length + more) =
      ((follow library n p (gather library media found p.series) []).run pageSize c more).after
        (Query.ofPage library pageSize (n, p)) := by
  have hanswer : c ((Enumeration.page library n found).query pageSize) = .ok p := hpage
  have hfuel : (Query.ofPage library pageSize (n, p)).length + more = (p.series.length + more) + 1 := by
    simp only [Query.ofPage, List.length_cons, List.length_map]
    omega
  rw [hfuel, run_succ hanswer]
  show ((follow library n p found p.series).run pageSize c (p.series.length + more)).after _ = _
  rw [run_follow found hmedia, Reading.after_after]
  rfl

/-- A catalog that answers the pages up to the last one, and the media of their series, is read to its end. -/
theorem run_of_turned {n : Nat} {ps : List (Nat × SeriesPage)} (h : Turned n ps)
    (hpage : ∀ q ∈ ps, c (.seriesPage library q.1 pageSize) = .ok q.2)
    (hmedia : ∀ q ∈ ps, ∀ id ∈ q.2.series, c (.media id) = .ok (media id)) (found : Snapshot) (more : Nat) :
    (Enumeration.page library n found).run pageSize c
        ((ps.flatMap (Query.ofPage library pageSize)).length + more) =
      ⟨ps.flatMap (Query.ofPage library pageSize),
        some (.ok (gather library media found (ps.flatMap (·.2.series))))⟩ := by
  induction h generalizing found with
  | @last n p hlast =>
    have hfirst := run_page found (hpage (n, p) List.mem_cons_self) (hmedia (n, p) List.mem_cons_self) more
    rw [follow_nil, if_pos hlast] at hfirst
    rw [List.flatMap_singleton, List.flatMap_singleton, hfirst]
    simp [Reading.after, Next.run]
  | @next n p ps hmore _ ih =>
    have hfirst := run_page found (hpage (n, p) List.mem_cons_self) (hmedia (n, p) List.mem_cons_self)
      ((ps.flatMap (Query.ofPage library pageSize)).length + more)
    rw [follow_nil, if_neg (by simp [hmore])] at hfirst
    have hrest := ih (fun q hq => hpage q (List.mem_cons_of_mem _ hq))
      (fun q hq => hmedia q (List.mem_cons_of_mem _ hq)) (gather library media found p.series)
    rw [List.flatMap_cons, List.flatMap_cons, List.length_append, Nat.add_assoc, hfirst, gather_append]
    show ((Enumeration.page library (n + 1) _).run pageSize c _).after _ = _
    rw [hrest]
    rfl

/-- The snapshot that is read from such a catalog has the series of the pages in their order, and all their media. -/
theorem snapshot_of_turned {ids : List Text} {ps : List (Nat × SeriesPage)} (h : Turned 1 ps)
    (hall : ps.flatMap (·.2.series) = ids) (hids : ids.Nodup)
    (hpage : ∀ q ∈ ps, c (.seriesPage library q.1 pageSize) = .ok q.2)
    (hmedia : ∀ id ∈ ids, c (.media id) = .ok (media id)) :
    ∃ snapshot : Snapshot,
      (∀ more, (start library).run pageSize c (ps.length + ids.length + more) =
        ⟨ps.flatMap (Query.ofPage library pageSize), some (.ok snapshot)⟩) ∧
      snapshot.seriesIds = ids ∧
      ∀ id, snapshot.holds id = true ↔ ∃ s ∈ ids, ∃ m ∈ media s, m.id = id := by
  subst hall
  have hlisted : ∀ q ∈ ps, ∀ id ∈ q.2.series, c (.media id) = .ok (media id) :=
    fun q hq id hid => hmedia id (List.mem_flatMap.mpr ⟨q, hq, hid⟩)
  refine ⟨gather library media .empty (ps.flatMap (·.2.series)), fun more => ?_, ?_, fun id => ?_⟩
  · rw [← Query.length_flatMap_ofPage library pageSize]
    exact run_of_turned h hpage hlisted .empty more
  · exact (seriesIds_gather hids).trans (List.nil_append _)
  · rw [holds_gather]
    simp [Snapshot.holds, Snapshot.empty, Media.has]

end Enumeration

/-- Pages in a row of which only the last is taken for the last one. -/
theorem turned_range (page : Nat → SeriesPage) {n k : Nat}
    (hmore : ∀ m, n ≤ m → m < n + k → Enumeration.isLast m (page m) = false)
    (hlast : Enumeration.isLast (n + k) (page (n + k)) = true) :
    Turned n ((List.range' n (k + 1)).map fun m => (m, page m)) := by
  induction k generalizing n with
  | zero => exact .last hlast
  | succ k ih =>
    have hrest : Turned (n + 1) ((List.range' (n + 1) (k + 1)).map fun m => (m, page m)) := by
      refine ih (fun m hm hlt => hmore m (by omega) (by omega)) ?_
      rwa [show n + 1 + k = n + (k + 1) by omega]
    rw [List.range'_succ, List.map_cons]
    exact .next (hmore n (Nat.le_refl n) (by omega)) hrest

/-! ## Pages of a given size -/

namespace Server

/-- The number of pages that a listing of `n` entries is cut into. -/
def pageCount (size n : Nat) : Nat := max 1 (n ⌈/⌉ size)

/-- The entries of page `p`, counted from one. -/
def chunk {α : Type} (size : Nat) (entries : List α) (p : Nat) : List α := (entries.drop ((p - 1) * size)).take size

section Chunks

variable {α : Type} {size n p : Nat} {entries : List α}

theorem one_le_pageCount (size n : Nat) : 1 ≤ pageCount size n := Nat.le_max_left ..

/-- A page has others behind it exactly if the pages up to it do not hold all entries. -/
theorem lt_pageCount_iff (hsize : 0 < size) (hp : 1 ≤ p) : p < pageCount size n ↔ p * size < n := by
  have hceil : n ⌈/⌉ size ≤ p ↔ n ≤ size * p := ceilDiv_le_iff_le_mul hsize
  rw [Nat.mul_comm] at hceil
  unfold pageCount
  omega

theorem length_le_pageCount_mul (hsize : 0 < size) : n ≤ pageCount size n * size := by
  have hlast := lt_pageCount_iff (n := n) hsize (one_le_pageCount size n)
  exact Nat.le_of_not_lt fun hlt => Nat.lt_irrefl _ (hlast.mpr hlt)

theorem map_chunk {β : Type} (f : α → β) : (chunk size entries p).map f = chunk size (entries.map f) p := by
  rw [chunk, chunk, List.map_take, List.map_drop]

/-- The first pages hold the first entries. -/
theorem flatMap_chunk (size : Nat) (entries : List α) (k : Nat) :
    (List.range' 1 k).flatMap (chunk size entries) = entries.take (k * size) := by
  induction k with
  | zero => simp
  | succ k ih =>
    rw [List.range'_1_concat, List.flatMap_append, ih, List.flatMap_singleton, chunk, Nat.add_sub_cancel_left,
      Nat.succ_mul, List.take_add]

/-- All pages hold all entries. -/
theorem flatMap_chunk_pageCount (hsize : 0 < size) (entries : List α) :
    (List.range' 1 (pageCount size entries.length)).flatMap (chunk size entries) = entries := by
  rw [flatMap_chunk, List.take_of_length_le (length_le_pageCount_mul hsize)]

/-- A page that has others behind it is not empty. -/
theorem chunk_ne_nil (hsize : 0 < size) (hp : 1 ≤ p) (h : p < pageCount size entries.length) :
    chunk size entries p ≠ [] := by
  have hmore : p * size < entries.length := (lt_pageCount_iff hsize hp).mp h
  have hbefore : (p - 1) * size ≤ p * size := Nat.mul_le_mul_right size (Nat.sub_le p 1)
  intro hnil
  have hlength := congrArg List.length hnil
  simp only [chunk, List.length_take, List.length_drop, List.length_nil] at hlength
  omega

end Chunks

/-- Page `p` of a listing with the given ids. -/
def idPage (size : Nat) (ids : List Text) (p : Nat) : SeriesPage :=
  ⟨chunk size ids p, p < pageCount size ids.length, some (pageCount size ids.length)⟩

/-- The last page alone is taken for the last one. -/
theorem isLast_idPage {size p : Nat} {ids : List Text} (hsize : 0 < size) (hp : 1 ≤ p)
    (hle : p ≤ pageCount size ids.length) :
    Enumeration.isLast p (idPage size ids p) = true ↔ p = pageCount size ids.length := by
  rw [SeriesPage.isLast_iff]
  constructor
  · intro h
    refine Nat.le_antisymm hle (Nat.le_of_not_lt fun hlt => ?_)
    rcases h with (hnext | ⟨total, htotal, hle⟩) | hnil
    · simp [idPage, hlt] at hnext
    · cases htotal
      omega
    · exact chunk_ne_nil hsize hp hlt hnil
  · intro h
    exact Or.inl (Or.inl (by simp [idPage, ← h]))

/-- The pages of a listing with the given ids. -/
def idPages (size : Nat) (ids : List Text) : List (Nat × SeriesPage) :=
  (List.range' 1 (pageCount size ids.length)).map fun p => (p, idPage size ids p)

/-- The pages are numbered from one. -/
theorem of_mem_idPages {size : Nat} {ids : List Text} {q : Nat × SeriesPage} (hq : q ∈ idPages size ids) :
    1 ≤ q.1 ∧ q.1 ≤ pageCount size ids.length ∧ q.2 = idPage size ids q.1 := by
  obtain ⟨p, hp, rfl⟩ := List.mem_map.mp hq
  have hrange := List.mem_range'_1.mp hp
  exact ⟨hrange.1, by omega, rfl⟩

theorem length_idPages (size : Nat) (ids : List Text) : (idPages size ids).length = pageCount size ids.length := by
  simp [idPages]

/-- The pages list every id once and in order. -/
theorem flatMap_idPages {size : Nat} (hsize : 0 < size) (ids : List Text) :
    (idPages size ids).flatMap (·.2.series) = ids := by
  rw [idPages, List.flatMap_map]
  exact flatMap_chunk_pageCount hsize ids

/-- A reading turns all pages. -/
theorem turned_idPages {size : Nat} (hsize : 0 < size) (ids : List Text) : Turned 1 (idPages size ids) := by
  have htotal := one_le_pageCount size ids.length
  have hrow : Turned 1 ((List.range' 1 (pageCount size ids.length - 1 + 1)).map fun p => (p, idPage size ids p)) := by
    apply turned_range
    · intro p hp hlt
      refine Bool.eq_false_iff.mpr fun hlast => ?_
      have heq := (isLast_idPage hsize hp (by omega)).mp hlast
      omega
    · exact (isLast_idPage hsize (by omega) (by omega)).mpr (by omega)
  rwa [Nat.sub_add_cancel htotal] at hrow

/-- A page that is counted from one, as the survey sees it. -/
theorem seriesPage_ofNodes {series : List Series} {info : PageInfo} {total p : Nat} (hp : 1 ≤ p)
    (htotal : info.totalPages = total) (hcurrent : info.currentPage = p) (hone : info.zeroBased ≠ some true)
    (page pageSize : Int) : Client.seriesPage (.ofNodes series (some info) page pageSize) =
      ⟨series.map (·.id), p < total, some total⟩ := by
  have hbase : info.countsFromZero = false := by
    unfold PageInfo.countsFromZero
    cases hz : info.zeroBased with
    | none => simp [hcurrent, Nat.ne_of_gt hp]
    | some zero =>
      cases zero with
      | false => rfl
      | true => exact absurd hz hone
  simp [Client.seriesPage, Page.ofNodes, PageInfo.lastPage, hbase, htotal, hcurrent]

end Server

/-! ## A server that counts its pages from one -/

open Server in
/-- A catalog that answers page `p` of a library, counted from one, with the `p`-th chunk of its series, and each series
with its media. -/
structure Catalog.CountsFromOne (c : Catalog) (library : Text) (size : Nat) (series : List Series)
    (media : Text → List Medium) : Prop where
  page : ∀ p : Nat, 1 ≤ p → p ≤ pageCount size series.length → ∃ info : PageInfo,
    info.totalPages = pageCount size series.length ∧ info.currentPage = p ∧ info.zeroBased ≠ some true ∧
    c (.seriesPage library p size) = .ok (Client.seriesPage (.ofNodes (chunk size series p) (some info) p size))
  media : ∀ s ∈ series, c (.media s.id) = .ok ((media s.id).map Client.listed)

/-- A series of which only the id matters. -/
def Server.Series.bare (id : Text) : Server.Series := ⟨id, "", none, "", none, none, none, "", 0, [], none⟩

/-- A medium of which only its id and that of its series matter. -/
def Server.Medium.bare (id series : Text) : Server.Medium :=
  ⟨id, "", none, "", 0, none, 0, none, none, none, series, none, none, none, none, none⟩

namespace Catalog

open Server

/-- A server of one library that counts its pages from one and says nothing about it. -/
def fromOne (size : Nat) (series : List Series) (media : Text → List Medium) : Catalog
  | .libraries => .ok []
  | .seriesPage _ page pageSize =>
    let info := ⟨pageCount size series.length, none, page, pageSize, none, none⟩
    .ok (Client.seriesPage (.ofNodes (chunk size series page.toNat) (some info) page pageSize))
  | .media id => .ok ((media id).map Client.listed)

theorem countsFromOne_fromOne (library : Text) (size : Nat) (series : List Series) (media : Text → List Medium) :
    (fromOne size series media).CountsFromOne library size series media := by
  constructor
  · intro p _ _
    exact ⟨_, rfl, rfl, by simp, rfl⟩
  · intro s _
    rfl

/-- The pages as the survey sees them. -/
theorem CountsFromOne.idPage {c : Catalog} {library : Text} {size : Nat} {series : List Series}
    {media : Text → List Medium} (h : c.CountsFromOne library size series media) {p : Nat} (hp : 1 ≤ p)
    (hle : p ≤ pageCount size series.length) :
    c (.seriesPage library p size) = .ok (Server.idPage size (series.map (·.id)) p) := by
  obtain ⟨info, htotal, hcurrent, hone, hpage⟩ := h.page p hp hle
  rw [hpage, seriesPage_ofNodes hp htotal hcurrent hone, map_chunk, Server.idPage, List.length_map]

end Catalog

namespace Enumeration

open Server

/-- **A server that counts from one is read completely.** Whatever the size of a page and the number of series: the
pages are asked for from the first to the last, once each and in order, and so are the media of each series, after its
page; the snapshot has the series in the order of the listing and holds the media of all of them. -/
theorem complete_of_countsFromOne {c : Catalog} {library : Text} {size : Nat} {series : List Series}
    {media : Text → List Medium} (hsize : 1 ≤ size) (hids : (series.map (·.id)).Nodup)
    (h : c.CountsFromOne library size series media) :
    let total := pageCount size series.length
    ∃ asked snapshot,
      (∀ more, (start library).run size c (total + series.length + more) = ⟨asked, some (.ok snapshot)⟩) ∧
      asked = (List.range' 1 total).flatMap (fun p : Nat =>
        .seriesPage library p size :: (chunk size series p).map fun s => .media s.id) ∧
      asked.filterMap Query.page? = (List.range' 1 total).map (fun p : Nat => (p : Int)) ∧
      asked.filterMap Query.series? = series.map (·.id) ∧
      snapshot.seriesIds = series.map (·.id) ∧
      ∀ id, snapshot.holds id = true ↔ ∃ s ∈ series, ∃ m ∈ media s.id, m.id = id := by
  intro total
  let ps := idPages size (series.map (·.id))
  have htotal : pageCount size (series.map (·.id)).length = total := by rw [List.length_map]
  have hpages : ∀ q ∈ ps, c (.seriesPage library q.1 size) = .ok q.2 := by
    intro q hq
    obtain ⟨hfirst, hlast, hpage⟩ := of_mem_idPages hq
    rw [hpage]
    exact h.idPage hfirst (hlast.trans_eq htotal)
  have hall : ps.flatMap (·.2.series) = series.map (·.id) := flatMap_idPages hsize _
  have hmedia : ∀ q ∈ ps, ∀ id ∈ q.2.series, c (.media id) = .ok ((media id).map Client.listed) := by
    intro q hq id hid
    have hknown : id ∈ series.map (·.id) := by
      rw [← hall]
      exact List.mem_flatMap.mpr ⟨q, hq, hid⟩
    obtain ⟨s, hs, rfl⟩ := List.mem_map.mp hknown
    exact h.media s hs
  have hfuel : (ps.flatMap (Query.ofPage library size)).length = total + series.length := by
    rw [Query.length_flatMap_ofPage, hall, length_idPages, htotal, List.length_map]
  have hrun : ∀ more, (start library).run size c (total + series.length + more) =
      ⟨ps.flatMap (Query.ofPage library size),
        some (.ok (gather library (fun id => (media id).map Client.listed) .empty (series.map (·.id))))⟩ := by
    intro more
    rw [← hfuel, ← hall]
    exact run_of_turned (turned_idPages hsize _) hpages hmedia .empty more
  refine ⟨_, _, hrun, ?_, ?_, ?_, ?_, ?_⟩
  · show (idPages size (series.map (·.id))).flatMap (Query.ofPage library size) = _
    rw [idPages, List.flatMap_map, htotal]
    refine List.flatMap_congr fun p _ => ?_
    rw [Query.ofPage, idPage, ← map_chunk, List.map_map]
    rfl
  · rw [Query.flatMap_ofPage_page?]
    show (idPages size (series.map (·.id))).map (fun q => (q.1 : Int)) = _
    rw [idPages, List.map_map, htotal]
    rfl
  · rw [Query.flatMap_ofPage_series?, hall]
  · rw [seriesIds_gather hids]
    rfl
  · intro id
    rw [holds_gather]
    simp [Client.listed, Snapshot.holds, Snapshot.empty, Media.has]

/-- Three series on two pages. -/
theorem complete_of_countsFromOne_of_two_pages :
    let series := ["s", "t", "u"].map Series.bare
    let media := fun id => [Medium.bare id id]
    let c := Catalog.fromOne 2 series media
    (1 ≤ 2 ∧ (series.map (·.id)).Nodup ∧ c.CountsFromOne "l" 2 series media) ∧
      ∃ asked snapshot, (start "l").run 2 c 5 = ⟨asked, some (.ok snapshot)⟩ ∧
        asked.filterMap Query.page? = [1, 2] ∧ asked.filterMap Query.series? = ["s", "t", "u"] ∧
        snapshot.seriesIds = ["s", "t", "u"] ∧ snapshot.holds "u" = true := by
  intro series media c
  have hids : (series.map (·.id)).Nodup := by decide
  have hserves : c.CountsFromOne "l" 2 series media := Catalog.countsFromOne_fromOne "l" 2 series media
  obtain ⟨asked, snapshot, hrun, -, hpages, hseries, hfound, hmedia⟩ :=
    complete_of_countsFromOne (by decide) hids hserves
  have hheld : snapshot.holds "u" = true :=
    (hmedia "u").mpr ⟨Series.bare "u", by simp [series], Medium.bare "u" "u", by simp [media, Series.bare], rfl⟩
  have hfuel : pageCount 2 series.length + series.length + 0 = 5 := by decide
  have hrun := hrun 0
  rw [hfuel] at hrun
  exact ⟨⟨by decide, hids, hserves⟩, asked, snapshot, hrun, hpages.trans (by decide), hseries, hfound, hheld⟩

end Enumeration

end MediaWatch
