import Mathlib.Data.List.Basic
import MediaWatch.Proofs.Library.Course

/-!
# Libraries in a sweep

A sweep over different libraries treats each of them as if it were alone (`Sweep.carry_eq_alone`): given the answers to the
questions that are asked while each library is read, the sweep ends; it stores the libraries that could be read, leaves
what is kept of those that could not as it is, drops what is kept of any other, and hands over what
`Detector.detect` finds for each library on the store from before the sweep. A failed listing changes nothing.
-/

namespace MediaWatch

/-- Checks one library: what is handed over if the answers take its reading to its end. -/
def Detector.detect (d : Detector) (store : Store) (answers : List Catalog) (library : Text) : Option Changes :=
  match (Enumeration.start library).read d.pageSize answers with
  | some (.ok snapshot, _) => some (store.record d.reportRemoved library snapshot).2.1
  | _ => none

/-- More answers than a reading needs are left. -/
theorem Enumeration.read_append {pageSize : Int} {answers later : List Catalog} {e : Enumeration}
    {r : Except Text Snapshot} (h : e.read pageSize answers = some (r, later)) (more : List Catalog) :
    e.read pageSize (answers ++ more) = some (r, later ++ more) := by
  induction answers generalizing e with
  | nil => cases h
  | cons c answers ih =>
    rw [List.cons_append, read]
    rw [read] at h
    split at h
    · cases h
      rfl
    · split at h
      · cases h
        rfl
      · exact ih h

/-- The libraries of a store after a reading. -/
theorem Store.mem_settle {library : Text} {r : Except Text Snapshot} {entry : Text × Snapshot} :
    ∀ {store : Store}, entry ∈ store.settle library r → entry.1 = library ∨ entry ∈ store := by
  cases r with
  | error reason => exact fun h => Or.inr h
  | ok current =>
    intro store h
    show entry.1 = library ∨ entry ∈ store
    rw [settle] at h
    induction store with
    | nil => exact Or.inl (by rw [List.mem_singleton.mp h])
    | cons first rest ih =>
      by_cases hk : first.1 = library
      · rw [replace, if_pos hk] at h
        rcases List.mem_cons.mp h with rfl | h
        · exact Or.inl hk
        · exact Or.inr (List.mem_cons_of_mem _ h)
      · rw [replace, if_neg hk] at h
        rcases List.mem_cons.mp h with rfl | h
        · exact Or.inr List.mem_cons_self
        · exact (ih h).imp_right (List.mem_cons_of_mem _)

namespace Sweep

variable {d : Detector} {answers : Text → List Catalog} {result : Text → Except Text Snapshot}

/-- The libraries that a sweep has left are read one by one, and none has an effect on what is kept or handed over of
another. -/
theorem carryAll_flatMap {libraries : List Text} (hd : libraries.Nodup)
    (hread : ∀ library ∈ libraries,
      (Enumeration.start library).read d.pageSize (answers library) = some (result library, [])) (store : Store) :
    let c := carryAll d (libraries.flatMap answers) store libraries
    c.left = none ∧
      (∀ library, c.store.get? library =
        if library ∈ libraries then (result library).toOption <|> store.get? library else store.get? library) ∧
      (∀ entry ∈ c.store, entry.1 ∈ libraries ∨ entry ∈ store) ∧
      c.changes = libraries.flatMap fun library => d.handed library (store.get? library) (result library) := by
  induction libraries generalizing store with
  | nil => exact ⟨rfl, by simp [carryAll, Course.ended], fun _ h => Or.inr h, rfl⟩
  | cons first rest ih =>
    obtain ⟨hfirst, hrest⟩ := List.nodup_cons.mp hd
    have hr := Enumeration.read_append (hread first List.mem_cons_self) (rest.flatMap answers)
    have hc := carry_of_read d store rest hr
    obtain ⟨hleft, hstore, hkeys, hchanges⟩ :=
      ih hrest (fun library hm => hread library (List.mem_cons_of_mem _ hm)) (store.settle first (result first))
    intro c
    replace hc : c = (carryAll d (rest.flatMap answers) (store.settle first (result first)) rest).after
        [(first, result first)] (d.handed first (store.get? first) (result first)) := hc
    rw [hc]
    refine ⟨hleft, fun library => (hstore library).trans ?_, fun entry he => ?_, ?_⟩
    · by_cases hl : library = first
      · subst hl
        simp [hfirst, Store.get?_settle_self]
      · simp [hl, Store.get?_settle_of_ne hl]
    · rcases hkeys entry he with h | h
      · exact Or.inl (List.mem_cons_of_mem _ h)
      · rcases Store.mem_settle h with h | h
        · exact Or.inl (by rw [h]; exact List.mem_cons_self)
        · exact Or.inr h
    · have hsame : ∀ library ∈ rest,
          d.handed library ((store.settle first (result first)).get? library) (result library) =
            d.handed library (store.get? library) (result library) := fun library hm => by
        rw [Store.get?_settle_of_ne (ne_of_mem_of_not_mem hm hfirst)]
      rw [List.flatMap_cons, ← List.flatMap_congr hsame, ← hchanges]
      rfl

/-- What is found of a library alone is what its reading comes to. -/
theorem detect_toList (store : Store) {library : Text} {answers : List Catalog} {r : Except Text Snapshot}
    (h : (Enumeration.start library).read d.pageSize answers = some (r, [])) :
    (d.detect store answers library).toList = d.handed library (store.get? library) r := by
  rw [Detector.detect, h]
  cases r with
  | error reason => rfl
  | ok current => exact (Store.record_eq d library current store).2

/-- What is handed over of different libraries can be told apart. -/
theorem filter_handed {libraries : List Text} (hd : libraries.Nodup) {library : Text} (hm : library ∈ libraries)
    (stored : Text → Option Snapshot) :
    (libraries.flatMap fun l => d.handed l (stored l) (result l)).filter (·.libraryId = library) =
      d.handed library (stored library) (result library) := by
  have hself : ∀ l, (d.handed l (stored l) (result l)).filter (·.libraryId = library) =
      if l = library then d.handed l (stored l) (result l) else [] := fun l => by
    split
    · rename_i hl
      exact List.filter_eq_self.mpr fun x hx => by simp [Detector.libraryId_of_handed hx, hl]
    · rename_i hl
      exact List.filter_eq_nil_iff.mpr fun x hx => by simp [Detector.libraryId_of_handed hx, hl]
  induction libraries with
  | nil => cases hm
  | cons first rest ih =>
    obtain ⟨hfirst, hrest⟩ := List.nodup_cons.mp hd
    rw [List.flatMap_cons, List.filter_append, hself]
    by_cases hl : first = library
    · subst hl
      have hnil : (rest.flatMap fun l => d.handed l (stored l) (result l)).filter (·.libraryId = first) = [] := by
        refine List.filter_eq_nil_iff.mpr fun x hx => ?_
        obtain ⟨l, hl, hx⟩ := List.mem_flatMap.mp hx
        simpa [Detector.libraryId_of_handed hx] using ne_of_mem_of_not_mem hl hfirst
      rw [if_pos rfl, hnil, List.append_nil]
    · rw [if_neg hl, List.nil_append]
      exact ih hrest ((List.mem_cons.mp hm).resolve_left (Ne.symm hl))

/-- **Libraries are isolated.** A listing that fails leaves the store as it is and hands over nothing. Otherwise the sweep
ends, given the answers to what is asked while each of the listed libraries is read; it keeps what was read, what was
kept before of libraries that could not be read, and nothing else; and it hands over what is found for each library
alone on the store from before, in the order of the listing. -/
theorem carry_eq_alone (d : Detector) (store : Store) (listing : Catalog) (answers : Text → List Catalog)
    (result : Text → Except Text Snapshot)
    (hread : ∀ libraries, listing .libraries = .ok libraries → libraries.Nodup ∧ ∀ library ∈ libraries,
      (Enumeration.start library).read d.pageSize (answers library) = some (result library, [])) :
    (∀ reason, listing .libraries = .error reason → carry d [listing] store .listing = .ended store) ∧
    ∀ libraries, listing .libraries = .ok libraries →
      let c := carry d (listing :: libraries.flatMap answers) store .listing
      c.left = none ∧
        (∀ entry ∈ c.store, entry.1 ∈ libraries) ∧
        (∀ library ∈ libraries, c.store.get? library =
          match result library with
          | .error _ => store.get? library
          | .ok snapshot => some snapshot) ∧
        c.changes = libraries.filterMap (fun library => d.detect store (answers library) library) ∧
        ∀ library ∈ libraries, c.reports library = (d.detect store (answers library) library).toList := by
  refine ⟨fun reason h => carry_listing_error d [] store h, fun libraries h => ?_⟩
  obtain ⟨hd, hr⟩ := hread libraries h
  have hc := carry_listing_ok d (libraries.flatMap answers) store h
  obtain ⟨hleft, hstore, hkeys, hchanges⟩ := carryAll_flatMap hd hr (store.retain libraries)
  have hkept : ∀ library ∈ libraries, (store.retain libraries).get? library = store.get? library :=
    fun library hm => by rw [Store.get?_retain, if_pos hm]
  have halone : ∀ library ∈ libraries,
      d.handed library ((store.retain libraries).get? library) (result library) =
        (d.detect store (answers library) library).toList := fun library hm => by
    rw [hkept library hm, detect_toList store (hr library hm)]
  intro c
  replace hc : c = carryAll d (libraries.flatMap answers) (store.retain libraries) libraries := hc
  rw [hc]
  refine ⟨hleft, fun entry he => ?_, fun library hm => ?_, ?_, fun library hm => ?_⟩
  · rcases hkeys entry he with h | h
    · exact h
    · simpa [Store.retain] using (List.mem_filter.mp h).2
  · rw [hstore library, if_pos hm, hkept library hm]
    cases result library <;> rfl
  · rw [hchanges, List.flatMap_congr halone]
    exact List.filterMap_eq_flatMap_toList _ _ |>.symm
  · rw [Course.reports, hchanges, filter_handed hd hm, halone library hm]

/-- Of two listed libraries and one that is gone, one cannot be read. -/
theorem carry_eq_alone_of_outage :
    let store : Store := [("k", ⟨[("m", ⟨"k", "s", "m"⟩)], ["s"]⟩), ("l", .empty), ("x", .empty)]
    let libraries : List Text := ["k", "l"]
    let listing : Catalog := .ofMedia libraries []
    let answers := fun library : Text => List.replicate 2 (if library = "k" then .mute [] else .ofMedia [] ["n"])
    let c := carry ⟨10, false⟩ (listing :: libraries.flatMap answers) store .listing
    (libraries.Nodup ∧ (Enumeration.start "k").read 10 (answers "k") = some (.error "mute", []) ∧
      (Enumeration.start "l").read 10 (answers "l") = some (.ok ⟨[("n", ⟨"l", "s", "n"⟩)], ["s"]⟩, [])) ∧
    c.left = none ∧ (∀ entry ∈ c.store, entry.1 ∈ libraries) ∧ c.store.get? "k" = store.get? "k" ∧
      c.changes = [⟨"l", [⟨"l", "s", "n"⟩], []⟩] := by
  intro store libraries listing answers c
  have hk : (Enumeration.start "k").read 10 (answers "k") = some (.error "mute", []) := rfl
  have hl : (Enumeration.start "l").read 10 (answers "l") = some (.ok ⟨[("n", ⟨"l", "s", "n"⟩)], ["s"]⟩, []) := rfl
  have hd : libraries.Nodup := by decide
  obtain ⟨hleft, hkeys, hkept, hchanges, -⟩ :=
    (carry_eq_alone ⟨10, false⟩ store listing answers
      (fun library => if library = "k" then .error "mute" else .ok ⟨[("n", ⟨"l", "s", "n"⟩)], ["s"]⟩)
      fun _ h => by
        cases h
        refine ⟨hd, fun library hm => ?_⟩
        simp only [libraries, List.mem_cons, List.not_mem_nil, or_false] at hm
        rcases hm with rfl | rfl
        · exact hk
        · exact hl).2 libraries rfl
  exact ⟨⟨hd, hk, hl⟩, hleft, hkeys, hkept "k" List.mem_cons_self, hchanges.trans rfl⟩

end Sweep

end MediaWatch
