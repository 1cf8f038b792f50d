import MediaWatch.Library.Poll
import MediaWatch.Proofs.Library.Reading

/-!
# The course of a sweep

`Sweep.carry` takes a sweep through a list of answers, one for each of its questions, as far as they reach. A sweep reads
one library after the other: what it does with the library at hand is decided by the reading of that library alone
(`Sweep.carry_of_read_none`, `Sweep.carry_of_read`), so that facts about sweeps can be proved by induction on the
libraries that are left.
-/

namespace MediaWatch

/-- How far a sweep has come. -/
structure Course where
  /-- What came of the libraries that were read to their end, in order. -/
  read : List (Text × Except Text Snapshot)
  /-- The changes that were handed over, in order. -/
  changes : List Changes
  store : Store
  /-- The question at which the answers ran out, unless the sweep is over. -/
  left : Option Sweep

namespace Course

/-- A sweep that is over. -/
def ended (store : Store) : Course := ⟨[], [], store, none⟩

/-- A sweep that has read and handed over something before what follows. -/
def after (read : List (Text × Except Text Snapshot)) (changes : List Changes) (c : Course) : Course :=
  { c with read := read ++ c.read, changes := changes ++ c.changes }

/-- What came of a library. -/
def readings (library : Text) (c : Course) : List (Except Text Snapshot) :=
  (c.read.filter (·.1 = library)).map (·.2)

/-- The snapshots of a library. -/
def snapshots (library : Text) (c : Course) : List Snapshot := (c.readings library).filterMap (·.toOption)

/-- The changes of a library that were handed over. -/
def reports (library : Text) (c : Course) : List Changes := c.changes.filter (·.libraryId = library)

end Course

/-! ## After a reading -/

/-- The changes that are handed over when a library was read, given its stored snapshot. -/
def Detector.report (d : Detector) (library : Text) (stored : Option Snapshot) (current : Snapshot) : Changes :=
  match stored with
  | none => .none library
  | some previous => .between d.reportRemoved library previous current

theorem Detector.libraryId_report (d : Detector) (library : Text) (stored : Option Snapshot) (current : Snapshot) :
    (d.report library stored current).libraryId = library := by
  cases stored <;> rfl

/-- What is handed over after a reading. -/
def Detector.handed (d : Detector) (library : Text) (stored : Option Snapshot) : Except Text Snapshot → List Changes
  | .error _ => []
  | .ok current => [d.report library stored current]

/-- What is handed over of one library is not about another. -/
theorem Detector.libraryId_of_handed {d : Detector} {library : Text} {stored : Option Snapshot}
    {r : Except Text Snapshot} {changes : Changes} (h : changes ∈ d.handed library stored r) :
    changes.libraryId = library := by
  cases r with
  | error reason => cases h
  | ok current => rw [List.mem_singleton.mp h, d.libraryId_report]

namespace Store

/-- The store after a reading: what was read is kept, and a failure changes nothing. -/
def settle (library : Text) (store : Store) : Except Text Snapshot → Store
  | .error _ => store
  | .ok current => store.replace library current

theorem get?_settle_self (library : Text) (store : Store) (r : Except Text Snapshot) :
    (store.settle library r).get? library = (r.toOption <|> store.get? library) := by
  cases r with
  | error reason => rfl
  | ok current => exact get?_replace_self library current store

theorem get?_settle_of_ne {library other : Text} (h : other ≠ library) (store : Store) (r : Except Text Snapshot) :
    (store.settle library r).get? other = store.get? other := by
  cases r with
  | error reason => rfl
  | ok current => exact get?_replace_of_ne h current store

theorem record_eq (d : Detector) (library : Text) (current : Snapshot) (store : Store) :
    (store.record d.reportRemoved library current).1 = store.settle library (.ok current) ∧
      [(store.record d.reportRemoved library current).2.1] = d.handed library (store.get? library) (.ok current) := by
  unfold Store.record
  cases h : Store.get? library store <;> exact ⟨rfl, rfl⟩

end Store

/-! ## Carrying a sweep on -/

namespace Sweep

variable (d : Detector)

/-- What an answer makes of the library at hand: its snapshot or the reason why there is none, or nothing if there is
more to be asked. -/
def ending : (s : Sweep) → Except Text (s.query d).Reply → List (Text × Except Text Snapshot)
  | .listing, _ => []
  | .reading e _, .error reason => [(e.library, .error reason)]
  | .reading e _, .ok reply =>
    match e.step d.pageSize reply with
    | .ask _ => []
    | .done snapshot => [(e.library, .ok snapshot)]

/-- Takes a sweep through the given answers. -/
def carry : List Catalog → Store → Sweep → Course
  | [], store, s => ⟨[], [], store, some s⟩
  | c :: later, store, s =>
    let answer := c (s.query d)
    let o := s.step d store answer
    match o.progress with
    | .ask s' => (carry later o.store s').after (s.ending d answer) []
    | .done => (Course.ended o.store).after (s.ending d answer) []
    | .report changes rest =>
      match next rest with
      | .ask s' => (carry later o.store s').after (s.ending d answer) [changes]
      | _ => (Course.ended o.store).after (s.ending d answer) [changes]

/-- Takes a sweep through the libraries that it has left. -/
def carryAll (answers : List Catalog) (store : Store) : List Text → Course
  | [] => .ended store
  | library :: rest => carry d answers store (.reading (.start library) rest)

/-! ## One answer -/

theorem carry_listing_error {c : Catalog} (later : List Catalog) (store : Store) {reason : Text}
    (h : c .libraries = .error reason) : carry d (c :: later) store .listing = .ended store := by
  rw [carry]
  simp only [query, h, step, ending]
  rfl

/-- The libraries are listed. -/
theorem carry_listing_ok {c : Catalog} (later : List Catalog) (store : Store) {libraries : List Text}
    (h : c .libraries = .ok libraries) :
    carry d (c :: later) store .listing = carryAll d later (Store.retain libraries store) libraries := by
  rw [carry]
  simp only [query, h, step, ending]
  cases libraries <;> rfl

section Answer

variable {c : Catalog} {e : Enumeration} (later : List Catalog) (store : Store) (rest : List Text)

theorem carry_error {reason : Text} (h : c (e.query d.pageSize) = .error reason) :
    carry d (c :: later) store (.reading e rest) =
      (carryAll d later (store.settle e.library (.error reason)) rest).after [(e.library, .error reason)]
        (d.handed e.library (store.get? e.library) (.error reason)) := by
  rw [carry]
  simp only [query, h, step, ending]
  cases rest <;> rfl

theorem carry_ask {reply : (e.query d.pageSize).Reply} {e' : Enumeration} (h : c (e.query d.pageSize) = .ok reply)
    (hs : e.step d.pageSize reply = .ask e') :
    carry d (c :: later) store (.reading e rest) = carry d later store (.reading e' rest) := by
  rw [carry]
  simp only [query, h, step, hs, ending]
  rfl

theorem carry_done {reply : (e.query d.pageSize).Reply} {snapshot : Snapshot}
    (h : c (e.query d.pageSize) = .ok reply) (hs : e.step d.pageSize reply = .done snapshot) :
    carry d (c :: later) store (.reading e rest) =
      (carryAll d later (store.settle e.library (.ok snapshot)) rest).after [(e.library, .ok snapshot)]
        (d.handed e.library (store.get? e.library) (.ok snapshot)) := by
  rw [carry, ← (Store.record_eq d e.library snapshot store).1, ← (Store.record_eq d e.library snapshot store).2]
  simp only [query, h, step, hs, ending]
  cases rest <;> rfl

end Answer

/-! ## The library at hand -/

section AtHand

variable {answers : List Catalog} {e : Enumeration} (store : Store) (rest : List Text)

/-- As long as the library at hand is read, nothing is stored or handed over. -/
theorem carry_of_read_none (h : e.read d.pageSize answers = none) :
    ∃ s, carry d answers store (.reading e rest) = ⟨[], [], store, some s⟩ := by
  induction answers generalizing e with
  | nil => exact ⟨_, rfl⟩
  | cons c later ih =>
    rw [Enumeration.read] at h
    split at h
    · cases h
    · rename_i reply hc
      split at h
      · cases h
      · rename_i e' he
        rw [carry_ask d later store rest hc he]
        exact ih h

/-- What becomes of a library is decided by its own reading. -/
theorem carry_of_read {later : List Catalog} {r : Except Text Snapshot}
    (h : e.read d.pageSize answers = some (r, later)) :
    carry d answers store (.reading e rest) =
      (carryAll d later (store.settle e.library r) rest).after [(e.library, r)]
        (d.handed e.library (store.get? e.library) r) := by
  induction answers generalizing e with
  | nil => cases h
  | cons c answers ih =>
    rw [Enumeration.read] at h
    split at h
    · rename_i hc
      cases h
      exact carry_error d _ store rest hc
    · rename_i reply hc
      split at h
      · rename_i hd
        cases h
        exact carry_done d _ store rest hc hd
      · rename_i e' he
        rw [carry_ask d _ store rest hc he, ih h, Enumeration.library_of_ask he]

end AtHand

/-- All that can become of the first of the libraries that are left: the answers run out, or its reading ends. -/
theorem carryAll_cons (answers : List Catalog) (store : Store) (library : Text) (rest : List Text) :
    (∃ s, carryAll d answers store (library :: rest) = ⟨[], [], store, some s⟩) ∨
    ∃ r later, (∀ current, r = .ok current → current.Sound) ∧ carryAll d answers store (library :: rest) =
      (carryAll d later (store.settle library r) rest).after [(library, r)]
        (d.handed library (store.get? library) r) := by
  cases hread : (Enumeration.start library).read d.pageSize answers with
  | none => exact Or.inl (carry_of_read_none d store rest hread)
  | some result =>
    obtain ⟨r, later⟩ := result
    refine Or.inr ⟨r, later, fun current hc => ?_, carry_of_read d store rest hread⟩
    rw [hc] at hread
    exact Enumeration.read_start_sound hread

/-- On a server that does not change, the course is that of `Sweep.run`. -/
theorem run_eq_carry (catalog : Catalog) (n : Nat) (store : Store) (s : Sweep) :
    (run d catalog false n store s).store = (carry d (List.replicate n catalog) store s).store ∧
      (run d catalog false n store s).changes = (carry d (List.replicate n catalog) store s).changes := by
  induction n generalizing store s with
  | zero => exact ⟨rfl, rfl⟩
  | succ n ih =>
    rw [run, List.replicate_succ, carry]
    obtain ⟨store', notices, progress⟩ := s.step d store (catalog (s.query d))
    cases progress with
    | ask s' => exact ih store' s'
    | done => exact ⟨rfl, rfl⟩
    | report changes rest =>
      dsimp only
      cases next rest with
      | ask s' =>
        obtain ⟨hstore, hchanges⟩ := ih store' s'
        exact ⟨hstore, congrArg (changes :: ·) hchanges⟩
      | report changes rest => exact ⟨rfl, rfl⟩
      | done => exact ⟨rfl, rfl⟩

end Sweep

/-! ## Two servers -/

namespace Catalog

/-- A server of libraries with one series each, which holds the given media. -/
def ofMedia (libraries ids : List Text) : Catalog
  | .libraries => .ok libraries
  | .seriesPage .. => .ok ⟨["s"], false, none⟩
  | .media _ => .ok (ids.map (⟨·, "s", none⟩))

/-- The same server when it lists no media. -/
def mute (libraries : List Text) : Catalog
  | .libraries => .ok libraries
  | .seriesPage .. => .ok ⟨["s"], false, none⟩
  | .media _ => .error "mute"

end Catalog

end MediaWatch
