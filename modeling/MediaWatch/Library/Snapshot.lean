import MediaWatch.Event

/-!
# Snapshots

A `Snapshot` is what a library held when it was last read in full: its media, one entry for each id in order of first
appearance (`Media.put`, `Media.keys_put`), and the ids of its series. `Store` keeps the latest snapshot of each
library: replacing one changes no other (`Store.get?_replace_of_ne`), and retaining drops those of other libraries
(`Store.get?_retain`).
-/

namespace MediaWatch

/-- The media of a library by id, in order of first appearance. -/
abbrev Media := List (Text × BookEvent)

namespace Media

/-- Records a medium: a known id keeps its place and gets the new entry. -/
def put (id : Text) (e : BookEvent) : Media → Media
  | [] => [(id, e)]
  | (k, x) :: rest => if k = id then (k, e) :: rest else (k, x) :: put id e rest

/-- Whether there is a medium with the given id. -/
def has (id : Text) (media : Media) : Bool := media.any (·.1 == id)

@[simp] theorem has_put (id other : Text) (e : BookEvent) (media : Media) :
    has other (put id e media) = (id == other || has other media) := by
  induction media with
  | nil => simp [put, has]
  | cons entry rest ih =>
    by_cases h : entry.1 = id
    · simp [put, has, h]
    · simp only [has] at ih
      simp [put, has, h, ih, Bool.or_left_comm]

/-- The ids of the media stand in order of first appearance. -/
theorem keys_put (id : Text) (e : BookEvent) (media : Media) :
    (put id e media).map (·.1) = if has id media then media.map (·.1) else media.map (·.1) ++ [id] := by
  induction media with
  | nil => simp [put, has]
  | cons entry rest ih =>
    by_cases h : entry.1 = id
    · simp [put, has, h]
    · simp only [has] at ih
      by_cases hr : rest.any (·.1 == id) <;> simp_all [put, has]

end Media

/-- What a library holds. -/
structure Snapshot where
  media : Media
  seriesIds : List Text
  deriving Repr, DecidableEq

namespace Snapshot

def empty : Snapshot := ⟨[], []⟩

/-- Records a series; one that is known changes nothing. -/
def addSeries (id : Text) (s : Snapshot) : Snapshot :=
  if s.seriesIds.contains id then s else { s with seriesIds := s.seriesIds ++ [id] }

/-- Records a medium. -/
def addMedium (id : Text) (e : BookEvent) (s : Snapshot) : Snapshot := { s with media := Media.put id e s.media }

/-- Texts in ascending order. -/
def ascending (texts : List Text) : List Text := texts.mergeSort fun a b => !(b < a)

end Snapshot

/-! ## Stores -/

/-- The snapshots of libraries by id, in order of first appearance. -/
abbrev Store := List (Text × Snapshot)

namespace Store

/-- The snapshot of a library. -/
def get? (library : Text) : Store → Option Snapshot
  | [] => none
  | (k, s) :: rest => if k = library then some s else get? library rest

/-- Sets the snapshot of a library. -/
def replace (library : Text) (snapshot : Snapshot) : Store → Store
  | [] => [(library, snapshot)]
  | (k, s) :: rest => if k = library then (k, snapshot) :: rest else (k, s) :: replace library snapshot rest

/-- Keeps the snapshots of the given libraries only. -/
def retain (libraries : List Text) (store : Store) : Store := store.filter fun entry => libraries.contains entry.1

@[simp] theorem get?_replace_self (library : Text) (snapshot : Snapshot) (store : Store) :
    get? library (replace library snapshot store) = some snapshot := by
  induction store with
  | nil => simp [replace, get?]
  | cons entry rest ih =>
    by_cases h : entry.1 = library
    · simp [replace, get?, h]
    · simp [replace, get?, h, ih]

theorem get?_replace_of_ne {library other : Text} (h : other ≠ library) (snapshot : Snapshot) (store : Store) :
    get? other (replace library snapshot store) = get? other store := by
  induction store with
  | nil => simp [replace, get?, h.symm]
  | cons entry rest ih =>
    by_cases hl : entry.1 = library
    · simp [replace, get?, hl, h.symm]
    · simp [replace, get?, hl, ih]

@[simp] theorem get?_retain (libraries : List Text) (library : Text) (store : Store) :
    get? library (retain libraries store) = if library ∈ libraries then get? library store else none := by
  induction store with
  | nil => simp [retain, get?]
  | cons entry rest ih =>
    simp only [retain] at ih
    by_cases hk : entry.1 = library
    · by_cases hm : library ∈ libraries <;> simp_all [retain, get?]
    · by_cases hm : entry.1 ∈ libraries <;> simp_all [retain, get?]

/-- The libraries whose snapshots `retain` drops. -/
def gone (libraries : List Text) (store : Store) : List Text :=
  (store.filter fun entry => !libraries.contains entry.1).map (·.1)

end Store

end MediaWatch
