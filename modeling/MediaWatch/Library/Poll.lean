import MediaWatch.Library.Sweep

/-!
# Polling a catalog

A catalog answers at once, so that a library can be read (`Enumeration.run`) and a sweep carried out (`Sweep.run`) in
one go. A catalog may go on announcing pages for ever; the number of questions is bounded by the first argument.
-/

namespace MediaWatch

/-! ## One library -/

/-- What reading a library comes to. -/
structure Reading where
  /-- The questions that were asked. -/
  asked : List Query
  /-- The snapshot, or the reason why there is none; nothing if there were too many questions. -/
  result : Option (Except Text Snapshot)

/-- Reads a library to its end. -/
def Enumeration.run (pageSize : Int) (catalog : Catalog) : Nat → Enumeration → Reading
  | 0, _ => ⟨[], none⟩
  | n + 1, e =>
    let q := e.query pageSize
    match catalog q with
    | .error reason => ⟨[q], some (.error reason)⟩
    | .ok reply =>
      match e.step pageSize reply with
      | .done snapshot => ⟨[q], some (.ok snapshot)⟩
      | .ask e =>
        let later := Enumeration.run pageSize catalog n e
        ⟨q :: later.asked, later.result⟩

/-! ## All libraries -/

/-- What a sweep comes to. -/
structure Poll where
  store : Store
  asked : List Query
  notices : List Notice
  changes : List Changes

namespace Poll

/-- A sweep that is over. -/
def finished (store : Store) : Poll := ⟨store, [], [], []⟩

/-- A sweep that has asked a question and reported something before what follows. -/
def before (q : Query) (notices : List Notice) (changes : List Changes) (p : Poll) : Poll :=
  { p with asked := q :: p.asked, notices := notices ++ p.notices, changes := changes ++ p.changes }

end Poll

/-- Carries out a sweep, either to its end or, if `once`, to the first changes that it hands over. -/
def Sweep.run (d : Detector) (catalog : Catalog) (once : Bool) : Nat → Store → Sweep → Poll
  | 0, store, _ => .finished store
  | n + 1, store, s =>
    let q := s.query d
    let o := s.step d store (catalog q)
    match o.progress with
    | .ask s => (Sweep.run d catalog once n o.store s).before q o.notices []
    | .done => (Poll.finished o.store).before q o.notices []
    | .report changes rest =>
      match Sweep.next rest, once with
      | .ask s, false => (Sweep.run d catalog once n o.store s).before q o.notices [changes]
      | _, _ => (Poll.finished o.store).before q o.notices [changes]

end MediaWatch
