import MediaWatch.Proofs.Watch.Turns

/-!
# No gap

A watcher whose subscription is backed by sweeps tells its listeners of every medium that a library has got since it was
first read. The invariant (`Watcher.Kept`) ties the store to the last snapshot that was read of the library, and every new
medium of a snapshot to a call that a listener has had, or to the delivery at hand; each turn of the task keeps it
(`Watcher.Kept.turn`). With the order of deeds that makes `Watcher.no_gap`.
-/

namespace MediaWatch

/-! ## What was read and told -/

/-- The snapshot of a library that a deed has read. -/
def Deed.snapshot? (library : Text) : Deed → Option Snapshot
  | .read other (.ok s) => if other = library then some s else none
  | _ => none

/-- The snapshots of a library that were read, in order. -/
def snapshotsRead (library : Text) (ds : List Deed) : List Snapshot := ds.filterMap (·.snapshot? library)

theorem snapshotsRead_append (library : Text) (ds es : List Deed) :
    snapshotsRead library (ds ++ es) = snapshotsRead library ds ++ snapshotsRead library es := List.filterMap_append ..

/-- A library stays listed: once it was read, every list of the libraries has it. -/
def StaysListed (library : Text) (ds : List Deed) : Prop :=
  ∀ before libraries later, ds = before ++ .listed (.ok libraries) :: later → snapshotsRead library before ≠ [] →
    library ∈ libraries

theorem StaysListed.of_append {library : Text} {ds es : List Deed} (h : StaysListed library (ds ++ es)) :
    StaysListed library ds := by
  intro before libraries later hds hread
  exact h before libraries (later ++ es) (by rw [hds]; simp) hread

/-- A batch that tells of a medium. -/
def Tells (m : Text) (batch : List Event) : Prop := ∃ e : BookEvent, .book e ∈ batch ∧ e.bookId = m

/-- A listener was told of a medium: its hook for added books was called with a batch that tells of it, unless a listener
before it was called so and has taken the medium off the batch. -/
def Heard (i : Nat) (m : Text) (ds : List Deed) : Prop :=
  ∃ j batch left, .told j .booksAdded batch left ∈ ds ∧ Tells m batch ∧ (j = i ∨ j < i ∧ ¬ Tells m left)

theorem Heard.append_left {i : Nat} {m : Text} {ds : List Deed} (h : Heard i m ds) (es : List Deed) :
    Heard i m (ds ++ es) := by
  obtain ⟨j, batch, left, hmem, htells⟩ := h
  exact ⟨j, batch, left, List.mem_append_left _ hmem, htells⟩

theorem Heard.append_right {i : Nat} {m : Text} {es : List Deed} (ds : List Deed) (h : Heard i m es) :
    Heard i m (ds ++ es) := by
  obtain ⟨j, batch, left, hmem, htells⟩ := h
  exact ⟨j, batch, left, List.mem_append_right _ hmem, htells⟩

/-- A medium that a library did not have when it was first read. -/
def NewIn (m : Text) (s : Snapshot) (read : List Snapshot) : Prop :=
  s ∈ read ∧ s.holds m = true ∧ ∀ baseline, read.head? = some baseline → baseline.holds m = false

/-- So many listeners were told of all that is new in any snapshot of a library. -/
def AllTold (library : Text) (n : Nat) (ds : List Deed) : Prop :=
  ∀ s m, NewIn m s (snapshotsRead library ds) → ∀ i < n, Heard i m ds

/-- They were told before anything was done but reading and telling. -/
def ToldInTime (library : Text) (n : Nat) (ds : List Deed) : Prop :=
  ∀ before next after, ds = before ++ next :: after → next.isWork = false → AllTold library n before

/-- Deeds other than readings and calls of listeners tell nothing and ask for nothing to be told. -/
theorem AllTold.of_append {library : Text} {n : Nat} {ds es : List Deed} (h : AllTold library n (ds ++ es))
    (hes : ∀ d ∈ es, d.isWork = false) : AllTold library n ds := by
  have hread : snapshotsRead library es = [] := by
    refine List.filterMap_eq_nil_iff.mpr fun d hd => ?_
    have hd := hes d hd
    cases d <;> first | rfl | cases hd
  intro s m hnew i hi
  obtain ⟨j, batch, left, hmem, htells⟩ := h s m (by rw [snapshotsRead_append, hread, List.append_nil]; exact hnew) i hi
  rcases List.mem_append.mp hmem with hmem | hmem
  · exact ⟨j, batch, left, hmem, htells⟩
  · exact absurd (hes _ hmem) (by simp [Deed.isWork])

/-- A deed of two histories belongs to one of them. -/
theorem split_append {ds es before after : List Deed} {next : Deed} (h : ds ++ es = before ++ next :: after) :
    (∃ rest, ds = before ++ next :: rest) ∨ ∃ since, before = ds ++ since ∧ es = since ++ next :: after := by
  rcases List.append_eq_append_iff.mp h with ⟨since, hbefore, hes⟩ | ⟨rest, hds, hrest⟩
  · exact Or.inr ⟨since, hbefore, hes⟩
  · cases rest with
    | nil => exact Or.inr ⟨[], by rw [hds]; simp, hrest.symm⟩
    | cons d rest =>
      cases hrest
      exact Or.inl ⟨rest, hds⟩

theorem eq_nil_of_singleton {d next : Deed} {since rest : List Deed} (h : [d] = since ++ next :: rest) :
    since = [] ∧ next = d := by
  cases since with
  | nil => cases h; exact ⟨rfl, rfl⟩
  | cons _ _ => simp at h

variable {τ : Type}

/-- A delivery at hand that has yet to reach a listener with a medium. -/
def Position.Owes (i : Nat) (m : Text) : Position τ → Prop
  | .notifying d e =>
    (d.hook = .booksAdded ∧ d.listener ≤ i ∧ Tells m d.batch) ∨ ∃ batch, (.booksAdded, batch) ∈ e.batches ∧ Tells m batch
  | _ => False

namespace Watcher

/-- The store has the last snapshot of the library, and the listeners were told of all that is new in any, or are about
to be. -/
structure Kept (library : Text) (ds : List Deed) (w : Watcher τ) : Prop where
  stored : ∀ s, (snapshotsRead library ds).getLast? = some s → w.store.get? library = some s
  told : ∀ s m, NewIn m s (snapshotsRead library ds) → ∀ i < w.listeners.length, Heard i m ds ∨ w.position.Owes i m

variable {library : Text} {ds es : List Deed} {w w' : Watcher τ}

/-- Deeds that read no snapshot of the library keep what is told, if they keep what is stored and owed. -/
theorem Kept.quiet (h : Kept library ds w) (hread : snapshotsRead library es = [])
    (hstore : snapshotsRead library ds ≠ [] → w'.store.get? library = w.store.get? library)
    (hlisteners : w'.listeners = w.listeners)
    (howes : ∀ i m, i < w.listeners.length → w.position.Owes i m → Heard i m es ∨ w'.position.Owes i m) :
    Kept library (ds ++ es) w' := by
  have hsame : snapshotsRead library (ds ++ es) = snapshotsRead library ds := by
    rw [snapshotsRead_append, hread, List.append_nil]
  refine ⟨fun s hs => ?_, fun s m hnew i hi => ?_⟩
  · rw [hsame] at hs
    rw [hstore fun hnil => by rw [hnil] at hs; cases hs]
    exact h.stored s hs
  · rw [hsame] at hnew
    rw [hlisteners] at hi
    rcases h.told s m hnew i hi with hheard | howed
    · exact Or.inl (hheard.append_left es)
    · exact (howes i m hi howed).imp (Heard.append_right ds) id

/-- A snapshot that is read and stored keeps what is told, if what it adds to the last one is owed. -/
theorem Kept.read (h : Kept library ds w) (current : Snapshot) (hread : snapshotsRead library es = [current])
    (hstore : w'.store.get? library = some current) (hlisteners : w'.listeners = w.listeners)
    (hidle : ∀ i m, ¬ w.position.Owes i m)
    (hadded : ∀ previous, w.store.get? library = some previous → ∀ m, current.holds m = true →
      previous.holds m = false → ∀ i < w.listeners.length, w'.position.Owes i m) :
    Kept library (ds ++ es) w' := by
  have hsnaps : snapshotsRead library (ds ++ es) = snapshotsRead library ds ++ [current] := by
    rw [snapshotsRead_append, hread]
  have htold {s : Snapshot} {m : Text} (hnew : NewIn m s (snapshotsRead library ds)) {i : Nat}
      (hi : i < w.listeners.length) : Heard i m (ds ++ es) := by
    rcases h.told s m hnew i hi with hheard | howed
    · exact hheard.append_left es
    · exact absurd howed (hidle i m)
  refine ⟨fun s hs => ?_, fun s m hnew i hi => ?_⟩
  · rw [hsnaps, List.getLast?_concat] at hs
    cases hs
    exact hstore
  · rw [hlisteners] at hi
    rw [hsnaps] at hnew
    obtain ⟨hmem, hholds, hbaseline⟩ := hnew
    cases hlast : (snapshotsRead library ds).getLast? with
    | none =>
      -- the first snapshot is its own baseline
      have hnil : snapshotsRead library ds = [] := List.getLast?_eq_none_iff.mp hlast
      rw [hnil] at hmem hbaseline
      rw [List.mem_singleton.mp hmem, hbaseline current rfl] at hholds
      cases hholds
    | some previous =>
      have hprevious : previous ∈ snapshotsRead library ds := List.mem_of_getLast? hlast
      have hbaseline' (b : Snapshot) (hb : (snapshotsRead library ds).head? = some b) : b.holds m = false :=
        hbaseline b (by rw [List.head?_append, hb]; rfl)
      rcases List.mem_append.mp hmem with hmem | hmem
      · exact Or.inl (htold ⟨hmem, hholds, hbaseline'⟩ hi)
      · rw [List.mem_singleton.mp hmem] at hholds
        cases hknown : previous.holds m with
        | true => exact Or.inl (htold ⟨hprevious, hknown, hbaseline'⟩ hi)
        | false => exact Or.inr (hadded previous (h.stored previous hlast) m hholds hknown i hi)

theorem Kept.allTold (h : Kept library ds w) (hidle : ∀ i m, ¬ w.position.Owes i m) :
    AllTold library w.listeners.length ds :=
  fun s m hnew i hi => (h.told s m hnew i hi).resolve_right (hidle i m)

/-! ## Deliveries -/

theorem snapshotsRead_entering (library : Text) (p : Position τ) : snapshotsRead library p.entering = [] := by
  cases p with
  | querying s after => cases s <;> rfl
  | _ => rfl

theorem isWork_entering (p : Position τ) : ∀ d ∈ p.entering, d.isWork = false := by
  cases p with
  | querying s after => cases s <;> simp [Position.entering, Deed.isWork]
  | _ => simp [Position.entering, Deed.isWork]

/-- No delivery is at hand where a task comes to with a deed. -/
theorem entering_idle {p : Position τ} {since rest : List Deed} {next : Deed} (h : p.entering = since ++ next :: rest) :
    since = [] ∧ ∀ i m, ¬ p.Owes i m := by
  cases p with
  | notifying d e => simp [Position.entering] at h
  | sending frame => simp [Position.entering] at h
  | receiving => simp [Position.entering] at h
  | querying s after =>
    cases s with
    | listing => exact ⟨(eq_nil_of_singleton h).1, fun _ _ => id⟩
    | reading e later => simp [Position.entering] at h
  | _ => exact ⟨(eq_nil_of_singleton h).1, fun _ _ => id⟩

section Pursue

variable [Scalar τ] (now : τ) {i : Nat} {m : Text}

/-- A batch that is pursued is owed. -/
theorem pursue_owes (libraries : List Text) (a : After) {batches : List (Hook × List Event)} {w : Watcher τ}
    (hi : i < w.listeners.length) (h : ∃ batch, (.booksAdded, batch) ∈ batches ∧ Tells m batch) :
    (pursue now libraries a batches w).position.Owes i m := by
  obtain ⟨batch, hmem, htells⟩ := h
  induction batches generalizing w with
  | nil => cases hmem
  | cons b rest ih =>
    obtain ⟨hook, events⟩ := b
    unfold pursue
    split
    · rename_i hempty
      rcases List.mem_cons.mp hmem with heq | hmem
      · cases heq
        obtain ⟨e, he, -⟩ := htells
        rw [List.isEmpty_iff.mp hempty] at he
        cases he
      · exact ih hi hmem
    · have hsome : w.listeners.isEmpty = false := by
        cases hl : w.listeners with
        | nil => rw [hl] at hi; cases hi
        | cons _ _ => rfl
      simp only [hsome]
      rcases List.mem_cons.mp hmem with heq | hmem
      · cases heq
        exact Or.inl ⟨rfl, Nat.zero_le i, htells⟩
      · exact Or.inr ⟨batch, hmem, htells⟩

/-- What was owed before the call of a listener was told in it or is owed after it. -/
theorem notified_owes (o : Outcome) (left : List Event) {d : Delivery} {e : Errand} {w : Watcher τ}
    (hi : i < w.listeners.length) (h : (Position.notifying (τ := τ) d e).Owes i m) :
    Heard i m [.told d.listener d.hook d.batch left] ∨ (w.notified now o left d e).position.Owes i m := by
  -- after the outcome was noted
  have hnoted {v : Watcher τ} (hi : i < v.listeners.length) :
      Heard i m [.told d.listener d.hook d.batch left] ∨
        (if d.listener + 1 < v.listeners.length then
          v.goto (.notifying { d with batch := left, listener := d.listener + 1 } e)
        else pursue now e.libraries e.after e.batches v).position.Owes i m := by
    rcases h with ⟨hhook, hle, htells⟩ | hlater
    · by_cases hleft : d.listener < i ∧ Tells m left
      · -- the medium is handed on to the next listener
        rw [if_pos (by omega)]
        exact Or.inr (Or.inl ⟨hhook, hleft.1, hleft.2⟩)
      · refine Or.inl ⟨d.listener, d.batch, left, by rw [hhook]; exact List.mem_singleton_self _, htells, ?_⟩
        by_cases heq : d.listener = i
        · exact Or.inl heq
        · exact Or.inr ⟨by omega, fun ht => hleft ⟨by omega, ht⟩⟩
    · refine Or.inr ?_
      split
      · exact Or.inr hlater
      · exact pursue_owes now e.libraries e.after hi hlater
  cases o with
  | returned => exact hnoted hi
  | late => exact hnoted (v := w.say _) hi
  | failed => exact hnoted (v := w.say _) hi

end Pursue

/-! ## Readings -/

/-- What a snapshot adds to another is told. -/
theorem tells_added {previous current : Snapshot} {m : Text} (hs : current.Sound) (hm : current.holds m = true)
    (hnew : previous.holds m = false) : Tells m ((Changes.added previous current).map .book) := by
  obtain ⟨e, hmem, hid⟩ := hs.entry_of_holds hm
  refine ⟨e, List.mem_map_of_mem ?_, hid⟩
  refine List.mem_map.mpr ⟨(m, e), List.mem_filter.mpr ⟨hmem, ?_⟩, rfl⟩
  have hno : Media.has m previous.media = false := hnew
  simp [hno]

/-- The end of a reading stores the snapshot and hands its changes over. -/
theorem step_done {d : Detector} (store : Store) {e : Enumeration} (rest : List Text)
    {reply : (e.query d.pageSize).Reply} {snapshot : Snapshot} (hs : e.step d.pageSize reply = .done snapshot) :
    ((Sweep.reading e rest).step d store (.ok reply)).store = store.settle e.library (.ok snapshot) ∧
      ((Sweep.reading e rest).step d store (.ok reply)).progress =
        .report (d.report e.library (store.get? e.library) snapshot) rest := by
  obtain ⟨hstore, hchanges⟩ := Store.record_eq d e.library snapshot store
  simp only [Detector.handed, List.cons.injEq, and_true] at hchanges
  simp only [Sweep.step, hs]
  exact ⟨hstore, by rw [hchanges]⟩

theorem storing_of_ne {x : Stimulus} (hx : ∀ c, x ≠ .reply c) (w : Watcher τ) : w.storing x = w.store := by
  unfold storing
  split
  · exact absurd rfl (hx _)
  · rfl

theorem snapshotsRead_occasion {x : Stimulus} (hx : ∀ c, x ≠ .reply c) (w : Watcher τ) (library : Text) :
    snapshotsRead library (w.occasion x) = [] := by
  unfold occasion
  split
  · rfl
  · exact absurd rfl (hx _)
  · rfl
  · rfl
  · rfl

section Answers

variable [Scalar τ] {now : τ} {later : List Deed}

/-- What a snapshot adds to the stored one is owed when its reading has ended. -/
theorem answered_owes {e : Enumeration} {rest : List Text} (after : After)
    {reply : (e.query w.detector.pageSize).Reply} {snapshot previous : Snapshot}
    (hs : e.step w.detector.pageSize reply = .done snapshot) (hsound : snapshot.Sound)
    (hprevious : w.store.get? e.library = some previous) {m : Text} (hm : snapshot.holds m = true)
    (hnew : previous.holds m = false) {i : Nat} (hi : i < w.listeners.length) :
    (w.answered now (.reading e rest) after (.ok reply)).position.Owes i m := by
  have hprogress := (step_done w.store rest hs).2
  rw [hprevious] at hprogress
  simp only [answered, hprogress]
  refine pursue_owes now rest after ?_ ⟨_, List.mem_cons_self, tells_added hsound hm hnew⟩
  rw [listeners_sayAll]
  exact hi

/-- The end of a reading keeps what is told. -/
theorem Kept.done (h : Kept library ds w) (hf : w.basis.strategy.hasFallback = true) {e : Enumeration}
    {rest : List Text} {after : After} (hp : w.position = .querying (.reading e rest) after) (he : e.found.Sound)
    {reply : (e.query w.detector.pageSize).Reply} {snapshot : Snapshot}
    (hs : e.step w.detector.pageSize reply = .done snapshot) (hlater : snapshotsRead library later = []) :
    Kept library (ds ++ (.read e.library (.ok snapshot) :: later))
      (w.answered now (.reading e rest) after (.ok reply)) := by
  obtain ⟨hstep, hprogress⟩ := step_done w.store rest hs
  have hbasis := (follows_answered now hf (s := .reading e rest) (a := after) he (.ok reply)).basis
  rw [hstep] at hbasis
  have hstore := congrArg Basis.store hbasis
  have hlisteners := congrArg Basis.listeners hbasis
  have hidle (i : Nat) (m : Text) : ¬ w.position.Owes i m := by rw [hp]; exact id
  by_cases hlib : e.library = library
  · subst hlib
    refine h.read snapshot ?_ ?_ hlisteners hidle fun previous hprevious m hm hnew i hi => ?_
    · simp [snapshotsRead, Deed.snapshot?] at hlater ⊢
      exact hlater
    · exact (congrArg (Store.get? e.library) hstore).trans (Store.get?_replace_self _ _ _)
    · have hsound := Enumeration.sound_step he reply
      rw [hs] at hsound
      exact answered_owes after hs hsound hprevious hm hnew hi
  · refine h.quiet ?_ (fun _ => ?_) hlisteners fun i m _ howed => absurd howed (hidle i m)
    · simp [snapshotsRead, Deed.snapshot?, hlib] at hlater ⊢
      exact hlater
    · exact (congrArg (Store.get? library) hstore).trans (Store.get?_replace_of_ne (Ne.symm hlib) _ _)

/-- An answer keeps what is told. -/
theorem Kept.answered (h : Kept library ds w) (hb : w.Backed) {s : Sweep} {after : After}
    (hp : w.position = .querying s after) (answer : Except Text (s.query w.detector).Reply)
    (hlater : snapshotsRead library later = [])
    (hlisted : StaysListed library (ds ++ (s.deeds w.detector answer ++ later))) :
    Kept library (ds ++ (s.deeds w.detector answer ++ later)) (w.answered now s after answer) := by
  have hf := hb.fallback
  have hs := hb.sound
  rw [hp] at hs
  have hbasis := (follows_answered now hf hs answer).basis
  have hstore := congrArg Basis.store hbasis
  have hlisteners := congrArg Basis.listeners hbasis
  have hidle (i : Nat) (m : Text) : ¬ w.position.Owes i m := by rw [hp]; exact id
  cases s with
  | listing =>
    refine h.quiet ?_ (fun hread => ?_) hlisteners fun i m _ howed => absurd howed (hidle i m)
    · exact hlater
    · refine (congrArg (Store.get? library) hstore).trans ?_
      cases answer with
      | error reason => rfl
      | ok libraries =>
        refine (Store.get?_retain libraries library w.store).trans (if_pos ?_)
        exact hlisted ds libraries later rfl hread
  | reading e rest =>
    cases answer with
    | error reason =>
      refine h.quiet ?_ (fun _ => ?_) hlisteners fun i m _ howed => absurd howed (hidle i m)
      · exact hlater
      · exact congrArg (Store.get? library) hstore
    | ok reply =>
      cases hstep : e.step w.detector.pageSize reply with
      | ask e' =>
        have hdeeds : (Sweep.reading e rest).deeds w.detector (.ok reply) = [] := by
          simp only [Sweep.deeds, Sweep.ending, hstep, List.map_nil]
        have hsame : ((Sweep.reading e rest).step w.detector w.store (.ok reply)).store = w.store := by
          simp only [Sweep.step, hstep]
        refine h.quiet ?_ (fun _ => ?_) hlisteners fun i m _ howed => absurd howed (hidle i m)
        · rw [hdeeds]; exact hlater
        · exact congrArg (Store.get? library) (hstore.trans hsame)
      | done snapshot =>
        have hdeeds : (Sweep.reading e rest).deeds w.detector (.ok reply) = [.read e.library (.ok snapshot)] := by
          simp only [Sweep.deeds, Sweep.ending, hstep, List.map_cons, List.map_nil]
        rw [hdeeds]
        exact h.done hf hp hs hstep hlater

/-! ## Turns and runs -/

variable {x : Stimulus}

/-- What happens to a watcher leaves its listeners as they are, and nothing but an answer changes the store. -/
theorem Backed.basis_react (hb : w.Backed) (now : τ) (x : Stimulus) :
    (w.react now x).listeners = w.listeners ∧ ((∀ c, x ≠ .reply c) → (w.react now x).store = w.store) := by
  rcases w.react_cases now x with ⟨-, h⟩ | ⟨hturn, -⟩
  · have hbasis := (hb.touched h).1
    exact ⟨congrArg Basis.listeners hbasis, fun _ => congrArg Basis.store hbasis⟩
  · obtain ⟨m, -, hfollows⟩ := hturn.follows hb
    refine ⟨congrArg Basis.listeners hfollows.basis, fun hx => ?_⟩
    have hstore := congrArg Basis.store hfollows.basis
    rw [storing_of_ne hx] at hstore
    exact hstore

/-- A turn of the task keeps what is told. -/
theorem Kept.turn (h : Kept library ds w) (hb : w.Backed) (hturn : Turn now w x w')
    (hlisted : StaysListed library (ds ++ (w.occasion x ++ w'.position.entering))) :
    Kept library (ds ++ (w.occasion x ++ w'.position.entering)) w' := by
  obtain ⟨m, -, hfollows⟩ := hturn.follows hb
  have hquiet (hx : ∀ c, x ≠ .reply c) (howes : ∀ i m, i < w.listeners.length → w.position.Owes i m →
      Heard i m (w.occasion x) ∨ w'.position.Owes i m) :
      Kept library (ds ++ (w.occasion x ++ w'.position.entering)) w' := by
    refine h.quiet ?_ (fun _ => ?_) (congrArg Basis.listeners hfollows.basis) fun i m hi howed =>
      (howes i m hi howed).imp (Heard.append_left · _) id
    · rw [snapshotsRead_append, snapshotsRead_occasion hx, snapshotsRead_entering]
      rfl
    · have hstore := congrArg Basis.store hfollows.basis
      rw [storing_of_ne hx] at hstore
      exact congrArg (Store.get? library) hstore
  cases hturn with
  | @reply s after c hp =>
    have hdeeds : w.occasion (.reply c) = s.deeds w.detector (c (s.query w.detector)) := by simp only [occasion, hp]
    rw [hdeeds] at hlisted ⊢
    exact h.answered hb hp _ (snapshotsRead_entering library _) hlisted
  | @called d e o left hp =>
    refine hquiet (by simp) fun i m hi howed => ?_
    rw [hp] at howed
    have hdeeds : w.occasion (.called o left) = [.told d.listener d.hook d.batch left] := by simp only [occasion, hp]
    rw [hdeeds]
    exact notified_owes now o left hi howed
  | begun hp => exact hquiet (by simp) fun i m _ howed => by rw [hp] at howed; exact howed.elim
  | opened result hp => exact hquiet (by simp) fun i m _ howed => by rw [hp] at howed; exact howed.elim
  | sent result hp => exact hquiet (by simp) fun i m _ howed => by rw [hp] at howed; exact howed.elim
  | arrival a hp => exact hquiet (by simp) fun i m _ howed => by rw [hp] at howed; exact howed.elim
  | rested hp => exact hquiet (by simp) fun i m _ howed => by rw [hp] at howed; exact howed.elim

/-- What happens to a watcher keeps what is told. -/
theorem Kept.react (h : Kept library ds w) (hb : w.Backed) (hlisted : StaysListed library (ds ++ w.deeds now x)) :
    Kept library (ds ++ w.deeds now x) (w.react now x) := by
  rcases w.react_cases now x with ⟨hdeeds, htouched⟩ | ⟨hturn, hdeeds⟩
  · obtain ⟨hbasis, hpos, -⟩ := hb.touched htouched
    rw [hdeeds]
    refine h.quiet rfl (fun _ => congrArg (Store.get? library) (congrArg Basis.store hbasis))
      (congrArg Basis.listeners hbasis) fun i m _ howed => Or.inr ?_
    rcases hpos with hpos | ⟨hpos, -⟩
    · rw [hpos]; exact howed
    · rw [hpos] at howed; exact howed.elim
  · rw [hdeeds] at hlisted ⊢
    exact h.turn hb hturn hlisted

/-- A run keeps what is told. -/
theorem Kept.run (h : Kept library ds w) (hb : w.Backed) (xs : List (τ × Stimulus))
    (hlisted : StaysListed library (ds ++ w.history xs)) : Kept library (ds ++ w.history xs) (w.run xs) := by
  induction xs generalizing ds w with
  | nil => rw [history, List.append_nil]; exact h
  | cons x xs ih =>
    rw [history, ← List.append_assoc] at hlisted ⊢
    exact ih (h.react hb hlisted.of_append) (hb.react x.1 x.2) hlisted

/-! ## In time -/

/-- When a turn begins with anything but reading and telling, no delivery is at hand. -/
theorem Turn.occasion_idle (h : Turn now w x w') {since rest : List Deed} {next : Deed}
    (hds : w.occasion x = since ++ next :: rest) (hnext : next.isWork = false) :
    since = [] ∧ ∀ i m, ¬ w.position.Owes i m := by
  cases h with
  | begun hp =>
    simp only [occasion, hp] at hds
    exact ⟨(eq_nil_of_singleton hds).1, fun i m => by rw [hp]; exact id⟩
  | @reply s after c hp =>
    simp only [occasion, hp] at hds
    refine ⟨?_, fun i m => by rw [hp]; exact id⟩
    cases s with
    | listing => exact (eq_nil_of_singleton hds).1
    | reading e rest =>
      have hmem : next ∈ (Sweep.reading e rest).deeds w.detector (c ((Sweep.reading e rest).query w.detector)) := by
        rw [hds]; simp
      obtain ⟨r, -, rfl⟩ := List.mem_map.mp hmem
      cases hnext
  | called o left hp =>
    simp only [occasion, hp] at hds
    rw [(eq_nil_of_singleton hds).2] at hnext
    cases hnext
  | arrival a hp =>
    cases a with
    | text s =>
      simp only [occasion, hp] at hds
      exact ⟨(eq_nil_of_singleton hds).1, fun i m => by rw [hp]; exact id⟩
    | _ => simp [occasion] at hds
  | opened result hp => simp [occasion] at hds
  | sent result hp => simp [occasion] at hds
  | rested hp => simp [occasion] at hds

/-- A turn of the task tells in time. -/
theorem Kept.turn_inTime (h : Kept library ds w) (hturn : Turn now w x w')
    (h' : Kept library (ds ++ (w.occasion x ++ w'.position.entering)) w') (hlisteners : w'.listeners = w.listeners)
    (htime : ToldInTime library w.listeners.length ds) :
    ToldInTime library w.listeners.length (ds ++ (w.occasion x ++ w'.position.entering)) := by
  intro before next after hds hnext
  rcases split_append hds with ⟨rest, hds⟩ | ⟨since, rfl, hdeeds⟩
  · exact htime before next rest hds hnext
  · rcases split_append hdeeds with ⟨rest, hoccasion⟩ | ⟨since, rfl, hentering⟩
    · obtain ⟨hsince, hidle⟩ := hturn.occasion_idle hoccasion hnext
      rw [hsince, List.append_nil]
      exact h.allTold hidle
    · obtain ⟨hsince, hidle⟩ := entering_idle hentering
      rw [hsince, List.append_nil]
      have hall := h'.allTold hidle
      rw [hlisteners, ← List.append_assoc] at hall
      exact hall.of_append (isWork_entering _)

/-- What happens to a watcher is told in time. -/
theorem Kept.react_inTime (h : Kept library ds w) (hb : w.Backed) (hlisted : StaysListed library (ds ++ w.deeds now x))
    (htime : ToldInTime library w.listeners.length ds) :
    ToldInTime library w.listeners.length (ds ++ w.deeds now x) := by
  have h' := h.react hb hlisted
  rcases w.react_cases now x with ⟨hdeeds, -⟩ | ⟨hturn, hdeeds⟩
  · rw [hdeeds, List.append_nil]
    exact htime
  · rw [hdeeds] at h' ⊢
    exact h.turn_inTime hturn h' (hb.basis_react now x).1 htime

/-- A run tells in time. -/
theorem Kept.run_inTime (h : Kept library ds w) (hb : w.Backed) (xs : List (τ × Stimulus))
    (hlisted : StaysListed library (ds ++ w.history xs)) (htime : ToldInTime library w.listeners.length ds) :
    ToldInTime library w.listeners.length (ds ++ w.history xs) := by
  induction xs generalizing ds w with
  | nil => rw [history, List.append_nil]; exact htime
  | cons x xs ih =>
    rw [history, ← List.append_assoc] at hlisted ⊢
    have hlisteners := (hb.basis_react x.1 x.2).1
    rw [← hlisteners]
    refine ih (h.react hb hlisted.of_append) (hb.react x.1 x.2) hlisted ?_
    rw [hlisteners]
    exact h.react_inTime hb hlisted.of_append htime

end Answers

/-! ## No gap -/

/-- A watcher that was never started, whose subscription is backed by sweeps on a store of any content. -/
def backed (url : String) (interval patience : τ) (detector : Detector) (listeners : List String) (timeout : Option τ)
    (backoff : Backoff τ) (breaker : Breaker τ) (store : Store) : Watcher τ :=
  { fresh (.push url true interval patience) detector listeners timeout backoff breaker with store := store }

end Watcher

/-- Where sweeps stand in a history. -/
structure Seamless (ds : List Deed) : Prop where
  /-- A task that connects has begun with a whole sweep. -/
  first : ∀ before after, ds = before ++ .connecting :: after → ∃ past sweep since,
    before = past ++ .began :: .sweeping .loop :: (sweep ++ since) ∧ Swept [] sweep ∧ .began ∉ since
  /-- An acknowledged connection is followed by a sweep before anything else is done. -/
  catchUp : ∀ before f after, ds = before ++ .handled f :: after → Frame.read f = .acknowledged →
    ∃ later, after = .sweeping .receive :: later ∧ SweptFirst later
  /-- Up to the next frame of the session that is all. -/
  next : ∀ before f between f' after, ds = before ++ .handled f :: (between ++ .handled f' :: after) →
    Frame.read f = .acknowledged → .connecting ∉ between → (∀ t, .handled t ∉ between) →
    ∃ sweep, between = .sweeping .receive :: sweep ∧ Swept [] sweep
  /-- Wherever sweeps stand in for the subscription, a whole one comes before the nap. -/
  fallback : ∀ before after, ds = before ++ .sweeping .fallback :: after → UnderWay after ∨
    ∃ sweep next rest, after = sweep ++ next :: rest ∧ Swept [] sweep ∧ (next = .napping ∨ next = .ended)

namespace Watcher

theorem mood_ne_acknowledged (p : Position τ) : p.mood ≠ .acknowledged := by
  cases p with
  | querying s after => cases s <;> simp [Position.mood]
  | _ => simp [Position.mood]

variable [Scalar τ]

theorem Backed.run {w : Watcher τ} (hb : w.Backed) (xs : List (τ × Stimulus)) : (w.run xs).Backed := by
  induction xs generalizing w with
  | nil => exact hb
  | cons x xs ih => exact ih (hb.react x.1 x.2)

theorem Backed.listeners_run {w : Watcher τ} (hb : w.Backed) (xs : List (τ × Stimulus)) :
    (w.run xs).listeners = w.listeners := by
  induction xs generalizing w with
  | nil => rfl
  | cons x xs ih => exact (ih (hb.react x.1 x.2)).trans (hb.basis_react x.1 x.2).1

/-- **No gap.** In every run of a watcher whose subscription is backed by sweeps, whatever happens to it, sweeps stand
where they should; pushed media, like anything else but the answers to a sweep, leave the store as it is; and every
listener is told of every medium that a snapshot of a library has, unless the first one has it, too, as long as the
library stays listed: before the task does anything but reading and telling, and by the time that no listener is being
called, as at the end of a sweep. -/
theorem no_gap (url : String) (interval patience : τ) (detector : Detector) (listeners : List String)
    (timeout : Option τ) (backoff : Backoff τ) (breaker : Breaker τ) (store : Store) (xs : List (τ × Stimulus)) :
    let w := backed url interval patience detector listeners timeout backoff breaker store
    Seamless (w.history xs) ∧
    (∀ now x, (∀ c, x ≠ .reply c) → ((w.run xs).react now x).store = (w.run xs).store) ∧
    ∀ library, StaysListed library (w.history xs) → ToldInTime library listeners.length (w.history xs) ∧
      ((∀ d e, (w.run xs).position ≠ .notifying d e) → AllTold library listeners.length (w.history xs)) := by
  intro w
  have hb : w.Backed := ⟨rfl, trivial, fun _ => rfl⟩
  have hrun : Mood.Run .absent (w.history xs) (w.run xs).position.mood := hb.mood_run xs
  refine ⟨⟨?_, ?_, ?_, ?_⟩, fun now x => ((hb.run xs).basis_react now x).2, ?_⟩
  · intro before after hds
    rw [hds] at hrun
    exact hrun.sweep_before_connecting
  · intro before f after hds htext
    rw [hds] at hrun
    exact hrun.sweep_after_acknowledgement htext (mood_ne_acknowledged _)
  · intro before f between f' after hds htext
    rw [hds] at hrun
    exact hrun.sweep_before_next_frame htext
  · intro before after hds
    rw [hds] at hrun
    exact hrun.sweep_in_fallback
  · intro library hlisted
    have hkept : Kept library [] w := ⟨(fun s hs => by cases hs), fun s m hnew => by cases hnew.1⟩
    refine ⟨hkept.run_inTime hb xs hlisted (fun before next after hds => by simp at hds), fun hpos => ?_⟩
    have hidle (i : Nat) (m : Text) : ¬ (w.run xs).position.Owes i m := fun howed => by
      cases hp : (w.run xs).position with
      | notifying d e => exact hpos d e hp
      | _ => rw [hp] at howed; exact howed
    have hall := (hkept.run hb xs hlisted).allTold hidle
    rw [hb.listeners_run xs] at hall
    exact hall

/-! ## A spoiled batch -/

/-- A watcher with two listeners. -/
def pair : Watcher Rat :=
  backed "ws://stump.local" 60 30 ⟨100, true⟩ ["first", "second"] none (.fresh 1 60 2 0 none []) (.fresh "push" 3 60) []

/-- A library gets a medium between two sessions of a watcher. The first listener empties the batch that tells of it. -/
def spoiling : List (Rat × Stimulus) :=
  let before := Catalog.ofMedia ["L"] []
  let later := Catalog.ofMedia ["L"] ["m"]
  let stimuli : List Stimulus := [.start, .begun, .reply before, .reply before, .stop, .reply before, .start, .begun,
    .reply later, .reply later, .reply later, .called .returned [], .called .returned []]
  stimuli.map fun x => (0, x)

/-- The snapshot of the library that has got the medium. -/
def grown : Snapshot := ⟨[("m", ⟨"L", "s", "m"⟩)], ["s"]⟩

theorem history_spoiling : pair.history spoiling =
    [.began, .sweeping .loop, .listed (.ok ["L"]), .read "L" (.ok ⟨[], ["s"]⟩), .ended, .began, .sweeping .loop,
      .listed (.ok ["L"]), .read "L" (.ok grown), .told 0 .booksAdded [.book ⟨"L", "s", "m"⟩] [],
      .told 1 .booksAdded [] [], .connecting] := by
  with_unfolding_all rfl

theorem staysListed_spoiling : StaysListed "L" (pair.history spoiling) := by
  intro before libraries later hds _
  have hmem : .listed (.ok libraries) ∈ pair.history spoiling := by rw [hds]; simp
  rw [history_spoiling] at hmem
  obtain rfl : libraries = [.plain "L"] := by simpa using hmem
  exact List.mem_singleton_self _

theorem newIn_spoiling : NewIn "m" grown (snapshotsRead "L" (pair.history spoiling)) := by
  have hread : snapshotsRead "L" (pair.history spoiling) = [⟨[], ["s"]⟩, grown] := by rw [history_spoiling]; rfl
  rw [hread]
  exact ⟨by simp, rfl, fun baseline hb => by cases hb; rfl⟩

theorem position_spoiling (d : Delivery) (e : Errand) : (pair.run spoiling).position ≠ .notifying d e := by
  have hpos : (pair.run spoiling).position = .connecting := by with_unfolding_all rfl
  intro h
  rw [hpos] at h
  cases h

/-- The second listener is not told of the medium. -/
theorem not_told_of_spoiled_batch :
    StaysListed "L" (pair.history spoiling) ∧ NewIn "m" grown (snapshotsRead "L" (pair.history spoiling)) ∧
      (∀ d e, (pair.run spoiling).position ≠ .notifying d e) ∧ 1 < pair.listeners.length ∧
      ∀ batch left, .told 1 .booksAdded batch left ∈ pair.history spoiling → ¬ Tells "m" batch := by
  refine ⟨staysListed_spoiling, newIn_spoiling, position_spoiling, by decide, fun batch left hmem => ?_⟩
  rw [history_spoiling] at hmem
  have hbatch : batch = [] ∧ left = [] := by simpa using hmem
  rw [hbatch.1]
  rintro ⟨e, he, -⟩
  cases he

/-- The first listener is told of it, and the task that connects has swept before. -/
theorem no_gap_of_spoiled_batch :
    StaysListed "L" (pair.history spoiling) ∧ NewIn "m" grown (snapshotsRead "L" (pair.history spoiling)) ∧
      (∀ d e, (pair.run spoiling).position ≠ .notifying d e) ∧ Heard 0 "m" (pair.history spoiling) ∧
      ∃ past sweep since, (pair.history spoiling).dropLast =
        past ++ .began :: .sweeping .loop :: (sweep ++ since) ∧ Swept [] sweep ∧ .began ∉ since := by
  obtain ⟨hseamless, -, htold⟩ := no_gap "ws://stump.local" (60 : Rat) 30 ⟨100, true⟩ ["first", "second"] none
    (.fresh 1 60 2 0 none []) (.fresh "push" 3 60) [] spoiling
  refine ⟨staysListed_spoiling, newIn_spoiling, position_spoiling,
    (htold "L" staysListed_spoiling).2 position_spoiling grown "m" newIn_spoiling 0 (by decide), ?_⟩
  exact hseamless.first _ [] (by show pair.history spoiling = _; rw [history_spoiling]; rfl)

end Watcher

end MediaWatch
