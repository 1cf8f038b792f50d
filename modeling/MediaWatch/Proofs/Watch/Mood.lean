import MediaWatch.Proofs.Watch.Reaction

/-!
# The order of deeds

A `Mood` is what the deeds of a watcher so far leave open, and `Mood.Next` says which deeds can follow in it. What deeds
in this order have in common is that a sweep that has begun goes through its libraries before anything else is done
(`Mood.Run.of_asking`): there is one before a task connects (`Mood.Run.sweep_before_connecting`), one after the connection
is acknowledged (`Mood.Run.sweep_after_acknowledgement`), and one wherever sweeps stand in for the subscription
(`Mood.Run.sweep_in_fallback`).
-/

namespace MediaWatch

/-! ## Moods -/

/-- What comes next. -/
inductive Mood where
  /-- There is no task, or it has not begun. -/
  | absent
  | begun
  /-- The connection has just been acknowledged. -/
  | acknowledged
  /-- A sweep has begun. -/
  | asking (after : After)
  /-- A sweep has the given libraries left. When none is left, the task is about to go on as told. -/
  | within (after : After) (left : List Text)

/-- The libraries of a listing; one that has failed has none. -/
def listedIds : Except Text (List Text) → List Text
  | .ok libraries => libraries
  | .error _ => []

namespace Mood

/-- The deeds that can follow in a mood, with the mood after them. -/
inductive Next : Mood → Deed → Mood → Prop
  | begin : Next .absent .began .begun
  | first : Next .begun (.sweeping .loop) (.asking .loop)
  | catchUp : Next .acknowledged (.sweeping .receive) (.asking .receive)
  | listed (a : After) (answer : Except Text (List Text)) :
      Next (.asking a) (.listed answer) (.within a (listedIds answer))
  | read (a : After) (library : Text) (rest : List Text) (r : Except Text Snapshot) :
      Next (.within a (library :: rest)) (.read library r) (.within a rest)
  | told (a : After) (left : List Text) (i : Nat) (hook : Hook) (batch remaining : List Event) :
      Next (.within a left) (.told i hook batch remaining) (.within a left)
  | nap {a : After} : a ≠ .loop → Next (.within a []) .napping (.within .loop [])
  | connect {a : After} : a ≠ .fallback → Next (.within a []) .connecting (.within .receive [])
  | fallBack {a : After} : a ≠ .fallback → Next (.within a []) (.sweeping .fallback) (.asking .fallback)
  | acknowledge {f : TextFrame} : Frame.read f = .acknowledged →
      Next (.within .receive []) (.handled f) .acknowledged
  | handle {f : TextFrame} : Frame.read f ≠ .acknowledged →
      Next (.within .receive []) (.handled f) (.within .receive [])
  | finish (a : After) : Next (.within a []) .ended .absent

/-- Deeds one after the other. -/
inductive Run : Mood → List Deed → Mood → Prop
  | nil (m : Mood) : Run m [] m
  | cons {m m' m'' : Mood} {d : Deed} {ds : List Deed} : Next m d m' → Run m' ds m'' → Run m (d :: ds) m''

theorem Next.run {m m' : Mood} {d : Deed} (h : Next m d m') : Run m [d] m' := .cons h (.nil m')

theorem Run.append {m m' m'' : Mood} {ds es : List Deed} (h : Run m ds m') (h' : Run m' es m'') :
    Run m (ds ++ es) m'' := by
  induction h with
  | nil _ => exact h'
  | cons hd _ ih => exact .cons hd (ih h')

/-- A run has a mood wherever it is split. -/
theorem Run.split {m m'' : Mood} {ds es : List Deed} (h : Run m (ds ++ es) m'') : ∃ m', Run m ds m' ∧ Run m' es m'' := by
  induction ds generalizing m with
  | nil => exact ⟨m, .nil m, h⟩
  | cons d ds ih =>
    cases h with
    | cons hd h =>
      obtain ⟨m', hds, hes⟩ := ih h
      exact ⟨m', .cons hd hds, hes⟩

/-- The same at a deed. -/
theorem Run.split_at {m m'' : Mood} {ds es : List Deed} {d : Deed} (h : Run m (ds ++ d :: es) m'') :
    ∃ before after, Run m ds before ∧ Next before d after ∧ Run after es m'' := by
  obtain ⟨before, hds, hes⟩ := h.split
  cases hes with
  | cons hd hes => exact ⟨before, _, hds, hd, hes⟩

end Mood

/-! ## Sweeps in a history -/

/-- Whether a deed is the reading of a library or a call of a listener. -/
def Deed.isWork : Deed → Bool
  | .read .. | .told .. => true
  | _ => false

/-- The libraries that were read, whether or not they could be. -/
def librariesRead (ds : List Deed) : List Text :=
  ds.filterMap fun
    | .read library _ => some library
    | _ => none

/-- The deeds of a sweep that has the given libraries left: the libraries are listed, and those before the ones that are
left are read, each once and in order, with deliveries in between. -/
def Swept (left : List Text) (ds : List Deed) : Prop :=
  ∃ answer work, ds = .listed answer :: work ∧ listedIds answer = librariesRead work ++ left ∧ ∀ d ∈ work, d.isWork = true

/-- The deeds of a sweep that is not known to be over. -/
def UnderWay (ds : List Deed) : Prop := ds = [] ∨ ∃ left, Swept left ds

namespace Mood

/-- As long as libraries are left, all that is done is work on them. -/
theorem Run.of_within {a : After} {left : List Text} {ds : List Deed} {m : Mood} (h : Run (.within a left) ds m) :
    (∃ left', m = .within a left' ∧ left = librariesRead ds ++ left' ∧ ∀ d ∈ ds, d.isWork = true) ∨
    (∃ work d after rest, ds = work ++ d :: rest ∧ left = librariesRead work ∧ (∀ d ∈ work, d.isWork = true) ∧
      d.isWork = false ∧ Next (.within a []) d after ∧ Run after rest m) := by
  induction ds generalizing left with
  | nil => cases h; exact Or.inl ⟨left, rfl, rfl, by simp⟩
  | cons d ds ih =>
    cases h with
    | cons hd h =>
      have hnext := hd
      cases hd with
      | read _ library rest r =>
        rcases ih h with ⟨left', hm, hleft, hwork⟩ | ⟨work, d, after, later, hds, hleft, hwork, hd⟩
        · exact Or.inl ⟨left', hm, by rw [hleft]; rfl, List.forall_mem_cons.mpr ⟨rfl, hwork⟩⟩
        · exact Or.inr ⟨.read library r :: work, d, after, later, by rw [hds]; rfl, by rw [hleft]; rfl,
            List.forall_mem_cons.mpr ⟨rfl, hwork⟩, hd⟩
      | told _ _ i hook batch remaining =>
        rcases ih h with ⟨left', hm, hleft, hwork⟩ | ⟨work, d, after, later, hds, hleft, hwork, hd⟩
        · exact Or.inl ⟨left', hm, hleft, List.forall_mem_cons.mpr ⟨rfl, hwork⟩⟩
        · exact Or.inr ⟨.told i hook batch remaining :: work, d, after, later, by rw [hds]; rfl, hleft,
            List.forall_mem_cons.mpr ⟨rfl, hwork⟩, hd⟩
      | _ => exact Or.inr ⟨[], _, _, ds, rfl, rfl, by simp, rfl, hnext, h⟩

/-- A sweep that has begun is under way, or it is over before anything else is done. -/
theorem Run.of_asking {a : After} {ds : List Deed} {m : Mood} (h : Run (.asking a) ds m) :
    (ds = [] ∧ m = .asking a) ∨ (∃ left, Swept left ds ∧ m = .within a left) ∨
    (∃ sweep d after rest, ds = sweep ++ d :: rest ∧ Swept [] sweep ∧ d.isWork = false ∧
      Next (.within a []) d after ∧ Run after rest m) := by
  cases h with
  | nil _ => exact Or.inl ⟨rfl, rfl⟩
  | cons hd h =>
    cases hd with
    | listed _ answer =>
      rcases h.of_within with ⟨left, hm, hleft, hwork⟩ | ⟨work, d, after, rest, hds, hleft, hwork, hd⟩
      · exact Or.inr (Or.inl ⟨left, ⟨answer, _, rfl, hleft, hwork⟩, hm⟩)
      · exact Or.inr (Or.inr ⟨.listed answer :: work, d, after, rest, by rw [hds]; rfl,
          ⟨answer, work, rfl, by rw [hleft, List.append_nil], hwork⟩, hd⟩)

end Mood

/-! ## What the order says -/

/-- A sweep that begins here is under way, or whole before anything else is done. -/
def SweptFirst (ds : List Deed) : Prop :=
  UnderWay ds ∨ ∃ sweep next rest, ds = sweep ++ next :: rest ∧ Swept [] sweep ∧ next.isWork = false

/-- The deeds since a task has begun. -/
theorem began_split (ds : List Deed) : .began ∉ ds ∨ ∃ before since, ds = before ++ .began :: since ∧ .began ∉ since := by
  induction ds with
  | nil => exact Or.inl (by simp)
  | cons d ds ih =>
    rcases ih with hds | ⟨before, since, rfl, hsince⟩
    · cases d with
      | began => exact Or.inr ⟨[], ds, rfl, hds⟩
      | _ => exact Or.inl (by simp [hds])
    · exact Or.inr ⟨d :: before, since, rfl, hsince⟩

namespace Mood

/-- Nothing is done without a task. -/
theorem Run.eq_nil_of_absent {ds : List Deed} {m : Mood} (h : Run .absent ds m) (hds : .began ∉ ds) : m = .absent := by
  cases h with
  | nil _ => rfl
  | cons hd _ =>
    cases hd
    exact absurd List.mem_cons_self hds

theorem Run.sweptFirst {a : After} {ds : List Deed} {m : Mood} (h : Run (.asking a) ds m) : SweptFirst ds := by
  rcases h.of_asking with ⟨hds, -⟩ | ⟨left, hds, -⟩ | ⟨sweep, d, after, rest, hds, hsweep, hd, -⟩
  · exact Or.inl (Or.inl hds)
  · exact Or.inl (Or.inr ⟨left, hds⟩)
  · exact Or.inr ⟨sweep, d, rest, hds, hsweep, hd⟩

/-- A task that connects has begun with a whole sweep. -/
theorem Run.sweep_before_connecting {ds es : List Deed} {m : Mood} (h : Run .absent (ds ++ .connecting :: es) m) :
    ∃ before sweep since, ds = before ++ .began :: .sweeping .loop :: (sweep ++ since) ∧ Swept [] sweep ∧
      .began ∉ since := by
  obtain ⟨m', after, hds, hd, -⟩ := h.split_at
  cases hd with
  | connect _ =>
    rcases began_split ds with hno | ⟨before, since, rfl, hsince⟩
    · exact absurd (hds.eq_nil_of_absent hno) (by simp)
    · obtain ⟨_, _, -, hbegan, hrun⟩ := hds.split_at
      cases hbegan
      cases hrun with
      | cons hd hrun =>
        cases hd
        rcases hrun.of_asking with ⟨-, hm⟩ | ⟨left, hsweep, hm⟩ | ⟨sweep, d, _, rest, rfl, hsweep, -⟩
        · cases hm
        · cases hm
          exact ⟨before, _, [], by simp, hsweep, by simp⟩
        · exact ⟨before, sweep, d :: rest, rfl, hsweep, fun hmem => hsince (by simp [hmem])⟩

/-- An acknowledgement of the connection is followed by a sweep. -/
theorem Run.sweep_after_acknowledgement {ds es : List Deed} {f : TextFrame} {m : Mood}
    (h : Run .absent (ds ++ .handled f :: es) m) (htext : Frame.read f = .acknowledged) (hm : m ≠ .acknowledged) :
    ∃ later, es = .sweeping .receive :: later ∧ SweptFirst later := by
  obtain ⟨_, after, -, hd, hrun⟩ := h.split_at
  cases hd with
  | handle hne => exact absurd htext hne
  | acknowledge _ =>
    cases hrun with
    | nil _ => exact absurd rfl hm
    | cons hd hrun =>
      cases hd
      exact ⟨_, rfl, hrun.sweptFirst⟩

/-- A sweep that stands in for the subscription is followed by a nap, or by the end of the task. -/
theorem Run.sweep_in_fallback {ds es : List Deed} {m : Mood} (h : Run .absent (ds ++ .sweeping .fallback :: es) m) :
    UnderWay es ∨ ∃ sweep next rest, es = sweep ++ next :: rest ∧ Swept [] sweep ∧ (next = .napping ∨ next = .ended) := by
  obtain ⟨_, after, -, hd, hrun⟩ := h.split_at
  cases hd with
  | fallBack _ =>
    rcases hrun.of_asking with ⟨hes, -⟩ | ⟨left, hes, -⟩ | ⟨sweep, d, after, rest, hes, hsweep, hwork, hd, -⟩
    · exact Or.inl (Or.inl hes)
    · exact Or.inl (Or.inr ⟨left, hes⟩)
    · refine Or.inr ⟨sweep, d, rest, hes, hsweep, ?_⟩
      cases hd with
      | told _ _ _ _ _ _ => cases hwork
      | nap _ => exact Or.inl rfl
      | connect hne => exact absurd rfl hne
      | fallBack hne => exact absurd rfl hne
      | finish _ => exact Or.inr rfl

/-- Whether the task is outside a session. -/
def away : Mood → Bool
  | .absent | .begun => true
  | .acknowledged => false
  | .asking a | .within a _ => a != .receive

/-- A task outside a session stays there until it connects. -/
theorem Run.away_of_away {m m' : Mood} {ds : List Deed} (h : Run m ds m') (hm : m.away = true) (hds : .connecting ∉ ds) :
    m'.away = true := by
  induction h with
  | nil _ => exact hm
  | cons hd _ ih =>
    refine ih ?_ fun hmem => hds (List.mem_cons_of_mem _ hmem)
    cases hd with
    | connect _ => exact absurd List.mem_cons_self hds
    | begin => rfl
    | first => rfl
    | nap _ => rfl
    | fallBack _ => rfl
    | finish _ => rfl
    | catchUp => cases hm
    | acknowledge _ => cases hm
    | handle _ => cases hm
    | listed _ _ => exact hm
    | read _ _ _ _ => exact hm
    | told _ _ _ _ _ _ => exact hm

/-- Between an acknowledgement of the connection and the next frame of the session there is a whole sweep, and nothing
else. -/
theorem Run.sweep_before_next_frame {ds es later : List Deed} {f f' : TextFrame} {m : Mood}
    (h : Run .absent (ds ++ .handled f :: (es ++ .handled f' :: later)) m)
    (htext : Frame.read f = .acknowledged) (hsession : .connecting ∉ es) (hnext : ∀ t, .handled t ∉ es) :
    ∃ sweep, es = .sweeping .receive :: sweep ∧ Swept [] sweep := by
  obtain ⟨_, after, -, hd, hrun⟩ := h.split_at
  cases hd with
  | handle hne => exact absurd htext hne
  | acknowledge _ =>
    obtain ⟨m', _, hes, hd', -⟩ := hrun.split_at
    have hm' : m' = .within .receive [] := by cases hd' <;> rfl
    subst hm'
    cases hes with
    | cons hd hes =>
      cases hd
      rcases hes.of_asking with ⟨-, hm⟩ | ⟨left, hsweep, hm⟩ | ⟨sweep, d, after, rest, rfl, -, hwork, hd, hrest⟩
      · cases hm
      · cases hm
        exact ⟨_, rfl, hsweep⟩
      · -- anything else would end the session
        have hmem : d ∈ .sweeping .receive :: (sweep ++ d :: rest) := by simp
        have haway : after.away = true := by
          cases hd with
          | told _ _ _ _ _ _ => cases hwork
          | connect _ => exact absurd hmem hsession
          | acknowledge _ => exact absurd hmem (hnext _)
          | handle _ => exact absurd hmem (hnext _)
          | nap _ => rfl
          | fallBack _ => rfl
          | finish _ => rfl
        exact absurd (hrest.away_of_away haway fun hmem => hsession (by simp [hmem])) (by decide)

end Mood

end MediaWatch
