import MediaWatch.Proofs.Watch.Move

/-!
# Standing in for a subscription

A watcher that has given up its subscription, or whose breaker is open, sweeps and naps in turn. `Position.StandsIn` says
where its task is then, and `Deed.IsPoll` what it does. A watcher that nobody stops stays so until its breaker lets it
through (`Watcher.standIn_step`), and for good when the subscription is given up (`Condition.StandsIn.run`).
-/

namespace MediaWatch

variable {τ : Type}

/-- Whether the task stands in for the subscription: in a sweep, in a call on its way, or in a nap between two sweeps. -/
def Position.StandsIn [Scalar τ] (interval : τ) : Position τ → Prop
  | .querying _ a => a = .fallback
  | .notifying _ e => e.after = .fallback
  | .napping seconds => seconds = Scalar.clamp interval
  | _ => False

/-- Whether a deed is part of a sweep that stands in for the subscription, or the nap after it. -/
def Deed.IsPoll : Deed → Prop
  | .sweeping a => a = .fallback
  | .listed _ | .read .. | .told .. | .napping => True
  | _ => False

theorem Position.IsWork.standsIn [Scalar τ] {interval : τ} {p : Position τ} (h : p.IsWork .fallback) :
    p.StandsIn interval := by
  cases p with
  | querying s a =>
    cases s with
    | listing => exact h.elim
    | reading e rest => exact h
  | notifying d e => exact h
  | _ => exact h.elim

namespace Position.StandsIn

variable [Scalar τ] {interval : τ} {p : Position τ}

/-- A task that stands in goes on with its nap. -/
theorem after?_eq (h : p.StandsIn interval) {a : After} (ha : p.after? = some a) : a = .fallback := by
  cases p with
  | querying s b => exact (Option.some.inj ha).symm.trans h
  | notifying d e => exact (Option.some.inj ha).symm.trans h
  | napping seconds => cases ha
  | _ => exact h.elim

theorem isPoll_entering (h : p.StandsIn interval) : ∀ d ∈ p.entering, d.IsPoll := by
  intro d hd
  cases p with
  | querying s a =>
    cases s with
    | listing =>
      obtain rfl : d = .sweeping a := List.mem_singleton.mp hd
      exact h
    | reading e rest => cases hd
  | notifying d e => cases hd
  | napping seconds =>
    obtain rfl : d = .napping := List.mem_singleton.mp hd
    trivial
  | _ => exact h.elim

end Position.StandsIn

namespace Watcher

variable [Scalar τ] {now : τ} {w : Watcher τ} {interval : τ}

theorem isPoll_occasion (x : Stimulus) (h : w.position.StandsIn interval) : ∀ d ∈ w.occasion x, d.IsPoll := by
  intro d hd
  unfold occasion at hd
  split at hd
  · rename_i hp
    rw [hp] at h
    exact h.elim
  · rename_i c s a hp
    cases s with
    | listing =>
      obtain rfl := List.mem_singleton.mp hd
      trivial
    | reading e rest =>
      obtain ⟨r, -, rfl⟩ := List.mem_map.mp hd
      trivial
  · obtain rfl := List.mem_singleton.mp hd
    trivial
  · rename_i hp
    rw [hp] at h
    exact h.elim
  · cases hd

/-- A task that stands in is not in a session. -/
theorem inert_of_standsIn (x : Stimulus) (h : w.position.StandsIn interval) :
    w.endsSession x = false ∧ w.acknowledges x = false := by
  have hsession : w.position ≠ .connecting ∧ (∀ frame, w.position ≠ .sending frame) ∧ w.position ≠ .receiving := by
    refine ⟨fun hp => ?_, fun frame hp => ?_, fun hp => ?_⟩
    all_goals rw [hp] at h; exact h.elim
  obtain ⟨hconnecting, hsending, hreceiving⟩ := hsession
  constructor
  · unfold endsSession
    split
    · exact absurd ‹_› hconnecting
    · exact absurd ‹_› (hsending _)
    · exact absurd ‹_› hreceiving
    · exact absurd ‹_› hreceiving
    · rfl
  · unfold acknowledges
    split
    · exact absurd ‹_› hreceiving
    · rfl

/-- What a stimulus can do to a watcher that stands in for its subscription. -/
inductive StandIn (interval now : τ) (x : Stimulus) (w : Watcher τ) : Prop
  | stays (hdeeds : ∀ d ∈ w.deeds now x, d.IsPoll) (hposition : (w.react now x).position.StandsIn interval)
  /-- The breaker lets the watcher through. -/
  | returns (hdeeds : .connecting ∈ w.deeds now x) (hpush : w.pushEnabled = true)
      (hopen : (w.breaker.read now).1.isOpen = false)

theorem standIn_of_standsIn {x : Stimulus} (hp : w.position.StandsIn interval)
    (hdeeds : w.deeds now x = w.occasion x ++ (w.react now x).position.entering)
    (hposition : (w.react now x).position.StandsIn interval) : StandIn interval now x w := by
  refine .stays (fun d hd => ?_) hposition
  rw [hdeeds] at hd
  rcases List.mem_append.mp hd with hd | hd
  · exact isPoll_occasion x hp d hd
  · exact hposition.isPoll_entering d hd

variable {url : String} {patience : τ}

/-- After a nap the breaker is asked, unless the subscription is given up. -/
theorem standIn_of_looped {x : Stimulus} (hs : w.strategy = .push url true interval patience)
    (hactive : w.life.active = true) (hp : w.position.StandsIn interval)
    (hdeeds : w.deeds now x = w.occasion x ++ (w.react now x).position.entering)
    (h : w.condition.Looped now (w.react now x).condition) : StandIn interval now x w := by
  have hposition : (w.react now x).position = (w.react now x).condition.position := rfl
  generalize (w.react now x).condition = c' at h hposition
  cases h with
  | finished hinactive => exact absurd (hinactive.symm.trans hactive) Bool.false_ne_true
  | polls _ hpolls => cases hs.symm.trans hpolls
  | givenUp _ _ _ => exact standIn_of_standsIn hp hdeeds (hposition ▸ rfl)
  | held _ _ _ _ => exact standIn_of_standsIn hp hdeeds (hposition ▸ rfl)
  | tries _ _ hpush hopen =>
    refine .returns ?_ hpush hopen
    rw [hdeeds, hposition]
    exact List.mem_append_right _ (List.mem_singleton_self _)
  | connects _ hconnects => cases hs.symm.trans hconnects

/-- A watcher that stands in for its subscription stays so, or its breaker lets it through. -/
theorem standIn_step (hs : w.strategy = .push url true interval patience) (hactive : w.life.active = true)
    (hp : w.position.StandsIn interval) (now : τ) {x : Stimulus} (hstop : x ≠ .stop) : StandIn interval now x w := by
  obtain ⟨hends, -⟩ := inert_of_standsIn x hp
  cases move now x w with
  | touched _ _ hdeeds htouched =>
    refine .stays (by simp [hdeeds]) ?_
    show (w.react now x).condition.position.StandsIn interval
    generalize (w.react now x).condition = c' at htouched ⊢
    cases htouched with
    | starts _ hinactive _ => exact absurd (hinactive.symm.trans hactive) Bool.false_ne_true
    | stops hx => exact absurd hx hstop
    | _ => exact hp
  | passed _ _ hdeeds hpassed =>
    have hposition : (w.react now x).position = (w.react now x).condition.position := rfl
    have hlooped := standIn_of_looped hs hactive hp hdeeds
    generalize (w.react now x).condition = c' at hpassed hposition hlooped
    cases hpassed with
    | begins hcreated _ => rw [show w.position = .created from hcreated] at hp; exact hp.elim
    | opens hconnecting => rw [show w.position = .connecting from hconnecting] at hp; exact hp.elim
    | greets hsending => rw [show w.position = .sending .hello from hsending] at hp; exact hp.elim
    | loops _ h => exact hlooped h
    | @goesOn a _ ha honward =>
      obtain rfl := hp.after?_eq ha
      cases honward with
      | works hwork => exact standIn_of_standsIn hp hdeeds (hposition ▸ hwork.standsIn)
      | rests _ hrests _ =>
        cases hs.symm.trans hrests
        exact standIn_of_standsIn hp hdeeds (hposition ▸ rfl)
      | loops ha => cases ha
      | idles ha => cases ha
      | listens ha => cases ha
      | finished hinactive => exact absurd (hinactive.symm.trans hactive) Bool.false_ne_true
      | drops hno => exact absurd (by rw [show w.condition.strategy = _ from hs]; rfl) hno
  | acknowledged _ _ hr _ _ _ => rw [hr] at hp; exact hp.elim
  | catchesUp _ _ hr _ _ _ => rw [hr] at hp; exact hp.elim
  | ended hyes _ _ _ => rw [hends] at hyes; cases hyes

/-- A watcher of the given strategy whose session goes on and whose task stands in for the subscription. -/
structure Condition.StandsIn (url : String) (interval patience : τ) (c : Condition τ) : Prop where
  strategy : c.strategy = .push url true interval patience
  active : c.life.active = true
  position : c.position.StandsIn interval

/-- What a watcher goes by stays as it is while it stands in for its subscription, but that its breaker may be read. -/
theorem Condition.StandsIn.keeps (h : w.condition.StandsIn url interval patience) (now : τ) {x : Stimulus}
    (hstop : x ≠ .stop) : w.condition.Keeps now (w.react now x).condition := by
  obtain ⟨hends, hack⟩ := inert_of_standsIn x h.position
  cases passage now (fun _ => h.active) hstop with
  | keeps _ _ hkeeps => exact hkeeps
  | acknowledged _ hyes _ => exact absurd (hack.symm.trans hyes) Bool.false_ne_true
  | ended hyes _ _ => exact absurd (hends.symm.trans hyes) Bool.false_ne_true

/-- A watcher stands in for its subscription until it connects, which it does not once the subscription is given up. -/
theorem Condition.StandsIn.next (h : w.condition.StandsIn url interval patience) {x : Stimulus} (hstop : x ≠ .stop)
    (hstay : w.pushEnabled = false ∨ .connecting ∉ w.deeds now x) :
    (w.react now x).condition.StandsIn url interval patience ∧ ∀ d ∈ w.deeds now x, d.IsPoll := by
  have hkeeps := h.keeps now hstop
  cases standIn_step h.strategy h.active h.position now hstop with
  | stays hdeeds hposition =>
    exact ⟨⟨hkeeps.strategy.trans h.strategy, hkeeps.active.trans h.active, hposition⟩, hdeeds⟩
  | returns hdeeds hpush _ =>
    rcases hstay with hno | hno
    · exact absurd (hno.symm.trans hpush) Bool.false_ne_true
    · exact absurd hdeeds hno

theorem Condition.StandsIn.run (h : w.condition.StandsIn url interval patience) {ys : List (τ × Stimulus)}
    (hys : ∀ y ∈ ys, y.2 ≠ .stop) (hstay : w.pushEnabled = false ∨ .connecting ∉ w.history ys) :
    (w.run ys).condition.StandsIn url interval patience ∧ (w.run ys).pushEnabled = w.pushEnabled ∧
      ∀ d ∈ w.history ys, d.IsPoll := by
  induction ys generalizing w with
  | nil => exact ⟨h, rfl, by simp [history]⟩
  | cons y ys ih =>
    obtain ⟨now, x⟩ := y
    obtain ⟨hx, hys⟩ := List.forall_mem_cons.mp hys
    have hpush : (w.react now x).pushEnabled = w.pushEnabled := (h.keeps now hx).pushEnabled
    have hlater := hstay.imp_right fun hno hmem => hno (List.mem_append_right _ hmem)
    obtain ⟨hnext, hdeeds⟩ := h.next hx (hstay.imp_right fun hno hmem => hno (List.mem_append_left _ hmem))
    obtain ⟨hrun, hpush', hhistory⟩ := ih hnext hys (hpush ▸ hlater)
    refine ⟨hrun, hpush'.trans hpush, fun d hd => ?_⟩
    rcases List.mem_append.mp hd with hd | hd
    · exact hdeeds d hd
    · exact hhistory d hd

end Watcher

end MediaWatch
