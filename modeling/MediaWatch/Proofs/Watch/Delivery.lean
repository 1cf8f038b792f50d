import MediaWatch.Proofs.Json.Nesting
import MediaWatch.Proofs.Watch.Move

/-!
# Deliveries of a session

The messages that arrive in a session wait on its socket until the task receives them, one after the other (`Feed`). A
message announces a book if it is a frame that holds a complete `CreatedMedia` event (`Frame.Announces`); the books that
are announced up to the message that ends the subscription are the `Message.tidings`. In a session without sweeps every
listener is called with each of them, one at a time and in their order, however the calls of the listeners end and however
often the task waits in vain (`Feed.tidings_delivered`); all listeners of a batch share it, so those after one that has
changed it see what it has left (`Told`). The invariant `Watcher.Course` says where the task stands: it opens the
session, it listens, it tells of the last book announced, or its session is over. Each stimulus keeps it
(`Feed.course_step`), and so does a run (`Feed.course_run`).
-/

namespace MediaWatch

open Json

/-! ## Announcements -/

/-- A frame is JSON for a value, and there is room for reading it. -/
def TextFrame.Holds (f : TextFrame) (v : Value) : Prop := Reader.Fits f.room f.text ∧ Reader.Reads f.text v

theorem TextFrame.holds_iff {f : TextFrame} {v : Value} : f.Holds v ↔ Reader.parse f.room f.text = .ok v :=
  Reader.parse_eq_ok_iff.symm

/-- A frame that announces a book: an envelope of type `data` with a `CreatedMedia` event all of whose identifiers are
there. -/
def Frame.Announces (f : TextFrame) (e : BookEvent) : Prop :=
  ∃ envelope payload data event : Members,
    f.Holds (.obj envelope) ∧
    Members.value? "type" envelope = some (.str "data") ∧
    Members.value? "payload" envelope = some (.obj payload) ∧
    Members.value? "data" payload = some (.obj data) ∧
    Members.value? "readEvents" data = some (.obj event) ∧
    Members.value? "__typename" event = some (.str "CreatedMedia") ∧
    Frame.identifier (Members.value? "id" event) = some e.bookId ∧
    Frame.identifier (Members.value? "seriesId" event) = some e.seriesId ∧
    Frame.identifier (Members.value? "libraryId" event) = some e.libraryId

/-- A frame that ends the subscription: an envelope of type `complete` or `connection_error`. -/
def Frame.Closes (f : TextFrame) : Prop :=
  ∃ (envelope : Members) (kind : String), f.Holds (.obj envelope) ∧
    Members.value? "type" envelope = some (.str kind) ∧ (kind = "complete" ∨ kind = "connection_error")

namespace Frame

/-- The members of a part that is there. -/
theorem part_obj {members : Members} {name : String} {v : Value} (h : Members.value? name members = some v) :
    part (some (.obj members)) = .ok members := by
  cases members with
  | nil => cases h
  | cons m members => simp [part, Value.isBlank]

/-- A part that has members is there. -/
theorem eq_obj_of_part {part? : Option Value} {members : Members} {name : String} {v : Value}
    (h : part part? = .ok members) (hv : Members.value? name members = some v) : part? = some (.obj members) := by
  unfold part at h
  split at h
  · cases h
    cases hv
  · split at h
    · cases h
      cases hv
    · split at h
      · cases h
        rfl
      · cases h

theorem createdMedia_eq_some_iff (event : Members) (e : BookEvent) :
    createdMedia event = some e ↔
      Members.value? "__typename" event = some (.str "CreatedMedia") ∧
      identifier (Members.value? "id" event) = some e.bookId ∧
      identifier (Members.value? "seriesId" event) = some e.seriesId ∧
      identifier (Members.value? "libraryId" event) = some e.libraryId := by
  unfold createdMedia
  constructor
  · intro h
    split at h
    · rename_i htype
      simp only [Option.bind_eq_bind, Option.bind_eq_some_iff] at h
      obtain ⟨library, hlibrary, series, hseries, id, hid, he⟩ := h
      obtain rfl := Option.some.inj he
      exact ⟨htype, hid, hseries, hlibrary⟩
    · cases h
  · rintro ⟨htype, hid, hseries, hlibrary⟩
    rw [htype, hid, hseries, hlibrary]
    rfl

theorem readEvent_eq_some_iff (payload? : Option Value) (e : BookEvent) :
    readEvent payload? = .ok (some e) ↔
      ∃ payload data event : Members, payload? = some (.obj payload) ∧
        Members.value? "data" payload = some (.obj data) ∧ Members.value? "readEvents" data = some (.obj event) ∧
        createdMedia event = some e := by
  unfold readEvent
  constructor
  · intro h
    rcases hpayload : part payload? with _ | payload
    · rw [hpayload] at h
      cases h
    rcases hdata : part (Members.value? "data" payload) with _ | data
    · rw [hpayload] at h
      simp only [bind, Except.bind, hdata] at h
      cases h
    rcases hevent : Members.value? "readEvents" data with _ | v
    · rw [hpayload] at h
      simp only [bind, Except.bind, hdata, hevent] at h
      cases h
    have hdata' := eq_obj_of_part hdata hevent
    have hpayload' := eq_obj_of_part hpayload hdata'
    rw [hpayload] at h
    simp only [bind, Except.bind, hdata, hevent] at h
    split at h
    · cases h
    · split at h
      · exact ⟨payload, data, _, hpayload', hdata', hevent, Except.ok.inj h⟩
      · cases h
  · rintro ⟨payload, data, event, rfl, hdata, hevent, hcreated⟩
    have hblank : (Value.obj event).isBlank = false := by
      cases event with
      | nil => cases ((createdMedia_eq_some_iff [] e).mp hcreated).1
      | cons m event => rfl
    rw [part_obj hdata]
    simp only [bind, Except.bind]
    rw [hdata, part_obj hevent]
    simp only [hevent, hblank, Bool.false_eq_true, if_false]
    exact congrArg Except.ok hcreated

theorem read_of_holds {f : TextFrame} {envelope : Members} (h : f.Holds (.obj envelope)) :
    read f = ofEnvelope envelope := by
  rw [read, TextFrame.holds_iff.mp h]

/-- A frame that is no envelope, or that there is no room for, cannot be read. -/
theorem read_cases (f : TextFrame) :
    (∃ envelope, f.Holds (.obj envelope) ∧ read f = ofEnvelope envelope) ∨ read f = .unreadable := by
  cases hread : Reader.parse f.room f.text with
  | error fault => exact .inr (by rw [read, hread])
  | ok v =>
    cases v with
    | obj envelope => exact .inl ⟨envelope, TextFrame.holds_iff.mpr hread, by rw [read, hread]⟩
    | _ => exact .inr (by rw [read, hread])

/-- The frames that announce a book are those that are read so. -/
theorem read_eq_created_iff (f : TextFrame) (e : BookEvent) : read f = .created e ↔ Announces f e := by
  constructor
  · intro h
    rcases read_cases f with ⟨envelope, hholds, hread⟩ | hread <;> rw [hread] at h
    · unfold ofEnvelope at h
      dsimp only at h
      split at h
      · rename_i htype
        split at h
        · rename_i e' hevent
          cases h
          obtain ⟨payload, data, event, hpayload, hdata, hevent, hcreated⟩ := (readEvent_eq_some_iff _ _).mp hevent
          exact ⟨envelope, payload, data, event, hholds, htype, hpayload, hdata, hevent,
            (createdMedia_eq_some_iff event e).mp hcreated⟩
        · cases h
        · cases h
      all_goals cases h
    · cases h
  · rintro ⟨envelope, payload, data, event, hholds, htype, hpayload, hdata, hevent, hcreated⟩
    have hread := (readEvent_eq_some_iff (Members.value? "payload" envelope) e).mpr
      ⟨payload, data, event, hpayload, hdata, hevent, (createdMedia_eq_some_iff event e).mpr hcreated⟩
    simp only [read_of_holds hholds, ofEnvelope, htype, hread]

/-- The book that a frame tells of. -/
def created? : Frame → Option BookEvent
  | .created e => some e
  | _ => none

theorem created?_eq_some_iff (f : Frame) (e : BookEvent) : f.created? = some e ↔ f = .created e := by
  cases f <;> simp [created?]

theorem created?_of_ends {f : Frame} (h : f.ends = true) : f.created? = none := by
  cases f with
  | created e => cases h
  | _ => rfl

theorem ends_read_iff (f : TextFrame) : (read f).ends = true ↔ Closes f := by
  constructor
  · intro h
    rcases read_cases f with ⟨envelope, hholds, hread⟩ | hread <;> rw [hread] at h
    · unfold ofEnvelope at h
      dsimp only at h
      split at h
      case h_1 => split at h <;> cases h
      case h_4 htype => exact ⟨envelope, _, hholds, htype, Or.inl rfl⟩
      case h_5 htype => exact ⟨envelope, _, hholds, htype, Or.inr rfl⟩
      all_goals cases h
    · cases h
  · rintro ⟨envelope, kind, hholds, htype, rfl | rfl⟩
    · simp only [read_of_holds hholds, ofEnvelope, htype]
      rfl
    · simp only [read_of_holds hholds, ofEnvelope, htype]
      rfl

end Frame

/-! ## Messages -/

/-- What the server sends in a session. -/
inductive Message where
  | text (f : TextFrame)
  | binary
  deriving DecidableEq

namespace Message

/-- The message as the task receives it. -/
def arrival : Message → Arrival
  | text f => .text f
  | binary => .binary

/-- Whether the message ends the subscription. -/
def ends : Message → Bool
  | text f => (Frame.read f).ends
  | binary => false

/-- The book that the message announces. -/
def announced? : Message → Option BookEvent
  | text f => (Frame.read f).created?
  | binary => none

/-- The books that are announced up to the message that ends the subscription. -/
def tidings (ms : List Message) : List BookEvent := (ms.takeWhile (!·.ends)).filterMap announced?

theorem announced?_eq_some_iff (m : Message) (e : BookEvent) :
    m.announced? = some e ↔ ∃ f, m = .text f ∧ Frame.Announces f e := by
  cases m with
  | binary => simp [announced?]
  | text f =>
    rw [announced?, Frame.created?_eq_some_iff, Frame.read_eq_created_iff]
    simp

theorem ends_iff (m : Message) : m.ends = true ↔ ∃ f, m = .text f ∧ Frame.Closes f := by
  cases m with
  | binary => simp [ends]
  | text f =>
    rw [ends, Frame.ends_read_iff]
    simp

theorem announced?_of_ends {m : Message} (h : m.ends = true) : m.announced? = none := by
  cases m with
  | binary => rfl
  | text f => exact Frame.created?_of_ends h

/-- As long as no message has ended the subscription the next one counts. -/
theorem tidings_snoc {ms : List Message} (hopen : ∀ m ∈ ms, m.ends = false) (m : Message) :
    tidings (ms ++ [m]) = tidings ms ++ m.announced?.toList := by
  have hall : ∀ m ∈ ms, (!m.ends) = true := by
    intro m hm
    rw [hopen m hm]
    rfl
  rw [tidings, tidings, List.takeWhile_append_of_pos hall, List.takeWhile_eq_self_iff.mpr hall, List.filterMap_append]
  cases hends : m.ends with
  | true => simp [hends, announced?_of_ends hends]
  | false => cases hannounced : m.announced? <;> simp [hends, hannounced]

end Message

/-! ## Calls -/

/-- The call of a listener with a batch, which it leaves as `left`. -/
structure Call where
  listener : Nat
  hook : Hook
  batch : List Event
  left : List Event
  deriving Repr, DecidableEq

def Deed.call? : Deed → Option Call
  | .told listener hook batch left => some ⟨listener, hook, batch, left⟩
  | _ => none

/-- The calls among what a task has done. -/
def callsIn (ds : List Deed) : List Call := ds.filterMap Deed.call?

/-- The calls of one listener. -/
def callsTo (i : Nat) (cs : List Call) : List Call := cs.filter (·.listener = i)

/-- Whether the listeners before the `i`-th have left the `k`-th batch as it was: all listeners of a batch share it. -/
def LeftAlone (i k : Nat) (cs : List Call) : Prop := ∀ j < i, ∀ c, (callsTo j cs)[k]? = some c → c.left = c.batch

/-- A listener was called with books, one at a time and in their order: once for each, and with the book alone unless a
listener before it has changed that batch. -/
structure Told (i : Nat) (es : List BookEvent) (cs : List Call) : Prop where
  hooks : (callsTo i cs).map Call.hook = es.map fun _ => .booksAdded
  batches : ∀ (k : Nat) (e : BookEvent) (c : Call), es[k]? = some e → (callsTo i cs)[k]? = some c → LeftAlone i k cs →
    c.batch = [.book e]

section Calls

variable {i j k : Nat} {es : List BookEvent} {e : BookEvent} {cs : List Call} {c : Call}

theorem told_nil (i : Nat) : Told i [] [] := ⟨rfl, fun _ _ _ he => by cases he⟩

/-- A listener was called once for each book. -/
theorem Told.length_eq (h : Told i es cs) : (callsTo i cs).length = es.length := by
  have hlength := congrArg List.length h.hooks
  rwa [List.length_map, List.length_map] at hlength

theorem callsTo_snoc_of_ne (hc : c.listener ≠ i) : callsTo i (cs ++ [c]) = callsTo i cs := by simp [callsTo, hc]

theorem callsTo_snoc (hc : c.listener = i) : callsTo i (cs ++ [c]) = callsTo i cs ++ [c] := by simp [callsTo, hc]

/-- The calls of a listener keep their places. -/
theorem getElem?_callsTo_snoc {d : Call} (h : (callsTo j cs)[k]? = some d) (c : Call) :
    (callsTo j (cs ++ [c]))[k]? = some d := by
  have hsnoc : callsTo j (cs ++ [c]) = callsTo j cs ++ callsTo j [c] := List.filter_append ..
  obtain ⟨hk, -⟩ := List.getElem?_eq_some_iff.mp h
  rw [hsnoc, List.getElem?_append_left hk, h]

theorem LeftAlone.of_snoc (h : LeftAlone i k (cs ++ [c])) : LeftAlone i k cs :=
  fun j hj d hd => h j hj d (getElem?_callsTo_snoc hd c)

/-- The call of another listener. -/
theorem Told.snoc_of_ne (h : Told i es cs) (hc : c.listener ≠ i) : Told i es (cs ++ [c]) := by
  refine ⟨?_, fun k e d he hd hleft => ?_⟩
  · rw [callsTo_snoc_of_ne hc, h.hooks]
  · rw [callsTo_snoc_of_ne hc] at hd
    exact h.batches k e d he hd hleft.of_snoc

/-- The call with the next book. -/
theorem Told.snoc (h : Told i es cs) (hc : c.listener = i) (hhook : c.hook = .booksAdded)
    (hbatch : LeftAlone i es.length cs → c.batch = [.book e]) : Told i (es ++ [e]) (cs ++ [c]) := by
  refine ⟨?_, fun k e' d he hd hleft => ?_⟩
  · rw [callsTo_snoc hc, List.map_append, List.map_append, h.hooks, List.map_singleton, hhook]
    rfl
  · rw [callsTo_snoc hc] at hd
    rcases Nat.lt_trichotomy k es.length with hk | rfl | hk
    · rw [List.getElem?_append_left hk] at he
      rw [List.getElem?_append_left (h.length_eq ▸ hk)] at hd
      exact h.batches k e' d he hd hleft.of_snoc
    · rw [List.getElem?_concat_length] at he
      rw [← h.length_eq, List.getElem?_concat_length] at hd
      cases he
      cases hd
      exact hbatch hleft.of_snoc
    · have hlength : (es ++ [e]).length ≤ k := by
        rw [List.length_append, List.length_singleton]
        omega
      rw [List.getElem?_eq_none hlength] at he
      cases he

end Calls

/-- Whether a task is opening a session. -/
def Position.Opens {τ : Type} : Position τ → Prop
  | .connecting | .sending _ => True
  | _ => False

/-- Whether a task is between two sessions, or there is none any more. -/
def Position.Rests {τ : Type} : Position τ → Prop
  | .absent | .napping _ => True
  | _ => False

namespace Watcher

variable {τ : Type}

/-! ## A session that goes on -/

/-- A watcher without sweeps, with the given number of listeners, whose session goes on. -/
structure Tuned (n : Nat) (w : Watcher τ) : Prop where
  alone : w.strategy.hasFallback = false
  listeners : w.listeners.length = n
  active : w.life.active = true

/-- The same, with its task at a position. -/
structure TunedAt (n : Nat) (p : Position τ) (w : Watcher τ) : Prop extends Tuned n w where
  position : w.position = p

variable {n : Nat} {p : Position τ} {w v : Watcher τ}

theorem Tuned.of_eq (h : w.Tuned n) (hbasis : v.basis = w.basis) (hactive : v.life.active = w.life.active) : v.Tuned n where
  alone := (congrArg (Strategy.hasFallback ∘ Basis.strategy) hbasis).trans h.alone
  listeners := (congrArg (List.length ∘ Basis.listeners) hbasis).trans h.listeners
  active := hactive.trans h.active

theorem Tuned.goto (h : w.Tuned n) (p : Position τ) : (w.goto p).TunedAt n p := ⟨⟨h.alone, h.listeners, h.active⟩, rfl⟩

theorem Tuned.acknowledge (h : w.Tuned n) : w.acknowledge.Tuned n :=
  h.of_eq (basis_acknowledge w) (congrArg (Lifecycle.active ∘ Condition.life) (condition_acknowledge w))

variable [Scalar τ] {now : τ}

theorem Tuned.receive (h : w.Tuned n) (now : τ) : (w.receive now).TunedAt n .receiving := by
  rw [Watcher.receive, if_pos h.active]
  exact h.goto .receiving

/-- A message that neither ends the subscription nor announces a book. -/
theorem Tuned.received (h : w.Tuned n) (now : τ) {m : Message} (hends : m.ends = false) (hannounced : m.announced? = none) :
    (w.received now m.arrival).TunedAt n .receiving := by
  cases m with
  | binary => exact h.receive now
  | text f =>
    have hends' : (Frame.read f).ends = false := hends
    have hannounced' : (Frame.read f).created? = none := hannounced
    show (w.received now (.text f)).TunedAt n .receiving
    rw [Watcher.received, if_neg (by simp [hends']), handle]
    cases hread : Frame.read f with
    | acknowledged =>
      dsimp only
      rw [hasFallback, h.acknowledge.alone, if_neg Bool.false_ne_true]
      exact h.acknowledge.receive now
    | created e => rw [hread] at hannounced'; cases hannounced'
    | complained payload => exact Tuned.receive (w := w.say _) ⟨h.alone, h.listeners, h.active⟩ now
    | unreadable => exact Tuned.receive (w := w.say _) ⟨h.alone, h.listeners, h.active⟩ now
    | silent => exact h.receive now
    | completed => rw [hread] at hends'; cases hends'
    | rejected payload => rw [hread] at hends'; cases hends'

/-- A message that announces a book. -/
theorem Tuned.received_announced (h : w.Tuned n) (now : τ) {m : Message} {e : BookEvent} (hannounced : m.announced? = some e) :
    (w.received now m.arrival).TunedAt n
      (if n = 0 then .receiving else .notifying ⟨.booksAdded, [.book e], 0⟩ ⟨[], [], .receive⟩) := by
  obtain ⟨f, rfl, hf⟩ := (Message.announced?_eq_some_iff m e).mp hannounced
  have hread := (Frame.read_eq_created_iff f e).mpr hf
  have hempty : w.listeners.isEmpty = true ↔ n = 0 := by
    rw [List.isEmpty_iff, ← List.length_eq_zero_iff, h.listeners]
  show (w.received now (.text f)).TunedAt n _
  have hmarked : ({ w with lastEventAt := some now } : Watcher τ).Tuned n := ⟨h.alone, h.listeners, h.active⟩
  have hreceived : w.received now (.text f) = if w.listeners.isEmpty then { w with lastEventAt := some now }.receive now
      else { w with lastEventAt := some now }.goto (.notifying ⟨.booksAdded, [.book e], 0⟩ ⟨[], [], .receive⟩) := by
    rw [Watcher.received, hread, handle, hread]
    rfl
  rw [hreceived]
  by_cases hn : n = 0
  · rw [if_pos (hempty.mpr hn), if_pos hn]
    exact hmarked.receive now
  · rw [if_neg (mt hempty.mp hn), if_neg hn]
    exact hmarked.goto _

/-- The end of a listener's call: the next listener has its turn, or the next message. -/
theorem Tuned.notified (h : w.Tuned n) (now : τ) (o : Outcome) (left : List Event) (hook : Hook) (batch : List Event) (k : Nat) :
    (w.notified now o left ⟨hook, batch, k⟩ ⟨[], [], .receive⟩).TunedAt n
      (if k + 1 < n then .notifying ⟨hook, left, k + 1⟩ ⟨[], [], .receive⟩ else .receiving) := by
  have hnoted (v : Watcher τ) (hv : v.Tuned n) :
      (if k + 1 < v.listeners.length then v.goto (.notifying ⟨hook, left, k + 1⟩ ⟨[], [], .receive⟩)
        else pursue now [] .receive [] v).TunedAt n
          (if k + 1 < n then .notifying ⟨hook, left, k + 1⟩ ⟨[], [], .receive⟩ else .receiving) := by
    rw [hv.listeners]
    split
    · exact hv.goto _
    · exact hv.receive now
  cases o with
  | returned => exact hnoted w h
  | late => exact hnoted (w.say _) ⟨h.alone, h.listeners, h.active⟩
  | failed => exact hnoted (w.say _) ⟨h.alone, h.listeners, h.active⟩

/-- A message that ends the subscription ends the session: the watcher waits for the next one or has given up. -/
theorem TunedAt.ended (h : w.TunedAt n .receiving) (now : τ) {m : Message} (hends : m.ends = true) :
    (w.received now m.arrival).position.Rests := by
  obtain ⟨f, rfl, -⟩ := (Message.ends_iff m).mp hends
  have hended : w.endsSession (.arrival (.text f)) = true := by
    unfold endsSession
    rw [h.position]
    exact hends
  have hreact : w.react now (.arrival (.text f)) = w.received now (.text f) := by simp [react, carryOn, h.position]
  have hend := sessionEnd_of_endsSession hended now
  rw [hreact] at hend
  show (w.received now (.text f)).condition.position.Rests
  generalize (w.received now (.text f)).condition = c' at hend ⊢
  cases hend with
  | finished _ => trivial
  | givesUp _ _ _ => trivial
  | disables _ _ hs => exact absurd (h.alone.symm.trans hs) Bool.false_ne_true
  | diverts _ _ hs _ => exact absurd (h.alone.symm.trans hs) Bool.false_ne_true
  | draws _ _ _ => trivial

/-! ## The course of a session -/

/-- Where a session stands whose task has taken messages and made calls. -/
inductive Course (n : Nat) (w : Watcher τ) (taken : List Message) (cs : List Call) : Prop
  /-- The subscription is not open yet. -/
  | opening (hw : w.Tuned n) (hp : w.position.Opens) (htaken : taken = []) (hcs : cs = [])
  /-- All books that were announced have been told to all listeners. -/
  | listening (hw : w.TunedAt n .receiving) (hopen : ∀ m ∈ taken, m.ends = false)
      (htold : ∀ i < n, Told i (Message.tidings taken) cs)
  /-- The listeners before the `k`-th have been told of all books, and that one is being told of the last. -/
  | telling {es : List BookEvent} {e : BookEvent} {batch : List Event} {k : Nat}
      (hw : w.TunedAt n (.notifying ⟨.booksAdded, batch, k⟩ ⟨[], [], .receive⟩)) (hk : k < n)
      (hopen : ∀ m ∈ taken, m.ends = false) (htidings : Message.tidings taken = es ++ [e])
      (hbatch : LeftAlone k es.length cs → batch = [.book e]) (htold : ∀ i < n, Told i (if i < k then es ++ [e] else es) cs)
  /-- The last message has ended the session, and all books that were announced have been told to all listeners. -/
  | finished {before : List Message} {last : Message} (hp : w.position.Rests) (htaken : taken = before ++ [last])
      (hopen : ∀ m ∈ before, m.ends = false) (hlast : last.ends = true)
      (htold : ∀ i < n, Told i (Message.tidings taken) cs)

variable {taken : List Message} {cs : List Call} {x : Stimulus}

omit [Scalar τ] in
theorem callsIn_entering (p : Position τ) : callsIn p.entering = [] := by
  cases p with
  | querying s a => cases s <;> rfl
  | _ => rfl

/-- Only the end of a listener's call shows one. -/
theorem callsIn_deeds (hx : ∀ o left, x ≠ .called o left) : callsIn (w.deeds now x) = [] := by
  have hoccasion : callsIn (w.occasion x) = [] := by
    unfold occasion
    split
    · rfl
    · rename_i c s a hp
      cases s with
      | listing => rfl
      | reading e rest => simp [callsIn, Sweep.deeds, Deed.call?, Function.comp_def]
    · exact absurd rfl (hx _ _)
    · rfl
    · rfl
  rcases react_cases now x w with ⟨hnone, -⟩ | ⟨-, hdeeds⟩
  · rw [hnone]
    rfl
  · rw [hdeeds, callsIn, List.filterMap_append]
    show callsIn (w.occasion x) ++ callsIn (w.react now x).position.entering = []
    rw [hoccasion, callsIn_entering]
    rfl

theorem callsIn_deeds_called {d : Delivery} {e : Errand} (hp : w.position = .notifying d e) (now : τ) (o : Outcome)
    (left : List Event) : callsIn (w.deeds now (.called o left)) = [⟨d.listener, d.hook, d.batch, left⟩] := by
  have hcarry : w.carryOn now (.called o left) = some (w.notified now o left d e) := by simp [carryOn, hp]
  have hoccasion : w.occasion (.called o left) = [.told d.listener d.hook d.batch left] := by simp [occasion, hp]
  rw [deeds, hcarry, hoccasion]
  show ⟨d.listener, d.hook, d.batch, left⟩ :: callsIn (w.notified now o left d e).position.entering = _
  rw [callsIn_entering]

omit [Scalar τ] in
/-- The course is that of another watcher whose task stands at the same place. -/
theorem Course.of_eq (h : w.Course n taken cs) (hbasis : v.basis = w.basis) (hactive : v.life.active = w.life.active)
    (hposition : v.position = w.position) : v.Course n taken cs := by
  cases h with
  | opening hw hp htaken hcs => exact .opening (hw.of_eq hbasis hactive) (hposition ▸ hp) htaken hcs
  | listening hw hopen htold =>
    exact .listening ⟨hw.toTuned.of_eq hbasis hactive, hposition.trans hw.position⟩ hopen htold
  | telling hw hk hopen htidings hbatch htold =>
    exact .telling ⟨hw.toTuned.of_eq hbasis hactive, hposition.trans hw.position⟩ hk hopen htidings hbatch htold
  | finished hp htaken hopen hlast htold => exact .finished (hposition ▸ hp) htaken hopen hlast htold

/-- A look at the health leaves the session where it is. -/
theorem Course.health (h : w.Course n taken cs) (now : τ) : (w.health now).2.Course n taken cs := by
  unfold Watcher.health
  cases w.strategy with
  | polling interval => exact h
  | push url fallback interval patience =>
    have hactive : (w.readBreaker now).life.active = w.life.active :=
      congrArg (Lifecycle.active ∘ Condition.life) (condition_readBreaker w now)
    exact h.of_eq (basis_readBreaker now w) hactive (position_readBreaker now w)

/-- The connection is open. -/
theorem Course.opened (h : w.Course n taken cs) (hp : w.position = .connecting) :
    (w.opened now (.ok ())).Course n taken cs := by
  cases h with
  | opening hw _ htaken hcs =>
    exact .opening (hw.goto (.sending .hello)).toTuned trivial htaken hcs
  | listening hw _ _ => cases hp.symm.trans hw.position
  | telling hw _ _ _ _ _ => cases hp.symm.trans hw.position
  | finished hrests _ _ _ _ =>
    rw [hp] at hrests
    exact hrests.elim

/-- A frame was sent that opens the subscription. -/
theorem Course.sent (h : w.Course n taken cs) {frame : Opening} (hp : w.position = .sending frame) :
    (w.sent now frame (.ok ())).Course n taken cs := by
  cases h with
  | opening hw _ htaken hcs =>
    subst htaken hcs
    cases frame with
    | hello => exact .opening (hw.goto (.sending .subscribe)).toTuned trivial rfl rfl
    | subscribe => exact .listening (hw.receive now) (by simp) fun i _ => told_nil i
  | listening hw _ _ => cases hp.symm.trans hw.position
  | telling hw _ _ _ _ _ => cases hp.symm.trans hw.position
  | finished hrests _ _ _ _ =>
    rw [hp] at hrests
    exact hrests.elim

omit [Scalar τ] in
/-- A task that waits for a message is in a session that goes on, and all is told. -/
theorem Course.of_receiving (h : w.Course n taken cs) (hp : w.position = .receiving) :
    w.TunedAt n .receiving ∧ (∀ m ∈ taken, m.ends = false) ∧ ∀ i < n, Told i (Message.tidings taken) cs := by
  cases h with
  | opening _ hopens _ _ =>
    rw [hp] at hopens
    exact hopens.elim
  | listening hw hopen htold => exact ⟨hw, hopen, htold⟩
  | telling hw _ _ _ _ _ => cases hp.symm.trans hw.position
  | finished hrests _ _ _ _ =>
    rw [hp] at hrests
    exact hrests.elim

omit [Scalar τ] in
/-- A session that was ended by a message is over. -/
theorem Course.rests_of_ends (h : w.Course n taken cs) {m : Message} (hm : m ∈ taken) (hends : m.ends = true) :
    w.position.Rests := by
  have hnot (hopen : ∀ m ∈ taken, m.ends = false) : False := Bool.false_ne_true ((hopen m hm).symm.trans hends)
  cases h with
  | opening _ _ htaken _ =>
    subst htaken
    cases hm
  | listening _ hopen _ => exact (hnot hopen).elim
  | telling _ _ hopen _ _ _ => exact (hnot hopen).elim
  | finished hp _ _ _ _ => exact hp

/-- A message is received. -/
theorem Course.received (h : w.Course n taken cs) (hp : w.position = .receiving) (m : Message) :
    (w.received now m.arrival).Course n (taken ++ [m]) cs := by
  obtain ⟨hw, hopen, htold⟩ := h.of_receiving hp
  have htidings := Message.tidings_snoc hopen m
  cases hends : m.ends with
  | true =>
    rw [Message.announced?_of_ends hends, Option.toList_none, List.append_nil] at htidings
    exact .finished (hw.ended now hends) rfl hopen hends (htidings ▸ htold)
  | false =>
    have hopen' : ∀ m' ∈ taken ++ [m], m'.ends = false := by
      intro m' hm'
      rcases List.mem_append.mp hm' with hm' | hm'
      · exact hopen m' hm'
      · rw [List.mem_singleton.mp hm', hends]
    cases hannounced : m.announced? with
    | none =>
      rw [hannounced, Option.toList_none, List.append_nil] at htidings
      exact .listening (hw.toTuned.received now hends hannounced) hopen' (htidings ▸ htold)
    | some e =>
      rw [hannounced, Option.toList_some] at htidings
      have hnext := hw.toTuned.received_announced now hannounced
      by_cases hn : n = 0
      · rw [if_pos hn] at hnext
        exact .listening hnext hopen' fun i hi => absurd hi (by omega)
      · rw [if_neg hn] at hnext
        exact .telling hnext (by omega) hopen' htidings (fun _ => rfl) fun i hi => by
          rw [if_neg (Nat.not_lt_zero i)]
          exact htold i hi

/-- The call of a listener has ended. -/
theorem Course.notified (h : w.Course n taken cs) {d : Delivery} {e : Errand} (hp : w.position = .notifying d e)
    (o : Outcome) (left : List Event) :
    (w.notified now o left d e).Course n taken (cs ++ [⟨d.listener, d.hook, d.batch, left⟩]) := by
  cases h with
  | opening _ hopens _ _ =>
    rw [hp] at hopens
    exact hopens.elim
  | listening hw _ _ => cases hp.symm.trans hw.position
  | @telling es e batch k hw hk hopen htidings hbatch htold =>
    cases hp.symm.trans hw.position
    have hnext := hw.toTuned.notified now o left .booksAdded batch k
    let call : Call := ⟨k, .booksAdded, batch, left⟩
    have htold' : ∀ i < n, Told i (if i < k + 1 then es ++ [e] else es) (cs ++ [call]) := by
      intro i hi
      by_cases hik : i = k
      · subst hik
        have htold := htold i hi
        rw [if_neg (Nat.lt_irrefl i)] at htold
        rw [if_pos (Nat.lt_succ_self i)]
        exact htold.snoc rfl rfl hbatch
      · have htold := (htold i hi).snoc_of_ne (c := call) (Ne.symm hik)
        have hlt : i < k + 1 ↔ i < k := by omega
        simpa only [hlt] using htold
    by_cases hlast : k + 1 < n
    · rw [if_pos hlast] at hnext
      refine .telling hnext hlast hopen htidings (fun halone => ?_) htold'
      have hplace : (callsTo k (cs ++ [call]))[es.length]? = some call := by
        have hcalled := htold k hk
        rw [if_neg (Nat.lt_irrefl k)] at hcalled
        rw [callsTo_snoc (c := call) rfl, ← hcalled.length_eq, List.getElem?_concat_length]
      have hleft : left = batch := halone k (Nat.lt_succ_self k) call hplace
      rw [hleft]
      exact hbatch fun j hj c hc => halone j (Nat.lt_succ_of_lt hj) c (getElem?_callsTo_snoc hc call)
    · rw [if_neg hlast] at hnext
      refine .listening hnext hopen fun i hi => ?_
      have htold := htold' i hi
      rw [if_pos (by omega)] at htold
      rw [htidings]
      exact htold
  | finished hrests _ _ _ _ =>
    rw [hp] at hrests
    exact hrests.elim

/-- What the task does not wait for leaves the session where it is, and what it waits for takes it a step further. -/
theorem Course.react (h : w.Course n taken cs) (now : τ) (x : Stimulus) (ms : List Message) (hx : x.isControl = false)
    (hnone : w.carryOn now x = none → ms = [])
    (hturn : ∀ w', Turn now w x w' → w'.Course n (taken ++ ms) (cs ++ callsIn (w.deeds now x))) :
    (w.react now x).Course n (taken ++ ms) (cs ++ callsIn (w.deeds now x)) := by
  cases hc : w.carryOn now x with
  | some w' =>
    have hturned := turn_of_carryOn hc
    rw [hturned.react_eq]
    exact hturn w' hturned
  | none =>
    have hdeeds : w.deeds now x = [] := by rw [deeds, hc]
    rw [hnone hc, hdeeds, List.append_nil, show callsIn [] = [] from rfl, List.append_nil]
    cases x with
    | start => cases hx
    | stop => cases hx
    | woken => cases hx
    | asked => exact h.health now
    | _ =>
      rw [show w.react now _ = w by simp [Watcher.react, hc]]
      exact h

end Watcher

/-! ## Sessions as they pass -/

/-- A watcher in a session, with the messages that wait for it. -/
structure Feed (τ : Type) where
  watcher : Watcher τ
  waiting : List Message

/-- What can occur in a session: it is opened, messages come in, and the task takes them or waits in vain, and calls its
listeners. -/
inductive Occurrence where
  /-- The connection is open. -/
  | opens
  /-- A frame was sent that opens the subscription. -/
  | sends
  | arrives (m : Message)
  /-- The task receives the message that has waited longest. -/
  | takes
  /-- The task has waited in vain. -/
  | lapses
  /-- The call of a listener ends and leaves the batch as given. -/
  | answers (o : Outcome) (left : List Event)
  /-- Someone asks for the health. -/
  | asked

/-- The message that comes in. -/
def Occurrence.arrived : Occurrence → List Message
  | arrives m => [m]
  | _ => []

/-- The messages that come in one after the other. -/
def arrived {τ : Type} (xs : List (τ × Occurrence)) : List Message := xs.flatMap (·.2.arrived)

namespace Feed

variable {τ : Type}

/-- The message that the task receives if it takes one. -/
def next? (f : Feed τ) : Option Message :=
  match f.watcher.position with
  | .receiving => f.waiting.head?
  | _ => none

/-- What an occurrence brings to the watcher. -/
def stimulus? (f : Feed τ) : Occurrence → Option Stimulus
  | .opens => some (.opened (.ok ()))
  | .sends => some (.sent (.ok ()))
  | .arrives _ => none
  | .takes => f.next?.map fun m => .arrival m.arrival
  | .lapses => some (.arrival .nothing)
  | .answers o left => some (.called o left)
  | .asked => some .asked

/-- The message that an occurrence hands over to the watcher. -/
def taken (f : Feed τ) : Occurrence → List Message
  | .takes => f.next?.toList
  | _ => []

variable [Scalar τ]

/-- The session after an occurrence. -/
def step (now : τ) (o : Occurrence) (f : Feed τ) : Feed τ where
  watcher := match f.stimulus? o with
    | some x => f.watcher.react now x
    | none => f.watcher
  waiting := f.waiting.drop (f.taken o).length ++ o.arrived

/-- What the task does about an occurrence. -/
def deeds (now : τ) (o : Occurrence) (f : Feed τ) : List Deed :=
  match f.stimulus? o with
  | some x => f.watcher.deeds now x
  | none => []

/-- The session after a run. -/
def run (f : Feed τ) : List (τ × Occurrence) → Feed τ
  | [] => f
  | (now, o) :: xs => run (f.step now o) xs

/-- What the task has done in a run. -/
def history (f : Feed τ) : List (τ × Occurrence) → List Deed
  | [] => []
  | (now, o) :: xs => f.deeds now o ++ history (f.step now o) xs

variable {n : Nat} {f : Feed τ} {before : List Message} {cs : List Call}

omit [Scalar τ] in
theorem next?_cases (f : Feed τ) :
    f.next? = none ∨ ∃ m rest, f.next? = some m ∧ f.watcher.position = .receiving ∧ f.waiting = m :: rest := by
  unfold next?
  split
  · rename_i hp
    cases f.waiting with
    | nil => exact Or.inl rfl
    | cons m rest => exact Or.inr ⟨m, rest, rfl, hp, rfl⟩
  · exact Or.inl rfl

/-- No message is lost. -/
theorem waiting_step (now : τ) (o : Occurrence) (f : Feed τ) :
    f.waiting ++ o.arrived = f.taken o ++ (f.step now o).waiting := by
  have hwaiting : f.waiting = f.taken o ++ f.waiting.drop (f.taken o).length := by
    cases o with
    | takes =>
      rcases f.next?_cases with hnone | ⟨m, rest, hsome, -, hwaiting⟩
      · simp [taken, hnone]
      · simp [taken, hsome, hwaiting]
    | _ => rfl
  show f.waiting ++ o.arrived = f.taken o ++ (f.waiting.drop (f.taken o).length ++ o.arrived)
  rw [← List.append_assoc, ← hwaiting]

/-- An occurrence takes the session a step further. -/
theorem course_step (h : f.watcher.Course n before cs) (now : τ) (o : Occurrence) :
    (f.step now o).watcher.Course n (before ++ f.taken o) (cs ++ callsIn (f.deeds now o)) := by
  cases o with
  | arrives m => simpa [step, stimulus?, taken, deeds, callsIn] using h
  | asked => exact h.react now .asked [] rfl (fun _ => rfl) fun w' hturn => by cases hturn
  | opens =>
    refine h.react now (.opened (.ok ())) [] rfl (fun _ => rfl) fun w' hturn => ?_
    cases hturn with
    | opened _ hp =>
      rw [Watcher.callsIn_deeds (by simp), List.append_nil, List.append_nil]
      exact h.opened hp
  | sends =>
    refine h.react now (.sent (.ok ())) [] rfl (fun _ => rfl) fun w' hturn => ?_
    cases hturn with
    | sent _ hp =>
      rw [Watcher.callsIn_deeds (by simp), List.append_nil, List.append_nil]
      exact h.sent hp
  | lapses =>
    refine h.react now (.arrival .nothing) [] rfl (fun _ => rfl) fun w' hturn => ?_
    cases hturn with
    | arrival _ hp =>
      obtain ⟨hw, hopen, htold⟩ := h.of_receiving hp
      rw [Watcher.callsIn_deeds (by simp), List.append_nil, List.append_nil]
      exact .listening (hw.toTuned.receive now) hopen htold
  | answers o left =>
    refine h.react now (.called o left) [] rfl (fun _ => rfl) fun w' hturn => ?_
    cases hturn with
    | called _ _ hp =>
      have hcalls := Watcher.callsIn_deeds_called hp now o left
      rw [hcalls, List.append_nil]
      exact h.notified hp o left
  | takes =>
    rcases f.next?_cases with hnone | ⟨m, rest, hsome, hp, -⟩
    · simpa [step, stimulus?, taken, deeds, callsIn, hnone] using h
    · have hreact : (f.watcher.react now (.arrival m.arrival)).Course n (before ++ [m])
          (cs ++ callsIn (f.watcher.deeds now (.arrival m.arrival))) := by
        refine h.react now (.arrival m.arrival) [m] rfl (fun hc => ?_) fun w' hturn => ?_
        · simp [Watcher.carryOn, hp] at hc
        · cases hturn with
          | arrival _ _ =>
            rw [Watcher.callsIn_deeds (by simp), List.append_nil]
            exact h.received hp m
      simpa [step, stimulus?, taken, deeds, hsome] using hreact

/-- A run takes the session further, and hands over messages in the order in which they came. -/
theorem course_run (h : f.watcher.Course n before cs) (xs : List (τ × Occurrence)) :
    ∃ taken, f.waiting ++ arrived xs = taken ++ (f.run xs).waiting ∧
      (f.run xs).watcher.Course n (before ++ taken) (cs ++ callsIn (f.history xs)) := by
  induction xs generalizing f before cs with
  | nil => exact ⟨[], by simp [arrived, run], by simpa [run, history, callsIn] using h⟩
  | cons x xs ih =>
    obtain ⟨now, o⟩ := x
    obtain ⟨taken, hwaiting, hcourse⟩ := ih (course_step h now o)
    refine ⟨f.taken o ++ taken, ?_, ?_⟩
    · calc f.waiting ++ arrived ((now, o) :: xs) = f.waiting ++ o.arrived ++ arrived xs := by simp [arrived]
        _ = f.taken o ++ ((f.step now o).waiting ++ arrived xs) := by rw [waiting_step now o f, List.append_assoc]
        _ = f.taken o ++ taken ++ (f.run ((now, o) :: xs)).waiting := by rw [hwaiting, ← List.append_assoc]; rfl
    · have hhistory : callsIn (f.history ((now, o) :: xs)) =
          callsIn (f.deeds now o) ++ callsIn ((f.step now o).history xs) := List.filterMap_append
      rw [hhistory, ← List.append_assoc, ← List.append_assoc]
      exact hcourse

omit [Scalar τ] in
theorem taken_of_rests (hp : f.watcher.position.Rests) (o : Occurrence) : f.taken o = [] := by
  cases o with
  | takes =>
    rcases f.next?_cases with hnone | ⟨m, rest, -, hreceiving, -⟩
    · rw [taken, hnone]
      rfl
    · rw [hreceiving] at hp
      exact hp.elim
  | _ => rfl

/-- When a session is over nothing changes the watcher. -/
theorem watcher_step_of_rests (hp : f.watcher.position.Rests) (now : τ) {o : Occurrence} (ho : o ≠ .asked) :
    (f.step now o).watcher = f.watcher := by
  cases hposition : f.watcher.position with
  | absent => cases o <;> simp_all [step, stimulus?, next?, Watcher.react, Watcher.carryOn]
  | napping seconds => cases o <;> simp_all [step, stimulus?, next?, Watcher.react, Watcher.carryOn]
  | _ => rw [hposition] at hp; exact hp.elim

/-- **All tidings of a session are delivered**, to every listener one at a time and in their order, whatever else comes in,
frames that cannot be read among it, and however the calls of the listeners end. A listener that changes a batch changes
it for those after it alone. Messages are taken in the order in which they come; the one that ends the subscription ends
the session, and from then on nothing is taken and nothing changes. -/
theorem tidings_delivered (f : Feed τ) (halone : f.watcher.strategy.hasFallback = false)
    (hactive : f.watcher.life.active = true) (hopens : f.watcher.position.Opens) (xs : List (τ × Occurrence)) :
    (∃ taken, f.waiting ++ arrived xs = taken ++ (f.run xs).waiting ∧
      (f.run xs).watcher.Course f.watcher.listeners.length taken (callsIn (f.history xs)) ∧
      ((∃ m ∈ taken, m.ends = true) → (f.run xs).watcher.position.Rests ∧ ∀ (now : τ) (o : Occurrence), o ≠ .asked →
        (f.run xs).taken o = [] ∧ ((f.run xs).step now o).watcher = (f.run xs).watcher)) ∧
    (∀ (m : Message) (e : BookEvent), m.announced? = some e ↔ ∃ frame, m = .text frame ∧ Frame.Announces frame e) ∧
    (∀ m : Message, m.ends = true ↔ ∃ frame, m = .text frame ∧ Frame.Closes frame) := by
  refine ⟨?_, Message.announced?_eq_some_iff, Message.ends_iff⟩
  have hcourse : f.watcher.Course f.watcher.listeners.length [] [] := .opening ⟨halone, rfl, hactive⟩ hopens rfl rfl
  obtain ⟨taken, hwaiting, hrun⟩ := course_run hcourse xs
  refine ⟨taken, hwaiting, hrun, ?_⟩
  rintro ⟨m, hm, hends⟩
  have hrests := hrun.rests_of_ends hm hends
  exact ⟨hrests, fun now o ho => ⟨taken_of_rests hrests o, watcher_step_of_rests hrests now ho⟩⟩

/-- A watcher with two listeners, about to connect. -/
def attentive : Watcher Rat :=
  (Watcher.subscribed "ws://stump.local/api/graphql" 60 30 ⟨500, true⟩ ["shelf", "index"] none
    (Backoff.fresh 1 8 2 0 none []) (Breaker.fresh "test" 5 60)).react 0 .begun

/-- A frame that announces a book. -/
def announcement : TextFrame :=
  ⟨"\x7b\"type\": \"data\", \"payload\": \x7b\"data\": \x7b\"readEvents\": \x7b\"__typename\": \"CreatedMedia\", " ++
    "\"id\": \"m\", \"seriesId\": \"s\", \"libraryId\": \"L\"\x7d\x7d\x7d\x7d", 900⟩

/-- A frame that ends the subscription. -/
def completion : TextFrame := ⟨"\x7b\"type\": \"complete\"\x7d", 900⟩

/-- A session in which a book is announced after other messages, and once more when it is over. There is no room for the
second message, which would end the subscription. -/
def broadcast : Feed Rat :=
  ⟨attentive, [.binary, .text ⟨completion.text, 0⟩, .text announcement, .text completion, .text announcement]⟩

theorem opens_broadcast : broadcast.watcher.strategy.hasFallback = false ∧ broadcast.watcher.life.active = true ∧
    broadcast.watcher.position.Opens := by
  have hposition : broadcast.watcher.position = .connecting := by with_unfolding_all rfl
  refine ⟨by with_unfolding_all rfl, by with_unfolding_all rfl, ?_⟩
  rw [hposition]
  trivial

/-- Both listeners return, and the first one empties the batch. -/
def emptying : List (Rat × Occurrence) :=
  [(0, .opens), (0, .sends), (0, .sends), (1, .takes), (1, .takes), (2, .takes), (2, .answers .returned []),
    (2, .answers .returned []), (3, .takes)]

/-- A batch that the first listener has emptied reaches the second one without the book. -/
theorem emptied_batch_of_broadcast :
    broadcast.watcher.strategy.hasFallback = false ∧ broadcast.watcher.life.active = true ∧
      broadcast.watcher.position.Opens ∧ (broadcast.run emptying).waiting = [.text announcement] ∧
      Message.tidings broadcast.waiting = [⟨"L", "s", "m"⟩] ∧
      (callsTo 1 (callsIn (broadcast.history emptying))).map Call.batch = [[]] ∧
      ¬ (callsTo 1 (callsIn (broadcast.history emptying))).map Call.batch =
        (Message.tidings broadcast.waiting).map fun e => [.book e] := by
  obtain ⟨halone, hactive, hopens⟩ := opens_broadcast
  obtain ⟨hleft, htidings, hbatches⟩ : (broadcast.run emptying).waiting = [.text announcement] ∧
      Message.tidings broadcast.waiting = [⟨"L", "s", "m"⟩] ∧
      (callsTo 1 (callsIn (broadcast.history emptying))).map Call.batch = [[]] := by
    decide +kernel
  refine ⟨halone, hactive, hopens, hleft, htidings, hbatches, ?_⟩
  rw [hbatches, htidings]
  simp

/-- The task waits in vain once, the first listener fails, and the second is late. -/
def reception : List (Rat × Occurrence) :=
  [(0, .opens), (0, .sends), (0, .sends), (1, .takes), (1, .takes), (31, .lapses), (32, .takes),
    (33, .answers .failed [.book ⟨"L", "s", "m"⟩]), (34, .answers .late [.book ⟨"L", "s", "m"⟩]), (35, .takes),
    (36, .takes)]

/-- The book is told to both listeners, and the session is over. -/
theorem tidings_delivered_of_broadcast :
    broadcast.watcher.strategy.hasFallback = false ∧ broadcast.watcher.life.active = true ∧
      broadcast.watcher.position.Opens ∧ (broadcast.run reception).waiting = [.text announcement] ∧
      (broadcast.run reception).watcher.position.Rests ∧
      callsIn (broadcast.history reception) =
        [⟨0, .booksAdded, [.book ⟨"L", "s", "m"⟩], [.book ⟨"L", "s", "m"⟩]⟩,
          ⟨1, .booksAdded, [.book ⟨"L", "s", "m"⟩], [.book ⟨"L", "s", "m"⟩]⟩] := by
  obtain ⟨halone, hactive, hopens⟩ := opens_broadcast
  obtain ⟨hleft, hcalls⟩ : (broadcast.run reception).waiting = [.text announcement] ∧
      callsIn (broadcast.history reception) =
        [⟨0, .booksAdded, [.book ⟨"L", "s", "m"⟩], [.book ⟨"L", "s", "m"⟩]⟩,
          ⟨1, .booksAdded, [.book ⟨"L", "s", "m"⟩], [.book ⟨"L", "s", "m"⟩]⟩] := by
    decide +kernel
  have hends : (Message.text completion).ends = true := by decide +kernel
  have hother : Message.text completion ∉ [Message.text announcement] := by decide +kernel
  have hmem : Message.text completion ∈ broadcast.waiting ++ arrived reception := .tail _ (.tail _ (.tail _ (.head _)))
  obtain ⟨⟨taken, hwaiting, -, hfinished⟩, -, -⟩ := tidings_delivered broadcast halone hactive hopens reception
  refine ⟨halone, hactive, hopens, hleft, ?_, hcalls⟩
  -- where the run has led is not to be computed once more
  generalize broadcast.run reception = after at hleft hwaiting hfinished ⊢
  rw [hwaiting, hleft] at hmem
  have htaken : Message.text completion ∈ taken := (List.mem_append.mp hmem).resolve_right hother
  exact (hfinished ⟨_, htaken, hends⟩).1

end Feed

end MediaWatch
