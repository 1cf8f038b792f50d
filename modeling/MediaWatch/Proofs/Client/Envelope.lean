import Mathlib.Data.List.Forall2
import MediaWatch.Client.Exchange
import MediaWatch.Proofs.Json.Nesting

/-!
# Envelopes

What an answer has to hold for its data to count. `Envelope` says of the members of an object that they are those of an
envelope, with the messages of the errors it reports and the data it has; `Answer.Holds` says it of the body of an
answer. Bodies that fit are read accordingly (`Answer.holds_iff`): one that holds no envelope is at fault, and one that
does holds a single one.
-/

namespace MediaWatch

open Json Schema Schema.Fields

/-! ## Reading parts -/

/-- The value of a member; null counts as none. -/
def Json.Members.set? (name : Text) (members : Members) : Option Value :=
  match members.value? name with
  | some .null => none
  | v => v

namespace Schema

namespace Checked

variable {α β γ : Type}

theorem map_eq_ok_iff {x : Checked α} {f : α → β} {b : β} : x.map f = .ok b ↔ ∃ a, x = .ok a ∧ f a = b := by
  cases x <;> simp [Except.map]

theorem under_eq_ok_iff {step : Step} {x : Checked α} {a : α} : under step x = .ok a ↔ x = .ok a := by
  cases x <;> simp [under]

theorem both_eq_ok_iff {f : α → β → γ} {x : Checked α} {y : Checked β} {c : γ} :
    both f x y = .ok c ↔ ∃ a b, x = .ok a ∧ y = .ok b ∧ f a b = c := by
  cases x <;> cases y <;> simp [both]

/-- A list is read item by item. -/
theorem all_eq_ok_iff {read : Value → Checked α} {i : Nat} {items : List Value} {as : List α} :
    all read i items = .ok as ↔ List.Forall₂ (fun v a => read v = .ok a) items as := by
  induction items generalizing i as with
  | nil => simp [all, eq_comm]
  | cons v items ih =>
    simp only [all, both_eq_ok_iff, under_eq_ok_iff, ih, List.forall₂_cons_left_iff]
    constructor
    · rintro ⟨a, as, ha, has, rfl⟩
      exact ⟨a, as, ha, has, rfl⟩
    · rintro ⟨a, as, ha, has, rfl⟩
      exact ⟨a, as, ha, has, rfl⟩

end Checked

namespace Codec

variable {α : Type} {conversions : Conversions} {v : Value}

theorem text_read_eq_ok_iff {s : Text} : text.read conversions v = .ok s ↔ v = .str s := by
  cases v <;> simp [text, Checked.refuse]

theorem object_read_eq_ok_iff {members : Members} : object.read conversions v = .ok members ↔ v = .obj members := by
  cases v <;> simp [object, Checked.refuse]

theorem list_read_eq_ok_iff {c : Codec α} {as : List α} : c.list.read conversions v = .ok as ↔
    ∃ items, v = .arr items ∧ List.Forall₂ (fun v a => c.read conversions v = .ok a) items as := by
  cases v <;> simp [list, Checked.refuse, Checked.all_eq_ok_iff]

theorem optional_read_eq_ok_iff {c : Codec α} {a : Option α} : c.optional.read conversions v = .ok a ↔
    (v = .null ∧ a = none) ∨ v ≠ .null ∧ ∃ b, c.read conversions v = .ok b ∧ some b = a := by
  cases v with
  | null => simp [optional, eq_comm]
  | _ => simp [optional, Checked.map_eq_ok_iff]

end Codec

namespace Fields

variable {ρ α β : Type} {conversions : Conversions} {members : Members} {name : String}

theorem map_read_eq_ok_iff {f : α → β} {x : Fields ρ α} {aliased : Bool} {b : β} :
    (f <$> x).read aliased conversions members = .ok b ↔ ∃ a, x.read aliased conversions members = .ok a ∧ f a = b :=
  Checked.map_eq_ok_iff

theorem seq_read_eq_ok_iff {f : Fields ρ (α → β)} {x : Fields ρ α} {aliased : Bool} {b : β} :
    (f <*> x).read aliased conversions members = .ok b ↔ ∃ g a, f.read aliased conversions members = .ok g ∧
      x.read aliased conversions members = .ok a ∧ g a = b :=
  Checked.both_eq_ok_iff

theorem lookup_false (name : String) (members : Members) : lookup false name members = (name, members.value? name) := by
  rw [lookup, wireName, if_neg Bool.false_ne_true]
  cases members.value? name <;> rfl

/-- A field that has to be given, read under its own name. -/
theorem required_read_eq_ok_iff {c : Codec α} {get : ρ → α} {a : α} :
    (required name c get).read false conversions members = .ok a ↔
      ∃ v, members.value? name = some v ∧ c.read conversions v = .ok a := by
  simp only [required, field, lookup_false]
  cases members.value? name with
  | none => simp [Checked.refuse, Checked.under]
  | some v => simp [Checked.under_eq_ok_iff]

/-- A field that may be missing, read under its own name. -/
theorem maybe_read_eq_ok_iff {c : Codec α} {get : ρ → Option α} {a : Option α} :
    (maybe name c get).read false conversions members = .ok a ↔ (members.set? name = none ∧ a = none) ∨
      ∃ v b, members.set? name = some v ∧ c.read conversions v = .ok b ∧ some b = a := by
  simp only [maybe, given, field, lookup_false, Members.set?]
  cases members.value? name with
  | none => simp [Checked.under, eq_comm]
  | some v =>
    rw [Checked.under_eq_ok_iff, Codec.optional_read_eq_ok_iff]
    cases v <;> simp

/-- Such a field can be read if it is missing or its value can. -/
theorem exists_maybe_read_iff {c : Codec α} {get : ρ → Option α} :
    (∃ a, (maybe name c get).read false conversions members = .ok a) ↔
      ∀ v, members.set? name = some v → ∃ a, c.read conversions v = .ok a := by
  simp only [maybe_read_eq_ok_iff]
  cases members.set? name <;> simp

end Fields

end Schema

namespace Client

/-! ## What an envelope is -/

section Envelope

variable (conversions : Conversions)

/-- An entry of the errors that an envelope reports: an object with a message. Where it lies is a list of labels, and
more about it is an object, if they are told. -/
def Entry (v : Value) (message : Text) : Prop :=
  ∃ members : Members, v = .obj members ∧ members.value? "message" = some (.str message) ∧
    (∀ path, members.set? "path" = some path →
      ∃ labels items, path = .arr items ∧
        List.Forall₂ (fun v l => (Codec.label true).read conversions v = .ok l) items labels) ∧
    (∀ more, members.set? "extensions" = some more → ∃ extensions, more = .obj extensions)

/-- The members of an envelope: its errors, if it has any, are a list of entries with the given messages, and its data,
if it has any, are an object. -/
structure Envelope (members : Members) (messages : List Text) (data : Option Members) : Prop where
  errors : (members.set? "errors" = none ∧ messages = []) ∨
    ∃ items, members.set? "errors" = some (.arr items) ∧ List.Forall₂ (Entry conversions) items messages
  data : members.set? "data" = data.map .obj

end Envelope

variable {conversions : Conversions}

/-- The messages of the errors that an envelope reports. -/
def messages (r : Server.Response) : List Text := (r.errors.getD []).map (·.message)

/-- Entries are read as such. -/
theorem entry_iff {v : Value} {message : Text} : Entry conversions v message ↔
    ∃ e, Server.ErrorEntry.codec.read conversions v = .ok e ∧ e.message = message := by
  cases v with
  | obj members =>
    have hpath : (∃ a, (maybe "path" (Codec.label true).list Server.ErrorEntry.path).read false conversions members =
        .ok a) ↔ _ :=
      exists_maybe_read_iff
    have hextensions : (∃ a, (maybe "extensions" .object Server.ErrorEntry.extensions).read false conversions members =
        .ok a) ↔ _ :=
      exists_maybe_read_iff
    simp only [Codec.list_read_eq_ok_iff, Codec.object_read_eq_ok_iff] at hpath hextensions
    show _ ↔ ∃ e, (Server.ErrorEntry.mk <$> required "message" .text _ <*> maybe "path" (Codec.label true).list _
      <*> maybe "extensions" .object _ : Fields Server.ErrorEntry _).read false conversions members = .ok e ∧ _
    simp only [seq_read_eq_ok_iff, map_read_eq_ok_iff, required_read_eq_ok_iff, Codec.text_read_eq_ok_iff]
    constructor
    · rintro ⟨_, ⟨⟩, hmessage, hlies, hmore⟩
      obtain ⟨path, hpath⟩ := hpath.mpr hlies
      obtain ⟨extensions, hextensions⟩ := hextensions.mpr hmore
      exact ⟨_, ⟨_, extensions, ⟨_, path, ⟨message, ⟨_, hmessage, rfl⟩, rfl⟩, hpath, rfl⟩, hextensions, rfl⟩, rfl⟩
    · rintro ⟨_, ⟨_, extensions, ⟨_, path, ⟨_, ⟨_, hmessage, rfl⟩, rfl⟩, hread, rfl⟩, hread', rfl⟩, rfl⟩
      exact ⟨members, rfl, hmessage, hpath.mp ⟨path, hread⟩, hextensions.mp ⟨extensions, hread'⟩⟩
  | _ => simp [Entry, Server.ErrorEntry.codec, Codec.plain, Codec.record, Checked.refuse]

/-- The entries of a list are read one by one. -/
theorem forall₂_entry_iff {items : List Value} {told : List Text} : List.Forall₂ (Entry conversions) items told ↔
    ∃ es, List.Forall₂ (fun v e => Server.ErrorEntry.codec.read conversions v = .ok e) items es ∧
      es.map (·.message) = told := by
  constructor
  · intro h
    induction h with
    | nil => exact ⟨[], .nil, rfl⟩
    | cons hentry _ ih =>
      obtain ⟨e, he, rfl⟩ := entry_iff.mp hentry
      obtain ⟨es, hes, rfl⟩ := ih
      exact ⟨e :: es, .cons he hes, rfl⟩
  · rintro ⟨es, hes, rfl⟩
    exact List.forall₂_map_right_iff.mpr (hes.imp fun v e he => entry_iff.mpr ⟨e, he, rfl⟩)

/-- The parts of an envelope are read one by one. -/
theorem envelope_iff {members : Members} {told : List Text} {data : Option Members} :
    Envelope conversions members told data ↔
      ∃ r, Server.Response.codec.read conversions (.obj members) = .ok r ∧ messages r = told ∧ r.data = data := by
  have hread : ∀ r, Server.Response.codec.read conversions (.obj members) = .ok r ↔
      (maybe "data" .object _).read false conversions members = .ok r.data ∧
      (maybe "errors" Server.ErrorEntry.codec.list _).read false conversions members = .ok r.errors := fun r => by
    show (Server.Response.mk <$> maybe "data" .object _ <*> maybe "errors" Server.ErrorEntry.codec.list _
      : Fields Server.Response _).read false conversions members = .ok r ↔ _
    simp only [seq_read_eq_ok_iff, map_read_eq_ok_iff]
    constructor
    · rintro ⟨_, errors, ⟨data, hdata, rfl⟩, herrors, rfl⟩
      exact ⟨hdata, herrors⟩
    · rintro ⟨hdata, herrors⟩
      exact ⟨_, r.errors, ⟨r.data, hdata, rfl⟩, herrors, rfl⟩
  simp only [hread, maybe_read_eq_ok_iff, Codec.list_read_eq_ok_iff, Codec.object_read_eq_ok_iff]
  constructor
  · rintro ⟨herrors, hdata⟩
    have hdata' : members.set? "data" = none ∧ data = none ∨ ∃ v b, members.set? "data" = some v ∧ v = .obj b ∧
        some b = data := by
      rw [hdata]
      cases data <;> simp
    rcases herrors with ⟨hnone, rfl⟩ | ⟨items, hitems, hentries⟩
    · exact ⟨⟨data, none⟩, ⟨hdata', Or.inl ⟨hnone, rfl⟩⟩, rfl, rfl⟩
    · obtain ⟨es, hes, htold⟩ := forall₂_entry_iff.mp hentries
      exact ⟨⟨data, some es⟩, ⟨hdata', Or.inr ⟨_, es, hitems, ⟨items, rfl, hes⟩, rfl⟩⟩, htold, rfl⟩
  · rintro ⟨⟨data, errors⟩, ⟨hdata, herrors⟩, rfl, rfl⟩
    refine ⟨?_, ?_⟩
    · rcases herrors with ⟨hnone, rfl⟩ | ⟨_, es, hitems, ⟨items, rfl, hes⟩, rfl⟩
      · exact Or.inl ⟨hnone, rfl⟩
      · exact Or.inr ⟨items, hitems, forall₂_entry_iff.mpr ⟨es, hes, rfl⟩⟩
    · rcases hdata with ⟨hnone, rfl⟩ | ⟨_, data, hsome, rfl, rfl⟩
      · exact hnone
      · exact hsome

/-! ## Bodies -/

namespace Answer

/-- There is room for the body of an answer. -/
def Fits (room : Nat) (a : Answer) : Prop := ∀ text, Encoding.decode a.body = some text → Reader.Fits room text

/-- The body of an answer is an envelope with the given errors and data. -/
def Holds (conversions : Conversions) (a : Answer) (told : List Text) (data : Option Members) : Prop :=
  ∃ text members, Encoding.decode a.body = some text ∧ Reader.Reads text (.obj members) ∧
    Envelope conversions members told data

variable {a : Answer} {d : Decoding}

/-- A body that fits is read as the value that it means. -/
theorem json_eq_ok_iff {room : Nat} (hfits : a.Fits room) {v : Value} :
    a.json room = .ok v ↔ ∃ text, Encoding.decode a.body = some text ∧ Reader.Reads text v := by
  unfold json
  cases hdecode : Encoding.decode a.body with
  | none => simp
  | some text =>
    have hparse : Reader.parse room text = .ok v ↔ Reader.Reads text v :=
      Reader.parse_eq_ok_iff.trans (and_iff_right (hfits text hdecode))
    simp only [Option.some.injEq, exists_eq_left', ← hparse]
    rcases Reader.parse room text with (_ | _ | _) | v <;> simp

/-- A body is read as the envelope that it holds. -/
theorem holds_iff (hfits : a.Fits d.room) {told : List Text} {data : Option Members} :
    a.Holds d.conversions told data ↔ ∃ r, a.envelope d = .ok r ∧ messages r = told ∧ r.data = data := by
  have hholds : a.Holds d.conversions told data ↔
      ∃ members, a.json d.room = .ok (.obj members) ∧ Envelope d.conversions members told data := by
    simp only [json_eq_ok_iff hfits, Holds]
    constructor
    · rintro ⟨text, members, hdecode, hreads, henvelope⟩
      exact ⟨members, ⟨text, hdecode, hreads⟩, henvelope⟩
    · rintro ⟨members, ⟨text, hdecode, hreads⟩, henvelope⟩
      exact ⟨text, members, hdecode, hreads, henvelope⟩
  rw [hholds]
  unfold envelope
  simp only [envelope_iff]
  rcases a.json d.room with cause | v
  · simp
  · cases v with
    | obj members => cases h : Server.Response.codec.read d.conversions (.obj members) <;> simp [h]
    | _ => simp [Server.Response.codec, Codec.plain, Codec.record, Checked.refuse]

/-- A body that fits is not at fault for its depth. -/
theorem envelope_ne_tooDeep (hfits : a.Fits d.room) (object : Bool) : a.envelope d ≠ .error (.tooDeep object) := by
  have hjson : a.json d.room ≠ .error (.tooDeep object) := by
    unfold json
    cases hdecode : Encoding.decode a.body with
    | none => simp
    | some text =>
      have hsettled : Reader.parse d.room text ≠ .error (.tooDeep object) := hfits text hdecode object
      dsimp only
      split <;> simp_all
  unfold envelope
  split
  · rename_i cause hcause
    exact fun h => hjson (hcause.trans (congrArg Except.error (Except.error.inj h)))
  · split <;> simp

end Answer

/-! ## The data of an answer -/

namespace Exchange

variable {a : Answer} {d : Decoding}

theorem data_answered (h : a.isSuccess = true) : (answered a).data d =
    match a.envelope d with
    | .error cause => .error cause.failure
    | .ok r => dataOf r := by
  show (success "GraphQL request" (answered a)).bind _ = _
  rw [success, if_pos h]
  rfl

theorem data_refused (h : a.isSuccess = false) :
    (answered a).data d = .error (.client (.refused "GraphQL request" a.status)) := by
  show (success "GraphQL request" (answered a)).bind _ = _
  rw [success, if_neg (ne_true_of_eq_false h)]
  rfl

/-- A body without an envelope is at fault. -/
theorem data_malformed (h : a.isSuccess = true) (hfits : a.Fits d.room)
    (hnone : ∀ told data, ¬a.Holds d.conversions told data) :
    ∃ cause, (answered a).data d = .error (.client (.malformed cause)) := by
  rw [data_answered h]
  cases hr : a.envelope d with
  | error cause =>
    cases cause with
    | tooDeep object => exact absurd hr (Answer.envelope_ne_tooDeep hfits object)
    | _ => exact ⟨_, rfl⟩
  | ok r => exact absurd ((Answer.holds_iff hfits).mpr ⟨r, hr, rfl, rfl⟩) (hnone _ _)

/-- Errors win over data. -/
theorem data_reported (h : a.isSuccess = true) (hfits : a.Fits d.room) {told : List Text} {data : Option Members}
    (hholds : a.Holds d.conversions told data) (hne : told ≠ []) :
    (answered a).data d = .error (.client (.reported told)) := by
  obtain ⟨⟨_, errors⟩, hr, rfl, rfl⟩ := (Answer.holds_iff hfits).mp hholds
  rw [data_answered h, hr]
  rcases errors with _ | _ | ⟨e, es⟩
  · exact absurd rfl hne
  · exact absurd rfl hne
  · rfl

/-- Without errors the data count, if there are any. -/
theorem data_unreported (h : a.isSuccess = true) (hfits : a.Fits d.room) {data : Option Members}
    (hholds : a.Holds d.conversions [] data) : (answered a).data d = data.elim (.error (.client .noData)) .ok := by
  obtain ⟨⟨found, errors⟩, hr, hnone, rfl⟩ := (Answer.holds_iff hfits).mp hholds
  rw [data_answered h, hr]
  rcases errors with _ | _ | ⟨e, es⟩
  · cases found <;> rfl
  · cases found <;> rfl
  · exact absurd hnone (List.cons_ne_nil _ _)

end Exchange

end Client

end MediaWatch
