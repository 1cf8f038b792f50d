import MediaWatch.Proofs.Client.Envelope
import MediaWatch.Proofs.Client.Pace

/-!
# What an operation comes to

An `Operation` queries the server, and a `Reading` tells which member of the data makes its value. `Operation.Verdict`
lists what comes of it: the checks of an answer stand in one order, each constructor assumes that those before it have
passed, and the first one that fails is the error. The main result, `Operation.told_eq_verdict`, says that an
operation comes to its verdict, that there is one for every answer whose body fits, and only one. It holds whatever
conversions the values of an answer are read with.
-/

namespace MediaWatch.Client

open Json Schema

variable {σ τ α : Type}

/-! ## Errors as they are told apart -/

/-- The classes of errors that a caller tells apart, with what each of them carries. -/
inductive Kind where
  | transport
  | authentication (status : Int)
  | http (status : Int)
  | graphQL (messages : List Text)
  | emptyResponse
  | notFound
  deriving Repr, DecidableEq

/-- An error as a caller sees it. -/
structure Report where
  kind : Kind
  text : Text
  deriving Repr, DecidableEq

namespace ClientError

def kind : ClientError → Kind
  | unreachable .. => .transport
  | refused _ status => if isAuthentication status then .authentication status else .http status
  | absent _ => .notFound
  | malformed _ => .graphQL []
  | reported messages => .graphQL messages
  | noData => .emptyResponse
  | misshapen _ => .graphQL []

def report (e : ClientError) : Report := ⟨e.kind, e.message⟩

end ClientError

/-- An outcome as a caller sees it, unless it is a failure of another sort. -/
def told : Except Failure α → Option (Except Report α)
  | .ok a => some (.ok a)
  | .error (.client e) => some (.error e.report)
  | .error _ => none

/-! ## How data are read -/

/-- The value of a member under its name on the wire, or else under its plain name. -/
def named (field : String) (data : Members) : Option Value :=
  (data.value? (camel field)).or (data.value? field)

/-- How the data of an answer make the value of an operation. -/
inductive Reading (α : Type) : Type 1 where
  /-- The data do not matter. -/
  | unread (a : α)
  /-- One member counts, and has to be there. -/
  | member {β : Type} (field : String) (codec : Codec β) (value : β → α)
  /-- One member counts, and is null if there is no such record. -/
  | record (field : String) (codec : Codec α) (absence : Text)

namespace Reading

/-- The data do not have the shape that is expected of them. -/
def Misfits (conversions : Conversions) (data : Members) : Reading α → Prop
  | unread _ => False
  | member field codec _ => named field data = none ∨
      ∃ v issues, named field data = some v ∧ codec.read conversions v = .error issues
  | record field codec _ =>
      ∃ v issues, named field data = some v ∧ v ≠ .null ∧ codec.read conversions v = .error issues

/-- There is no such record. -/
def Lacks (data : Members) (absence : Text) : Reading α → Prop
  | unread _ => False
  | member .. => False
  | record field _ text => absence = text ∧ (named field data = none ∨ named field data = some .null)

/-- The data make a value. -/
def Gives (conversions : Conversions) (data : Members) (a : α) : Reading α → Prop
  | unread b => a = b
  | member field codec value => ∃ v b, named field data = some v ∧ codec.read conversions v = .ok b ∧ a = value b
  | record field codec _ => ∃ v, named field data = some v ∧ v ≠ .null ∧ codec.read conversions v = .ok a

end Reading

/-! ## The operations -/

/-- The operations that query the server, by the type of their values. -/
inductive Operation : Type → Type where
  | libraries : Operation (List Server.Library)
  | library (id : Text) : Operation Server.Library
  | scanLibrary (id : Text) : Operation Unit
  | seriesPage (library : Text) (number size : Int) : Operation (Server.Page Server.Series)
  | series (id : Text) : Operation Server.Series
  | scanSeries (id : Text) : Operation Bool
  | mediaPage (series : Text) (number size : Int) : Operation (Server.Page Server.Medium)
  | allMedia (series : Text) : Operation (List Server.Medium)
  | medium (id : Text) : Operation Server.Medium
  | mediumWithSeries (id : Text) : Operation Server.Medium
  | write (w : Writing) : Operation Unit

namespace Operation

/-- What is called. -/
def call : Operation α → Call α
  | libraries => .libraries
  | library id => .library id
  | scanLibrary id => .scanLibrary id
  | seriesPage lib number size => .seriesPage lib number size
  | series id => .series id
  | scanSeries id => .scanSeries id
  | mediaPage id number size => .mediaPage id number size
  | allMedia id => .allMedia id
  | medium id => .medium id
  | mediumWithSeries id => .mediumWithSeries id
  | write w => w.call

/-- What the client does. -/
def talk [Scalar τ] (wire : Wire σ τ) : Operation α → Talk σ τ α
  | scanLibrary id => Client.scanLibrary wire id
  | write w => w.talk wire
  | libraries => Client.call wire .libraries
  | library id => Client.call wire (.library id)
  | seriesPage lib number size => Client.call wire (.seriesPage lib number size)
  | series id => Client.call wire (.series id)
  | scanSeries id => Client.call wire (.scanSeries id)
  | mediaPage id number size => Client.call wire (.mediaPage id number size)
  | allMedia id => Client.call wire (.allMedia id)
  | medium id => Client.call wire (.medium id)
  | mediumWithSeries id => Client.call wire (.mediumWithSeries id)

/-- How its data are read. -/
def reading : Operation α → Reading α
  | libraries => .member "libraries" (Call.nodes Server.Library.codec) id
  | library id => .record "library_by_id" Server.Library.codec ("Library not found: " ++ id)
  | scanLibrary _ => .unread ()
  | seriesPage _ number size => .member "series" (Call.Nodes.codec Server.Series.codec)
      fun found => .ofNodes found.nodes found.pageInfo number size
  | series id => .record "series_by_id" Server.Series.codec ("Series not found: " ++ id)
  | scanSeries _ => .member "scan_series" Codec.bool id
  | mediaPage _ number size => .member "media" (Call.Nodes.codec Server.Medium.codec)
      fun found => .ofNodes found.nodes found.pageInfo number size
  | allMedia _ => .member "media" (Call.nodes Server.Medium.codec) id
  | medium id => .record "media_by_id" Server.Medium.codec ("Media not found: " ++ id)
  | mediumWithSeries id => .record "media_by_id" Server.Medium.withSeries ("Media not found: " ++ id)
  | write _ => .unread ()

/-- What comes of an exchange. The checks stand in their order, and each constructor assumes that those before it have
passed. -/
inductive Verdict (conversions : Conversions) (o : Operation α) : Exchange → Except Report α → Prop where
  | unreachable {reason} :
      Verdict conversions o (.unreachable reason) (.error ⟨.transport, "GraphQL request failed: " ++ reason⟩)
  | unauthorized {a} (hstatus : a.status = 401 ∨ a.status = 403) :
      Verdict conversions o (.answered a)
        (.error ⟨.authentication a.status, "GraphQL request failed with status " ++ toString a.status⟩)
  | refused {a} (hstatus : a.status < 200 ∨ 300 ≤ a.status) (hother : a.status ≠ 401 ∧ a.status ≠ 403) :
      Verdict conversions o (.answered a)
        (.error ⟨.http a.status, "GraphQL request failed with status " ++ toString a.status⟩)
  | malformed {a} (hstatus : 200 ≤ a.status ∧ a.status < 300)
      (hbody : ∀ messages data, ¬a.Holds conversions messages data) :
      Verdict conversions o (.answered a) (.error ⟨.graphQL [], "Malformed GraphQL response"⟩)
  | reported {a messages data} (hstatus : 200 ≤ a.status ∧ a.status < 300)
      (hbody : a.Holds conversions messages data) (herrors : messages ≠ []) :
      Verdict conversions o (.answered a)
        (.error ⟨.graphQL messages, "GraphQL errors: " ++ Text.intercalate ", " messages⟩)
  | noData {a} (hstatus : 200 ≤ a.status ∧ a.status < 300) (hbody : a.Holds conversions [] none) :
      Verdict conversions o (.answered a) (.error ⟨.emptyResponse, "GraphQL response data is null"⟩)
  | misshapen {a data} (hstatus : 200 ≤ a.status ∧ a.status < 300) (hbody : a.Holds conversions [] (some data))
      (hdata : o.reading.Misfits conversions data) :
      Verdict conversions o (.answered a) (.error ⟨.graphQL [], "Unexpected GraphQL response shape"⟩)
  | notFound {a data absence} (hstatus : 200 ≤ a.status ∧ a.status < 300)
      (hbody : a.Holds conversions [] (some data)) (hdata : o.reading.Lacks data absence) :
      Verdict conversions o (.answered a) (.error ⟨.notFound, absence⟩)
  | value {a data v} (hstatus : 200 ≤ a.status ∧ a.status < 300) (hbody : a.Holds conversions [] (some data))
      (hdata : o.reading.Gives conversions data v) :
      Verdict conversions o (.answered a) (.ok v)

end Operation

/-! ## Data are read so -/

theorem lookup_true (field : String) (data : Members) : (Fields.lookup true field data).2 = named field data := by
  rw [Fields.lookup, Fields.wireName, if_pos rfl, named]
  cases data.value? (camel field) with
  | some v => rfl
  | none => cases data.value? field <;> rfl

/-- A decoder goes by a reading. -/
structure Reading.Decodes (decode : Conversions → Members → Except Failure α) (r : Reading α) : Prop where
  misfits : ∀ {conversions data}, r.Misfits conversions data →
    ∃ issues, decode conversions data = .error (.client (.misshapen issues))
  lacks : ∀ {conversions data text}, r.Lacks data text → decode conversions data = .error (.client (.absent text))
  gives : ∀ {conversions data a}, r.Gives conversions data a → decode conversions data = .ok a

namespace Reading

/-- Data misfit, lack the record or give a value. -/
theorem cases (r : Reading α) (conversions : Conversions) (data : Members) :
    r.Misfits conversions data ∨ (∃ text, r.Lacks data text) ∨ ∃ a, r.Gives conversions data a := by
  cases r with
  | unread a => exact Or.inr (Or.inr ⟨a, rfl⟩)
  | member field codec value =>
    cases hv : named field data with
    | none => exact Or.inl (Or.inl hv)
    | some v =>
      cases hread : codec.read conversions v with
      | error issues => exact Or.inl (Or.inr ⟨v, issues, hv, hread⟩)
      | ok b => exact Or.inr (Or.inr ⟨value b, v, b, hv, hread, rfl⟩)
  | record field codec absence =>
    cases hv : named field data with
    | none => exact Or.inr (Or.inl ⟨absence, rfl, Or.inl hv⟩)
    | some v =>
      by_cases hnull : v = .null
      · exact Or.inr (Or.inl ⟨absence, rfl, Or.inr (hnull ▸ hv)⟩)
      · cases hread : codec.read conversions v with
        | error issues => exact Or.inl ⟨v, issues, hv, hnull, hread⟩
        | ok a => exact Or.inr (Or.inr ⟨a, v, hv, hnull, hread⟩)

theorem decodes_unread (a : α) : (unread a).Decodes fun _ _ => .ok a where
  misfits h := h.elim
  lacks h := h.elim
  gives h := congrArg Except.ok h.symm

/-- Data of a single field, by what the field is given as. -/
theorem shaped_field {β : Type} (field : String) (c : Codec β) (missing : Checked β) (get : β → β)
    (conversions : Conversions) (data : Members) :
    ∃ step, Call.shaped (Fields.field field c missing get) conversions data =
      match Checked.under step ((named field data).elim missing (c.read conversions)) with
      | .ok b => .ok b
      | .error issues => .error (.client (.misshapen issues)) := by
  have hread : (Fields.field field c missing get).read true conversions data =
      Checked.under (.field (Fields.lookup true field data).1)
        ((named field data).elim missing (c.read conversions)) := by
    simp only [Fields.field, ← lookup_true]
    rcases Fields.lookup true field data with ⟨used, _ | v⟩ <;> rfl
  refine ⟨.field (Fields.lookup true field data).1, ?_⟩
  rw [← hread]
  rfl

theorem decodes_member {β : Type} {field : String} {c : Codec β} {value : β → α}
    {decode : Conversions → Members → Except Failure α}
    (h : ∀ conversions data, decode conversions data = (Call.shaped (Call.single field c) conversions data).map value) :
    (member field c value).Decodes decode where
  misfits {conversions data} hmisfits := by
    obtain ⟨step, hshaped⟩ := shaped_field field c (.refuse .missing) id conversions data
    rw [h, Call.single, Fields.required, hshaped]
    rcases hmisfits with hnone | ⟨v, issues, hsome, hread⟩
    · rw [hnone]
      exact ⟨_, rfl⟩
    · rw [hsome, Option.elim_some, hread]
      exact ⟨_, rfl⟩
  lacks h := h.elim
  gives {conversions data a} hgives := by
    obtain ⟨step, hshaped⟩ := shaped_field field c (.refuse .missing) id conversions data
    obtain ⟨v, b, hsome, hread, rfl⟩ := hgives
    rw [h, Call.single, Fields.required, hshaped, hsome, Option.elim_some, hread]
    rfl

theorem optional_read {c : Codec α} {conversions : Conversions} {v : Value} (h : v ≠ .null) :
    c.optional.read conversions v = (c.read conversions v).map some := by
  cases v with
  | null => exact absurd rfl h
  | _ => rfl

theorem decodes_record (field : String) (c : Codec α) (absence : Text) :
    (record field c absence).Decodes (Call.record field c absence) where
  misfits {conversions data} h := by
    obtain ⟨step, hshaped⟩ := shaped_field field c.optional (.ok none) id conversions data
    obtain ⟨v, issues, hsome, hnull, hread⟩ := h
    rw [hsome, Option.elim_some, optional_read hnull, hread] at hshaped
    exact ⟨_, congrArg (· >>= _) hshaped⟩
  lacks {conversions data text} h := by
    obtain ⟨step, hshaped⟩ := shaped_field field c.optional (.ok none) id conversions data
    obtain ⟨rfl, hnone | hnull⟩ := h
    · rw [hnone] at hshaped
      exact congrArg (· >>= _) hshaped
    · rw [hnull] at hshaped
      exact congrArg (· >>= _) hshaped
  gives {conversions data a} h := by
    obtain ⟨step, hshaped⟩ := shaped_field field c.optional (.ok none) id conversions data
    obtain ⟨v, hsome, hnull, hread⟩ := h
    rw [hsome, Option.elim_some, optional_read hnull, hread] at hshaped
    exact congrArg (· >>= _) hshaped

end Reading

namespace Operation

theorem decodes (o : Operation α) : o.reading.Decodes o.call.decode := by
  cases o with
  | libraries => exact Reading.decodes_member fun _ _ => (congrFun Except.map_id _).symm
  | library id => exact Reading.decodes_record _ _ _
  | scanLibrary id => exact Reading.decodes_unread ()
  | seriesPage lib number size => exact Reading.decodes_member fun _ _ => rfl
  | series id => exact Reading.decodes_record _ _ _
  | scanSeries id => exact Reading.decodes_member fun _ _ => (congrFun Except.map_id _).symm
  | mediaPage id number size => exact Reading.decodes_member fun _ _ => rfl
  | allMedia id => exact Reading.decodes_member fun _ _ => (congrFun Except.map_id _).symm
  | medium id => exact Reading.decodes_record _ _ _
  | mediumWithSeries id => exact Reading.decodes_record _ _ _
  | write w => cases w with
    | series id input => exact Reading.decodes_unread ()
    | medium id input => exact Reading.decodes_unread ()
    | cover c image => cases c <;> exact Reading.decodes_unread ()

/-! ## Outcomes -/

theorem isSuccess_iff {a : Answer} : a.isSuccess = true ↔ 200 ≤ a.status ∧ a.status < 300 := by
  simp [Answer.isSuccess]

theorem data_failed {d : Decoding} {a : Answer} (h : ¬(200 ≤ a.status ∧ a.status < 300)) :
    (Exchange.answered a).data d = .error (.client (.refused "GraphQL request" a.status)) :=
  Exchange.data_refused (Bool.eq_false_iff.mpr (mt isSuccess_iff.mp h))

theorem outcome_error {o : Operation α} {d : Decoding} {x : Exchange} {e : Failure} (h : x.data d = .error e) :
    o.call.outcome d x = .error e := by
  rw [Call.outcome, h]
  rfl

theorem outcome_ok {o : Operation α} {d : Decoding} {x : Exchange} {data : Members} (h : x.data d = .ok data) :
    o.call.outcome d x = o.call.decode d.conversions data := by
  rw [Call.outcome, h]
  rfl

/-- A call comes to its verdict. -/
theorem told_of_verdict {o : Operation α} {d : Decoding} {x : Exchange} {y : Except Report α}
    (hfits : ∀ a, x = .answered a → a.Fits d.room) (h : o.Verdict d.conversions x y) :
    told (o.call.outcome d x) = some y := by
  cases h with
  | unreachable => rfl
  | @unauthorized a hstatus =>
    have hauth : ClientError.isAuthentication a.status = true := by simpa [ClientError.isAuthentication] using hstatus
    rw [outcome_error (data_failed (by omega)), told, ClientError.report, ClientError.kind, if_pos hauth]
    rfl
  | @refused a hstatus hother =>
    have hauth : ¬ClientError.isAuthentication a.status = true := by simpa [ClientError.isAuthentication] using hother
    rw [outcome_error (data_failed (by omega)), told, ClientError.report, ClientError.kind, if_neg hauth]
    rfl
  | malformed hstatus hbody =>
    obtain ⟨cause, hdata⟩ := Exchange.data_malformed (isSuccess_iff.mpr hstatus) (hfits _ rfl) hbody
    rw [outcome_error hdata]
    rfl
  | reported hstatus hbody herrors =>
    rw [outcome_error (Exchange.data_reported (isSuccess_iff.mpr hstatus) (hfits _ rfl) hbody herrors)]
    rfl
  | noData hstatus hbody =>
    rw [outcome_error (Exchange.data_unreported (isSuccess_iff.mpr hstatus) (hfits _ rfl) hbody)]
    rfl
  | misshapen hstatus hbody hdata =>
    obtain ⟨issues, hdecode⟩ := o.decodes.misfits hdata
    rw [outcome_ok (Exchange.data_unreported (isSuccess_iff.mpr hstatus) (hfits _ rfl) hbody), hdecode]
    rfl
  | notFound hstatus hbody hdata =>
    rw [outcome_ok (Exchange.data_unreported (isSuccess_iff.mpr hstatus) (hfits _ rfl) hbody), o.decodes.lacks hdata]
    rfl
  | value hstatus hbody hdata =>
    rw [outcome_ok (Exchange.data_unreported (isSuccess_iff.mpr hstatus) (hfits _ rfl) hbody), o.decodes.gives hdata]
    rfl

/-- There is a verdict on every exchange, unless an error breaks it that is not about the transport. -/
theorem exists_verdict (conversions : Conversions) (o : Operation α) {x : Exchange}
    (hx : ∀ kind reason, x ≠ .broken kind reason) : ∃ y, o.Verdict conversions x y := by
  cases x with
  | unreachable reason => exact ⟨_, .unreachable⟩
  | broken kind reason => exact absurd rfl (hx kind reason)
  | answered a =>
    by_cases hstatus : 200 ≤ a.status ∧ a.status < 300
    · by_cases hbody : ∃ messages data, a.Holds conversions messages data
      · obtain ⟨messages, data, hbody⟩ := hbody
        by_cases herrors : messages = []
        · subst herrors
          cases data with
          | none => exact ⟨_, .noData hstatus hbody⟩
          | some data =>
            rcases o.reading.cases conversions data with hdata | ⟨text, hdata⟩ | ⟨v, hdata⟩
            · exact ⟨_, .misshapen hstatus hbody hdata⟩
            · exact ⟨_, .notFound hstatus hbody hdata⟩
            · exact ⟨_, .value hstatus hbody hdata⟩
        · exact ⟨_, .reported hstatus hbody herrors⟩
      · exact ⟨_, .malformed hstatus fun messages data h => hbody ⟨messages, data, h⟩⟩
    · by_cases hauth : a.status = 401 ∨ a.status = 403
      · exact ⟨_, .unauthorized hauth⟩
      · exact ⟨_, .refused (by omega) (by omega)⟩

end Operation

/-! ## In conversation -/

/-- What some talk comes to. -/
def Talk.result (t : Talk σ τ α) (s : Conversation σ τ) : Except Failure α := (t s).1

/-- What comes of a message that is sent in a conversation. -/
def Conversation.exchanged (wire : Wire σ τ) (m : Message) (s : Conversation σ τ) : Exchange :=
  (wire.send (s.client.sent m) s.outside).1

theorem result_call {wire : Wire σ τ} {c : Call α} {s : Conversation σ τ} (h : s.client.obstacle c.message = none) :
    (call wire c).result s = c.outcome wire.decoding (s.exchanged wire c.message) := by
  rw [Talk.result, call, bind_eq, exchange_eq, h]
  rfl

/-- What is reported of some talk does not change what it comes to. -/
theorem result_reported (t : Talk σ τ α) (n : Notice) (s : Conversation σ τ) :
    Talk.result (do let a ← t; say n; return a) s = t.result s := by
  rw [Talk.result, bind_eq, Talk.result]
  rcases t s with ⟨_ | a, s'⟩ <;> rfl

theorem result_write [Scalar τ] {wire : Wire σ τ} {c : Call α} (n : Notice) {s : Conversation σ τ}
    (hpermit : (acquired wire s).1 = .granted) (h : s.client.obstacle c.message = none) :
    (write wire c n).result s = c.outcome wire.decoding ((acquired wire s).2.exchanged wire c.message) := by
  rw [Talk.result, write, bind_eq, acquire_eq, if_pos hpermit]
  exact (result_reported (call wire c) n (acquired wire s).2).trans (result_call h)

namespace Operation

/-- The conversation in which an operation sends its message: a write has waited for its permit by then. -/
def begun [Scalar τ] (wire : Wire σ τ) (s : Conversation σ τ) : Operation α → Conversation σ τ
  | write _ => (acquired wire s).2
  | _ => s

/-- A write gets its permit. -/
def Permitted [Scalar τ] (wire : Wire σ τ) (s : Conversation σ τ) : Operation α → Prop
  | write _ => (acquired wire s).1 = .granted
  | _ => True

/-- What an operation comes to when its request can be sent. -/
theorem result_talk [Scalar τ] {o : Operation α} {wire : Wire σ τ} {s : Conversation σ τ}
    (hpermit : o.Permitted wire s) (hsend : s.client.obstacle o.call.message = none) :
    (o.talk wire).result s = o.call.outcome wire.decoding ((o.begun wire s).exchanged wire o.call.message) := by
  cases o with
  | scanLibrary id => exact (result_reported _ _ s).trans (result_call hsend)
  | write w =>
    rw [talk, w.talk_eq_write]
    exact result_write w.notice hpermit hsend
  | _ => exact result_call hsend

/-- **What every operation comes to.** Let the request of an operation be sent, and let the transport fail or the server
answer with any status and any body that fits. Then there is exactly one verdict, and the operation comes to it: the
value of the data, or the error of the first check that fails. -/
theorem told_eq_verdict [Scalar τ] (o : Operation α) {wire : Wire σ τ} {s : Conversation σ τ}
    (hpermit : o.Permitted wire s) (hsend : s.client.obstacle o.call.message = none)
    (hx : ∀ kind reason, (o.begun wire s).exchanged wire o.call.message ≠ .broken kind reason)
    (hfits : ∀ a, (o.begun wire s).exchanged wire o.call.message = .answered a → a.Fits wire.decoding.room) :
    ∃ y, told ((o.talk wire).result s) = some y ∧
      ∀ y', o.Verdict wire.decoding.conversions ((o.begun wire s).exchanged wire o.call.message) y' ↔ y' = y := by
  obtain ⟨y, hy⟩ := o.exists_verdict wire.decoding.conversions hx
  have htold := told_of_verdict hfits hy
  refine ⟨y, (result_talk hpermit hsend).symm ▸ htold, fun y' => ⟨fun h => ?_, fun h => h ▸ hy⟩⟩
  exact Option.some.inj ((told_of_verdict hfits h).symm.trans htold)

/-- An answer that reports an error beside data that lack the record. -/
def halfDone : Answer :=
  ⟨200, none,
    "\x7b\"data\":\x7b\"libraryById\":null\x7d,\"errors\":[\x7b\"message\":\"timed out\"\x7d]\x7d".toUTF8.data.toList⟩

/-- A server that always gives this answer. -/
def halfDoneWire : Wire Unit Number :=
  ⟨fun _ s => (.answered halfDone, s), ⟨1000, .lenient⟩, ⟨fun _ => .int 0, fun s _ => some s⟩, 0⟩

/-- A client that talks to it. -/
def halfDoneTalk : Conversation Unit Number :=
  ⟨⟨"http://s/", ⟨"http", "", "s", none, "/"⟩, "key", ⟨.int 2, .int 1, .int 2, .int 2, .int 0⟩, false⟩, (), []⟩

theorem halfDone_fits : halfDone.Fits 1000 := by
  intro text htext
  have hshort : (Encoding.decode halfDone.body).all (fun t => t.points.length < 1000) = true := by decide +kernel
  rw [htext, Option.all_some, decide_eq_true_eq] at hshort
  exact Reader.fits_of_length_lt hshort

/-- The error is reported, although the library is missing as well: its check comes first. -/
theorem told_eq_verdict_of_halfDone :
    let o := Operation.library "7"
    let x := (o.begun halfDoneWire halfDoneTalk).exchanged halfDoneWire o.call.message
    o.Permitted halfDoneWire halfDoneTalk ∧ halfDoneTalk.client.obstacle o.call.message = none ∧
      (∀ kind reason, x ≠ .broken kind reason) ∧ (∀ a, x = .answered a → a.Fits halfDoneWire.decoding.room) ∧
      told ((o.talk halfDoneWire).result halfDoneTalk) =
        some (.error ⟨.graphQL ["timed out"], "GraphQL errors: timed out"⟩) ∧
      ∀ y, o.Verdict halfDoneWire.decoding.conversions x y ↔
        y = .error ⟨.graphQL ["timed out"], "GraphQL errors: timed out"⟩ := by
  have hsend : halfDoneTalk.client.obstacle (Operation.library "7").call.message = none := by decide +kernel
  have hx : ∀ kind reason, ((Operation.library "7").begun halfDoneWire halfDoneTalk).exchanged halfDoneWire
      (Operation.library "7").call.message ≠ .broken kind reason := fun _ _ h => by cases h
  have hfits : ∀ a, ((Operation.library "7").begun halfDoneWire halfDoneTalk).exchanged halfDoneWire
      (Operation.library "7").call.message = .answered a → a.Fits halfDoneWire.decoding.room := by
    intro a ha
    rw [← Exchange.answered.inj ha]
    exact halfDone_fits
  have hpermit : (Operation.library "7").Permitted halfDoneWire halfDoneTalk := trivial
  obtain ⟨y, htold, hverdict⟩ := told_eq_verdict (.library "7") hpermit hsend hx hfits
  have hreport : (told (((Operation.library "7").talk halfDoneWire).result halfDoneTalk)).map (Except.map fun _ => ()) =
      some (.error ⟨.graphQL ["timed out"], "GraphQL errors: timed out"⟩) := by decide +kernel
  obtain rfl : y = .error ⟨.graphQL ["timed out"], "GraphQL errors: timed out"⟩ := by
    rw [htold] at hreport
    cases y with
    | ok v => cases hreport
    | error r => exact congrArg Except.error (Except.error.inj (Option.some.inj hreport))
  exact ⟨hpermit, hsend, hx, hfits, htold, hverdict⟩

end Operation

end MediaWatch.Client
