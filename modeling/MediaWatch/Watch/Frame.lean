import MediaWatch.Event
import MediaWatch.Json.Reader
import MediaWatch.Json.Display

/-!
# Frames of the subscription

`Frame.read` says what a text frame from the server means. A frame that is no JSON object, or whose parts are not of
the kind that its type asks for, is unreadable, and so is one that cannot be read in the room there is; one of an
unknown type, or without a complete event, says nothing.
-/

namespace MediaWatch

open Json

/-- A text frame as it is received, with the room there is for reading it: how deep arrays and objects may lie in it. -/
structure TextFrame where
  text : Text
  room : Nat
  deriving Repr, DecidableEq

/-- The meaning of a text frame. -/
inductive Frame where
  | acknowledged
  | created (e : BookEvent)
  | complained (payload : Value)
  | completed
  | rejected (payload : Value)
  | silent
  | unreadable

namespace Frame

/-- The text of an identifier; null has none. -/
def identifier : Option Value → Option Text
  | none | some .null => none
  | some v => some v.display

/-- The book that a `CreatedMedia` event tells of, if its three identifiers are there; `none` for other events. -/
def createdMedia (event : Members) : Option BookEvent :=
  match Members.value? "__typename" event with
  | some (.str (.plain "CreatedMedia")) => do
    let library ← identifier (Members.value? "libraryId" event)
    let series ← identifier (Members.value? "seriesId" event)
    let id ← identifier (Members.value? "id" event)
    return ⟨library, series, id⟩
  | _ => none

/-- The members of a part that may be absent; a part of another kind is an error. -/
def part : Option Value → Except Unit Members
  | none => .ok []
  | some v => if v.isBlank then .ok [] else match v with
    | .obj members => .ok members
    | _ => .error ()

/-- The event that a payload carries. -/
def readEvent (payload : Option Value) : Except Unit (Option BookEvent) := do
  let payload ← part payload
  let data ← part (Members.value? "data" payload)
  match Members.value? "readEvents" data with
  | none => return none
  | some v => if v.isBlank then return none else match v with
    | .obj event => return createdMedia event
    | _ => .error ()

/-- The meaning of an envelope. -/
def ofEnvelope (envelope : Members) : Frame :=
  let payload := Members.value? "payload" envelope
  match Members.value? "type" envelope with
  | some (.str (.plain "data")) =>
    match readEvent payload with
    | .ok (some e) => .created e
    | .ok none => .silent
    | .error _ => .unreadable
  | some (.str (.plain "connection_ack")) => .acknowledged
  | some (.str (.plain "error")) => .complained (payload.getD .null)
  | some (.str (.plain "complete")) => .completed
  | some (.str (.plain "connection_error")) => .rejected (payload.getD .null)
  | _ => .silent

/-- The meaning of a text frame. -/
def read (f : TextFrame) : Frame :=
  match Reader.parse f.room f.text with
  | .ok (.obj envelope) => ofEnvelope envelope
  | _ => .unreadable

/-- Whether the server has ended the subscription. -/
def ends : Frame → Bool
  | .completed | .rejected _ => true
  | _ => false

end Frame

/-- Reads a single event of the subscription: an object, of which `Frame.createdMedia` tells. -/
def Frame.readCreated (v : Value) : Except Unit (Option BookEvent) :=
  match v with
  | .obj event => .ok (Frame.createdMedia event)
  | _ => .error ()

end MediaWatch
