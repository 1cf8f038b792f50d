import MediaWatch.Client.Session
import MediaWatch.Schema.Scalar

/-!
# Scripted replies

`Replies` are a server that answers each message with the next of a list of exchanges, whatever it is asked, on a
virtual clock. `Replies.hold` leads a conversation with it and tells what was sent and reported meanwhile.
-/

namespace MediaWatch.Rehearsal

open Client

/-- A scripted server. -/
structure Replies where
  /-- What comes of the messages to come. -/
  ready : List Exchange
  /-- What was sent, the latest first. -/
  sent : List Sent
  now : Number

namespace Replies

/-- What comes of a message when no reply is left. -/
def silence : Exchange := .unreachable "no scripted response"

/-- Takes a message. -/
def send (m : Sent) (r : Replies) : Exchange × Replies :=
  (r.ready.headD silence, { r with ready := r.ready.tail, sent := m :: r.sent })

/-- The most sleeps for one permit. -/
def patience : Nat := 100000

/-- How deep arrays and objects may lie in a reply. -/
def room : Nat := 950

/-- Scripted replies as the outside of a client. -/
def wire : Wire Replies Number where
  send := send
  decoding := ⟨room, .lenient⟩
  sleeper := ⟨fun r => r.now, fun r d => some { r with now := r.now.add d }⟩
  patience := patience

/-- What a conversation has led to. -/
structure Held (α : Type) where
  result : Except Failure α
  sent : List Sent
  notices : List Notice
  after : Conversation Replies Number

/-- Leads a conversation. -/
def hold {α : Type} (t : Talk Replies Number α) (c : Conversation Replies Number) : Held α :=
  let (result, c) := (ExceptT.run t).run { c with notices := [], outside := { c.outside with sent := [] } }
  ⟨result, c.outside.sent.reverse, c.notices.reverse, c⟩

end Replies

end MediaWatch.Rehearsal
