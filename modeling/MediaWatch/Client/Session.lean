import MediaWatch.Client.Call
import MediaWatch.Policy.Bucket
import MediaWatch.Notice

/-!
# Sessions with a server

A `Client` knows the server's base URL and the key to it, and paces its writes. `Talk` is a conversation that it leads
over a `Wire`, which carries messages, tells the time and lets it pass. `call` queries the server, `write` takes a
permit first, and `fetch` gets a cover.
-/

namespace MediaWatch

open Json

/-- A client of a server, which counts time in `τ`. -/
structure Client (τ : Type) where
  /-- The base URL, with one slash at its end. -/
  baseUrl : String
  /-- The same, taken apart. -/
  address : Url.Address
  apiKey : Text
  bucket : Bucket τ
  closed : Bool

namespace Client

variable {σ τ α : Type}

/-- The base URL of a client. -/
def normalBase (base : String) : String := Url.trimSlashes base ++ "/"

/-- A client of the server at a base URL, unless its host or port is bad. -/
def ofBase? (base : String) (apiKey : Text) (bucket : Bucket τ) : Option (Client τ) :=
  (Url.Address.ofBase? (normalBase base)).map fun address => ⟨normalBase base, address, apiKey, bucket, false⟩

/-- The authorization that goes with an API key. -/
def bearer (apiKey : Text) : Text := "Bearer " ++ apiKey

/-- A message as it is sent. -/
structure Sent where
  url : String
  authorization : Text
  message : Message

/-- The outside of a client: `send` carries a message, what comes back is decoded, and a sleeper tells how time
passes. -/
structure Wire (σ τ : Type) where
  send : Sent → σ → Exchange × σ
  decoding : Decoding
  sleeper : Bucket.Sleeper σ τ
  /-- The most sleeps for one permit. -/
  patience : Nat

/-- A client in conversation: what it has reported, the latest first, and the state of the outside. -/
structure Conversation (σ τ : Type) where
  client : Client τ
  outside : σ
  notices : List Notice

/-- What a client does. A failure keeps what has happened before it. -/
abbrev Talk (σ τ α : Type) := ExceptT Failure (StateM (Conversation σ τ)) α

/-! ## Requests -/

mutual

/-- Whether a test holds of all numbers and texts in a value. -/
def every (number : Number → Bool) (text : Text → Bool) : Value → Bool
  | .num n => number n
  | .str t => text t
  | .arr items => everyItem number text items
  | .obj members => everyMember number text members
  | _ => true

def everyItem (number : Number → Bool) (text : Text → Bool) : List Value → Bool
  | [] => true
  | v :: rest => every number text v && everyItem number text rest

def everyMember (number : Number → Bool) (text : Text → Bool) : List (Text × Value) → Bool
  | [] => true
  | (name, v) :: rest => text name && every number text v && everyMember number text rest

end

/-- Whether JSON can hold a number. -/
def isFinite : Number → Bool
  | .float x => x.isFinite
  | _ => true

/-- Whether a text can be sent. -/
def isEncodable (t : Text) : Bool := t.string?.isSome

/-- The arguments that a message carries. -/
def Message.arguments : Message → Members
  | .query _ arguments => arguments
  | .fetch _ => []

/-- Where a message goes. -/
def Message.path : Message → String
  | .query .. => Url.graphqlPath
  | .fetch path => path

/-- The message as the client sends it. Credentials in the base URL take the place of the key. -/
def sent (c : Client τ) (m : Message) : Sent :=
  ⟨c.address.resolve m.path, (c.address.basic.map Text.plain).getD (bearer c.apiKey), m⟩

/-- Whether a text can stand in a header. -/
def isAscii (t : Text) : Bool := t.codes.all fun n => n < 128

/-- The reason why a message cannot be sent, if there is one. -/
def obstacle (c : Client τ) (m : Message) : Option Failure :=
  if !isAscii c.apiKey then some .keyNotAscii
  else if !everyMember isFinite (fun _ => true) m.arguments then some .notFinite
  else if !everyMember (fun _ => true) isEncodable m.arguments then some .notEncodable
  else if c.closed then some .closed
  else none

/-- Sends a message and waits for what comes of it. -/
def exchange (wire : Wire σ τ) (m : Message) : Talk σ τ Exchange := do
  let s ← get
  match s.client.obstacle m with
  | some f => throw f
  | none =>
    let (x, outside) := wire.send (s.client.sent m) s.outside
    set { s with outside }
    return x

def say (n : Notice) : Talk σ τ Unit := modify fun s => { s with notices := n :: s.notices }

/-! ## Operations -/

/-- Queries the server. -/
def call (wire : Wire σ τ) (c : Call α) : Talk σ τ α := do
  ExceptT.mk (pure (c.outcome wire.decoding (← exchange wire c.message)))

/-- Takes a permit, waiting for it if need be. -/
def acquire [Scalar τ] (wire : Wire σ τ) : Talk σ τ Unit := do
  let s ← get
  let (ending, bucket, outside) := s.client.bucket.acquire wire.sleeper wire.patience s.outside
  set { s with client := { s.client with bucket }, outside }
  match ending with
  | .granted => return
  | _ => throw (.foreign "SleepLimit" "")

/-- Writes to the server, which takes a permit, and reports it. -/
def write [Scalar τ] (wire : Wire σ τ) (c : Call α) (n : Notice) : Talk σ τ α := do
  acquire wire
  let a ← call wire c
  say n
  return a

/-- Fetches a cover. -/
def fetch (wire : Wire σ τ) (c : Cover) : Talk σ τ Shelf.Image := do
  match c.message? with
  | some m => ExceptT.mk (pure (c.outcome (← exchange wire m)))
  | none => throw .notEncodable

def close : Talk σ τ Unit := modify fun s => { s with client := { s.client with closed := true } }

def scanLibrary (wire : Wire σ τ) (id : Text) : Talk σ τ Unit := do
  call wire (.scanLibrary id)
  say (.scanRequested id)

def updateSeries [Scalar τ] (wire : Wire σ τ) (id : Text) (input : Server.SeriesMetadataInput) : Talk σ τ Unit :=
  write wire (.updateSeries id input) (.seriesUpdated id)

def updateMedium [Scalar τ] (wire : Wire σ τ) (id : Text) (input : Server.MediumMetadataInput) : Talk σ τ Unit :=
  write wire (.updateMedium id input) (.mediumUpdated id)

def uploadCover [Scalar τ] (wire : Wire σ τ) (c : Cover) (image : Shelf.Image) : Talk σ τ Unit :=
  match c with
  | .series id => write wire (.uploadSeriesCover id image) (.seriesCovered id)
  | .medium id => write wire (.uploadMediumCover id image) (.mediumCovered id)

end Client

end MediaWatch
