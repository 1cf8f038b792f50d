import MediaWatch.Server.Records
import MediaWatch.Server.Document
import MediaWatch.Shelf.OfServer
import MediaWatch.Text.Encoding
import MediaWatch.Json.Reader
import MediaWatch.Url.Resolve

/-!
# Exchanges with the server

A `Message` goes to the server and an `Exchange` is what comes of it. `Exchange.data` takes the data out of the answer
to a query: the checks stand in a fixed order, and the first one that fails gives the `ClientError`. Errors that the
server reports win over partial data.
-/

namespace MediaWatch.Client

open Json Schema

/-- What is sent to the server. -/
inductive Message where
  | query (document : Server.Document) (arguments : Members)
  /-- A cover is fetched from a path. -/
  | fetch (path : String)

/-- An answer as it comes over the wire. -/
structure Answer where
  status : Int
  contentType : Option String
  body : List UInt8

/-- What comes of a message. -/
inductive Exchange where
  /-- The transport failed. -/
  | unreachable (reason : Text)
  /-- An error that is not about the transport. -/
  | broken (kind : String) (reason : Text)
  | answered (a : Answer)

/-- How the bodies of answers are read. -/
structure Decoding where
  /-- How deep arrays and objects may lie in a body. -/
  room : Nat
  conversions : Conversions

/-- Why the body of an answer is not an envelope. -/
inductive BodyFault where
  | badEncoding
  | notJson
  | tooManyDigits
  /-- There is no room for another array, or for another object. -/
  | tooDeep (object : Bool)
  | invalid (issues : List Issue)
  deriving Repr, DecidableEq

/-- Why talking to the server has failed; `what` is the request that failed. -/
inductive ClientError where
  | unreachable (what : String) (reason : Text)
  /-- The status is not one of success. -/
  | refused (what : String) (status : Int)
  | absent (message : Text)
  | malformed (cause : BodyFault)
  /-- The server reports errors. -/
  | reported (messages : List Text)
  | noData
  | misshapen (issues : List Issue)
  deriving Repr, DecidableEq

namespace ClientError

/-- The error's text. That of a fault in the answer ends where the wording of its cause would begin. -/
def message : ClientError → Text
  | unreachable what reason => what ++ " failed: " ++ reason
  | refused what status => what ++ " failed with status " ++ toString status
  | absent message => message
  | malformed _ => "Malformed GraphQL response"
  | reported messages => "GraphQL errors: " ++ Text.intercalate ", " messages
  | noData => "GraphQL response data is null"
  | misshapen _ => "Unexpected GraphQL response shape"

/-- Whether a refusal is one of authentication. -/
def isAuthentication (status : Int) : Bool := status == 401 || status == 403

end ClientError

/-- Why an operation of the client has failed. -/
inductive Failure where
  | client (e : ClientError)
  /-- An error from outside, which is passed on. -/
  | foreign (kind : String) (reason : Text)
  /-- A number among the arguments that JSON cannot hold. -/
  | notFinite
  /-- Half of a surrogate pair in what is sent. -/
  | notEncodable
  /-- An API key that cannot stand in a header. -/
  | keyNotAscii
  /-- The client was closed. -/
  | closed
  /-- A record of the server that has no counterpart on the shelf. -/
  | unmappable (fault : Shelf.MappingFault)
  deriving Repr, DecidableEq

namespace Failure

/-- The text of a failure, where it is known. -/
def message : Failure → Text
  | client e => e.message
  | foreign _ reason => reason
  | notFinite => "Out of range float values are not JSON compliant"
  | notEncodable => "surrogates not allowed"
  | keyNotAscii => "'ascii' codec cannot encode the key"
  | closed => "Cannot send a request, as the client has been closed."
  | unmappable .notANumber => "cannot convert float NaN to integer"
  | unmappable .infinite => "cannot convert float infinity to integer"
  | unmappable .dateOverflow => "date component out of range"
  | unmappable .tooManyDigits => "Exceeds the limit (4300 digits) for integer string conversion"

end Failure

/-! ## Answers -/

namespace Answer

def isSuccess (a : Answer) : Bool := 200 ≤ a.status && a.status < 300

/-- The JSON value of the body. -/
def json (room : Nat) (a : Answer) : Except BodyFault Value :=
  match Encoding.decode a.body with
  | none => .error .badEncoding
  | some text =>
    match Reader.parse room text with
    | .ok v => .ok v
    | .error .malformed => .error .notJson
    | .error .tooManyDigits => .error .tooManyDigits
    | .error (.tooDeep object) => .error (.tooDeep object)

/-- The envelope that the body holds. -/
def envelope (d : Decoding) (a : Answer) : Except BodyFault Server.Response :=
  match a.json d.room with
  | .error e => .error e
  | .ok v =>
    match Server.Response.codec.read d.conversions v with
    | .ok r => .ok r
    | .error issues => .error (.invalid issues)

end Answer

/-- The failure that a fault of a body makes. One that lies in the depth of the body is not the server's. -/
def BodyFault.failure : BodyFault → Failure
  | .tooDeep object =>
    .foreign "RecursionError" ("maximum recursion depth exceeded while decoding a JSON " ++
      (if object then "object" else "array") ++ " from a unicode string")
  | cause => .client (.malformed cause)

namespace Exchange

/-- The answer, unless there is none or its status is not one of success. -/
def success (what : String) : Exchange → Except Failure Answer
  | unreachable reason => .error (.client (.unreachable what reason))
  | broken kind reason => .error (.foreign kind reason)
  | answered a => if a.isSuccess then .ok a else .error (.client (.refused what a.status))

/-- The data of an envelope. -/
def dataOf (r : Server.Response) : Except Failure Members :=
  match r.errors, r.data with
  | some (e :: es), _ => .error (.client (.reported ((e :: es).map (·.message))))
  | _, none => .error (.client .noData)
  | _, some data => .ok data

/-- The data that answer a query. -/
def data (d : Decoding) (x : Exchange) : Except Failure Members := do
  let a ← x.success "GraphQL request"
  match a.envelope d with
  | .error cause => .error cause.failure
  | .ok r => dataOf r

end Exchange

end MediaWatch.Client
