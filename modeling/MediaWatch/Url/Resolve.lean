import MediaWatch.Url.Socket
import MediaWatch.Text.Base64
import MediaWatch.Text.Numeral

/-!
# Addresses of requests

`Address.ofBase?` takes the base URL of a server apart; `Address.resolve` gives the URL of a path below it. Scheme and
host are in lower case, the usual port of a scheme is left out, dot segments are resolved, and characters that a part
cannot hold are percent-encoded. What is encoded already stays as it is.
-/

namespace MediaWatch.Url

/-- The base of the URLs of a server. -/
structure Address where
  scheme : String
  /-- User and password in front of the host; empty if there are none. -/
  credentials : String
  host : String
  port : Option Nat
  /-- The path with the query, if there is one. -/
  path : String
  deriving Repr, DecidableEq

/-! ## Percent-encoding -/

/-- A byte in percent-encoding. -/
def percent (b : UInt8) : String :=
  let digits := (Nat.toDigits 16 b.toNat).map Char.toUpper
  "%" ++ String.ofList (List.replicate (2 - digits.length) '0' ++ digits)

/-- Encodes the characters of a set, and all controls and characters beyond ASCII. -/
def encode (unsafeChars : List Char) (cs : List Char) : String :=
  String.join (cs.map fun c =>
    if c.toNat < 32 ∨ c.toNat ≥ 127 ∨ unsafeChars.contains c then
      String.join ((String.singleton c).toUTF8.toList.map percent)
    else String.singleton c)

/-- What a query cannot hold. -/
def unsafeInQuery : List Char := [' ', '"', '<', '>', '#']

/-- What a path cannot hold. -/
def unsafeInPath : List Char := unsafeInQuery ++ ['?', '`', '{', '}']

/-- What user and password cannot hold. -/
def unsafeInCredentials : List Char := unsafeInPath ++ ['/', ';', '=', '@', '[', '\\', ']', '^', '|']

/-- The value of a hexadecimal digit. -/
def hexValue (c : Char) : Nat := if c.isDigit then c.toNat - 48 else c.toLower.toNat - 87

/-! ## Paths -/

/-- The segments of a path without dot segments, those before in reverse. -/
def dropDots (before : List (List Char)) : List (List Char) → List (List Char)
  | [] => before.reverse
  | s :: rest =>
    if s = ['.'] then dropDots before rest
    else if s = ['.', '.'] then dropDots (if before = [[]] then before else before.tail) rest
    else dropDots (s :: before) rest

/-- A path without dot segments. -/
def normalPath (cs : List Char) : List Char := ['/'].intercalate (dropDots [] (splitOn '/' cs))

/-- The path and query of a reference, whose fragment is dropped, encoded but not yet resolved. -/
def target (cs : List Char) : String :=
  let (path, rest) := cut (fun c => c == '?' || c == '#') cs
  let query := match rest with
    | '?' :: rest => "?" ++ encode unsafeInQuery (cut (· == '#') rest).1
    | _ => ""
  encode unsafeInPath path ++ query

/-! ## Addresses -/

/-- The usual port of a scheme. -/
def usualPort? (scheme : String) : Option Nat :=
  [("ftp", 21), ("http", 80), ("https", 443), ("ws", 80), ("wss", 443)].lookup scheme

/-- The characters after the last at sign, and those before it. -/
def splitCredentials (cs : List Char) : List Char × List Char :=
  let host := (cs.reverse.takeWhile (· != '@')).reverse
  (cs.take (cs.length - host.length - 1), host)

/-- Host and port, with a colon between; a host in brackets may hold colons. -/
def splitPort (cs : List Char) : List Char × List Char :=
  let bracketed := (cs.reverse.dropWhile (· != ']')).reverse
  let host := if cs.head? == some '[' && !bracketed.isEmpty then bracketed else cs.takeWhile (· != ':')
  match cs.drop host.length with
  | ':' :: port => (host, port)
  | port => (host, port)

/-- The number of a port; the usual one is none, as is an empty text. -/
def port? (scheme : String) (cs : List Char) : Option (Option Nat) :=
  if cs.isEmpty then some none
  else (Numeral.digits? cs).map fun n => if usualPort? scheme = some n then none else some n

/-- A host in lower case; in brackets only an address may stand. -/
def host? (cs : List Char) : Option String :=
  if cs.head? == some '[' then
    if isIpv6 ((cs.drop 1).takeWhile (· != ']')) then some (String.ofList cs) else none
  else some (String.ofList (cs.map Char.toLower))

/-- The address of a base URL, whose path ends with a slash, unless its host or port is bad. -/
def Address.ofBase? (base : String) : Option Address := do
  let (scheme, rest) := splitScheme base.toList
  let scheme := String.ofList scheme
  let (authority, rest) := match rest with
    | '/' :: '/' :: rest => cut isDelimiter rest
    | rest => ([], rest)
  let (credentials, host) := splitCredentials authority
  let (host, port) := splitPort host
  return { scheme, credentials := encode unsafeInCredentials credentials, host := ← host? host
           port := ← port? scheme port, path := target rest }

/-- The part of a URL between the scheme and the path. -/
def Address.authority (a : Address) : String :=
  (if a.credentials = "" then "" else a.credentials ++ "@") ++ a.host ++ (a.port.map fun n => ":" ++ toString n).getD ""

/-- The URL of a path below the base. -/
def Address.resolve (a : Address) (path : String) : String :=
  let base := if a.path.toList.getLast? == some '/' then a.path else a.path ++ "/"
  let (path, query) := cut (· == '?') (base ++ target path.toList).toList
  (if a.scheme = "" then "" else a.scheme ++ ":") ++ (if a.authority = "" then "" else "//" ++ a.authority) ++
    String.ofList (normalPath path) ++ String.ofList query

/-- The bytes of a text, percent-encoded ones decoded. -/
def decodePercent : List Char → List UInt8
  | [] => []
  | c :: rest =>
    match c, rest with
    | '%', h :: l :: rest =>
      if isHex h && isHex l then (16 * hexValue h + hexValue l).toUInt8 :: decodePercent rest
      else "%".toUTF8.toList ++ decodePercent (h :: l :: rest)
    | c, rest => (String.singleton c).toUTF8.toList ++ decodePercent rest

/-- The authorization that credentials in a URL ask for. -/
def Address.basic (a : Address) : Option String :=
  let (user, password) := cut (· == ':') a.credentials.toList
  let password := password.drop 1
  if user.isEmpty && password.isEmpty then none
  else some ("Basic " ++ Base64.ofBytes ⟨(decodePercent user ++ [58] ++ decodePercent password).toArray⟩)

end MediaWatch.Url
