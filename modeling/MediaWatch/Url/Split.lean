import MediaWatch.Text.Numeral
import MediaWatch.Text.Lower

/-!
# The parts of a URL

`Url.split` takes a URL apart without decoding anything. Leading blanks and controls are dropped, and so are tabs and
line ends anywhere. A host in brackets has to be an IPv6 address or one of a future version, and a host may not hold
characters that stand for delimiters; otherwise the URL has a bad host.
-/

namespace MediaWatch.Url

/-- The parts of a URL; the query and the fragment are left out. -/
structure Parts where
  scheme : String
  authority : String
  path : String
  deriving Repr, DecidableEq

/-- The characters before a delimiter, and those from it on. -/
def cut (stop : Char → Bool) (cs : List Char) : List Char × List Char :=
  (cs.takeWhile fun c => !stop c, cs.dropWhile fun c => !stop c)

def isSchemeChar (c : Char) : Bool := c.isAlphanum || c == '+' || c == '-' || c == '.'

/-- A scheme at the head, in lower case, and what follows its colon. -/
def splitScheme (cs : List Char) : List Char × List Char :=
  match cut (· == ':') cs with
  | (c :: name, ':' :: rest) =>
    if c.isAlpha && name.all isSchemeChar then ((c :: name).map Char.toLower, rest) else ([], cs)
  | _ => ([], cs)

/-! ## Hosts in brackets -/

/-- The parts of a text between the given character. -/
def splitOn (sep : Char) (cs : List Char) : List (List Char) :=
  cs.foldr (fun c parts => if c = sep then [] :: parts else match parts with
    | p :: rest => (c :: p) :: rest
    | [] => [[c]]) [[]]

def isHex (c : Char) : Bool := c.isDigit || ('a' ≤ c && c ≤ 'f') || ('A' ≤ c && c ≤ 'F')

/-- One of the four numbers of an IPv4 address. -/
def isOctet (cs : List Char) : Bool :=
  !cs.isEmpty && cs.length ≤ 3 && cs.all Char.isDigit && !(cs.length > 1 && cs.head? == some '0') &&
    (Numeral.digits? cs).any (· ≤ 255)

def isIpv4 (cs : List Char) : Bool :=
  let parts := splitOn '.' cs
  parts.length == 4 && parts.all isOctet

/-- One of the eight numbers of an IPv6 address. -/
def isGroup (cs : List Char) : Bool := !cs.isEmpty && cs.length ≤ 4 && cs.all isHex

/-- Whether groups without an inner gap are well formed, none of them empty. -/
def areGroups (parts : List (List Char)) : Bool := parts.all isGroup

/-- Whether the groups of an IPv6 address are well formed: eight of them, or fewer with one gap. -/
def isIpv6Groups (parts : List (List Char)) : Bool :=
  let inner := (parts.drop 1).dropLast
  if parts.length < 3 ∨ parts.length > 9 then false
  else match (inner.filter List.isEmpty).length with
    | 0 => parts.length == 8 && areGroups parts
    | 1 =>
      let gap := inner.findIdx List.isEmpty + 1
      let high := parts.take gap
      let low := parts.drop (gap + 1)
      let high := if high == [[]] then [] else high
      let low := if low == [[]] then [] else low
      high.length + low.length ≤ 7 && areGroups high && areGroups low
    | _ => false

/-- An IPv6 address, with an IPv4 address for its last two groups and a scope after a percent sign if it has them. -/
def isIpv6 (cs : List Char) : Bool :=
  let (address, scope) := cut (· == '%') cs
  if scope.length = 1 ∨ (scope.drop 1).contains '%' then false
  else
    let parts := splitOn ':' address
    let last := parts.getLastD []
    if last.contains '.' then
      parts.length ≥ 3 && isIpv4 last && isIpv6Groups (parts.dropLast ++ [['0'], ['0']])
    else isIpv6Groups parts

/-- An address of a future version: `v`, its number, a point, and anything. -/
def isFutureAddress (cs : List Char) : Bool :=
  match cut (· == '.') (cs.drop 1) with
  | (version, _ :: rest) => !version.isEmpty && version.all isHex && !rest.isEmpty && !rest.contains '\n'
  | _ => false

def isBracketedHost (cs : List Char) : Bool := if cs.head? == some 'v' then isFutureAddress cs else isIpv6 cs

/-- Characters beyond ASCII that are compatible with a delimiter of URLs. -/
def delimiterLookalikes : List Nat :=
  [0x2047, 0x2048, 0x2049, 0x2100, 0x2101, 0x2105, 0x2106, 0x2A74, 0xFE13, 0xFE16, 0xFE55, 0xFE56, 0xFE5F, 0xFE6B,
   0xFF03, 0xFF0F, 0xFF1A, 0xFF1F, 0xFF20]

/-- Whether an authority can stand in a URL. -/
def isAuthority (cs : List Char) : Bool :=
  let opens := cs.contains '['
  let closes := cs.contains ']'
  let host := (cut (· == ']') ((cut (· == '[') cs).2.drop 1)).1
  opens == closes && (!opens || isBracketedHost host) && !cs.any fun c => delimiterLookalikes.contains c.toNat

/-! ## Splitting -/

/-- The text without leading blanks and controls, and without tabs and line ends. -/
def cleaned (s : String) : List Char :=
  (s.toList.dropWhile fun c => c.toNat ≤ 32).filter fun c => !(c == '\t' || c == '\r' || c == '\n')

def isDelimiter (c : Char) : Bool := c == '/' || c == '?' || c == '#'

/-- The parts of a URL, unless its host is bad. -/
def split (s : String) : Option Parts :=
  let (scheme, rest) := splitScheme (cleaned s)
  let (authority, rest) := match rest with
    | '/' :: '/' :: rest => cut isDelimiter rest
    | rest => ([], rest)
  let path := (cut (fun c => c == '?' || c == '#') rest).1
  if isAuthority authority then some ⟨String.ofList scheme, String.ofList authority, String.ofList path⟩ else none

end MediaWatch.Url
