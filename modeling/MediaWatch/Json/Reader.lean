import MediaWatch.Json.Value
import MediaWatch.Text.Numeral

/-!
# Reading JSON

`Reader.parse` reads one value with blanks around it. Beyond the standard it takes `NaN`, `Infinity` and `-Infinity`,
and of members with one name the last. A text that starts with a byte order mark is refused. Two faults have causes of
their own: an integer of more than 4300 digits (`Fault.tooManyDigits`), and an array or object that lies deeper in others
than there is room for (`Fault.tooDeep`). How much room there is depends on who reads, and is given with the text.

Every reader takes the code points that are left and returns those it did not use; the length of the text bounds the
number of its parts.
-/

namespace MediaWatch.Json.Reader

/-- Why a text is no JSON value that can be represented. -/
inductive Fault where
  | malformed
  | tooManyDigits
  /-- There is no room for another array, or for another object. -/
  | tooDeep (object : Bool)
  deriving Repr, DecidableEq

/-- The most digits an integer may have. -/
def maxDigits : Nat := 4300

def isBlank : Point → Bool
  | .char c => c == ' ' || c == '\t' || c == '\n' || c == '\r'
  | .half _ => false

/-- The code points after leading blanks. -/
def skip (ps : List Point) : List Point := ps.dropWhile isBlank

/-- The code points after an expected text. -/
def expect (text : String) (value : Value) (ps : List Point) : Except Fault (Value × List Point) :=
  if (text.toList.map Point.char).isPrefixOf ps then .ok (value, ps.drop text.length) else .error .malformed

/-! ## Numbers -/

/-- An exponent part at the head of the characters, if a complete one stands there. -/
def exponentPart (cs : List Char) : Option (Int × List Char) :=
  match cs with
  | c :: rest =>
    if c = 'e' ∨ c = 'E' then
      let (negative, rest) := Numeral.splitSign rest
      let ds := rest.takeWhile Char.isDigit
      (Numeral.digits? ds).map fun n => (if negative then -(n : Int) else n, rest.drop ds.length)
    else none
  | [] => none

/-- A fraction part at the head of the characters, if a complete one stands there: its digits. -/
def fractionPart (cs : List Char) : Option (List Char × List Char) :=
  match cs with
  | '.' :: rest =>
    let ds := rest.takeWhile Char.isDigit
    if ds.isEmpty then none else some (ds, rest.drop ds.length)
  | _ => none

/-- A number at the head of the characters. A whole part of more than one digit does not start with a zero. -/
def numeral (cs : List Char) : Except Fault (Value × List Char) :=
  let negative := cs.head? == some '-'
  let cs := if negative then cs.drop 1 else cs
  let whole := if cs.head? == some '0' then ['0'] else cs.takeWhile Char.isDigit
  match Numeral.digits? whole with
  | none => .error .malformed
  | some n =>
    let rest := cs.drop whole.length
    let fraction := fractionPart rest
    let rest := (fraction.map (·.2)).getD rest
    let power := exponentPart rest
    match fraction, power with
    | none, none =>
      if whole.length > maxDigits then .error .tooManyDigits
      else .ok (Value.int (if negative then -(n : Int) else n), rest)
    | _, _ =>
      let places := (fraction.map (·.1)).getD []
      let mantissa := (Numeral.digitsFrom n places).getD 0
      let width := ((whole ++ places).dropWhile (· == '0')).length
      let x := Numeral.scaled mantissa width ((power.map (·.1)).getD 0 - (places.length : Int))
      .ok (Value.float (Numeral.signed negative x), (power.map (·.2)).getD rest)

/-- The characters at the head of the code points of which numbers consist. -/
def numerals : List Point → List Char
  | .char c :: rest => if c.isDigit || "+-.eE".toList.contains c then c :: numerals rest else []
  | _ => []

/-- A number at the head of the code points. -/
def number (ps : List Point) : Except Fault (Value × List Point) :=
  let cs := numerals ps
  (numeral cs).map fun (v, rest) => (v, ps.drop (cs.length - rest.length))

/-! ## Strings -/

/-- The value of a hexadecimal digit. -/
def hexDigit? (c : Char) : Option Nat :=
  if c.isDigit then some (c.toNat - 48)
  else if 'a' ≤ c ∧ c ≤ 'f' then some (c.toNat - 87)
  else if 'A' ≤ c ∧ c ≤ 'F' then some (c.toNat - 55)
  else none

/-- The code unit written by four hexadecimal digits. -/
def unit? : List Point → Option (Nat × List Point)
  | .char a :: .char b :: .char c :: .char d :: rest => do
    let a ← hexDigit? a
    let b ← hexDigit? b
    let c ← hexDigit? c
    let d ← hexDigit? d
    return (a * 4096 + b * 256 + c * 16 + d, rest)
  | _ => none

/-- The character that an escape letter stands for. -/
def escape? : Char → Option Char
  | '"' => some '"'
  | '\\' => some '\\'
  | '/' => some '/'
  | 'b' => some '\x08'
  | 'f' => some '\x0c'
  | 'n' => some '\n'
  | 'r' => some '\r'
  | 't' => some '\t'
  | _ => none

/-- The low half of a surrogate pair, written as an escape at the head of the code points. -/
def lowHalf? : List Point → Option (Nat × List Point)
  | .char '\\' :: .char 'u' :: rest => (unit? rest).filter fun (u, _) => 0xDC00 ≤ u && u < 0xE000
  | _ => none

/-- The code points of a string up to its closing quote, collected in reverse. Two escapes that are the halves of a
surrogate pair are one character; any other half is kept. -/
def stringPoints : Nat → List Point → List Point → Except Fault (List Point × List Point)
  | 0, _, _ => .error .malformed
  | _ + 1, _, [] => .error .malformed
  | fuel + 1, read, .char '"' :: rest => let _ := fuel; .ok (read.reverse, rest)
  | fuel + 1, read, .char '\\' :: .char 'u' :: rest =>
    match unit? rest with
    | none => .error .malformed
    | some (u, rest) =>
      match if 0xD800 ≤ u && u < 0xDC00 then lowHalf? rest else none with
      | some (low, rest) =>
        stringPoints fuel (.ofCode (0x10000 + (u - 0xD800) * 1024 + (low - 0xDC00)) :: read) rest
      | none => stringPoints fuel (.ofCode u :: read) rest
  | fuel + 1, read, .char '\\' :: .char c :: rest =>
    match escape? c with
    | none => .error .malformed
    | some c => stringPoints fuel (.char c :: read) rest
  | fuel + 1, read, .char c :: rest =>
    if c.toNat < 32 ∨ c = '\\' then .error .malformed else stringPoints fuel (.char c :: read) rest
  | fuel + 1, read, .half n :: rest => stringPoints fuel (.half n :: read) rest

/-- The rest of a string after its opening quote. -/
def string (ps : List Point) : Except Fault (Text × List Point) :=
  (stringPoints (ps.length + 1) [] ps).map fun (points, rest) => (.ofPoints points, rest)

/-! ## Values -/

mutual

/-- A value at the head of the code points, in which arrays and objects may lie `room` deep. -/
def value : Nat → Nat → List Point → Except Fault (Value × List Point)
  | 0, _, _ => .error .malformed
  | fuel + 1, room, ps =>
    match ps with
    | .char '"' :: rest => (string rest).map fun (t, rest) => (.str t, rest)
    | .char '{' :: rest =>
      match room with
      | 0 => .error (.tooDeep true)
      | room + 1 =>
        match skip rest with
        | .char '}' :: rest => .ok (.obj [], rest)
        | rest => members fuel room [] rest
    | .char '[' :: rest =>
      match room with
      | 0 => .error (.tooDeep false)
      | room + 1 =>
        match skip rest with
        | .char ']' :: rest => .ok (.arr [], rest)
        | rest => elements fuel room [] rest
    | .char 'n' :: _ => expect "null" .null ps
    | .char 't' :: _ => expect "true" (.bool true) ps
    | .char 'f' :: _ => expect "false" (.bool false) ps
    | .char 'N' :: _ => expect "NaN" (.float (Float.ofBits 0x7FF8000000000000)) ps
    | .char 'I' :: _ => expect "Infinity" (.float (Float.ofBits 0x7FF0000000000000)) ps
    | .char '-' :: .char 'I' :: _ => expect "-Infinity" (.float (Float.ofBits 0xFFF0000000000000)) ps
    | _ => number ps

/-- The elements of an array from the next one on, those before collected in reverse. -/
def elements : Nat → Nat → List Value → List Point → Except Fault (Value × List Point)
  | 0, _, _, _ => .error .malformed
  | fuel + 1, room, read, ps => do
    let (v, rest) ← value fuel room ps
    match skip rest with
    | .char ',' :: rest => elements fuel room (v :: read) (skip rest)
    | .char ']' :: rest => .ok (.arr (v :: read).reverse, rest)
    | _ => .error .malformed

/-- The members of an object from the next one on. -/
def members : Nat → Nat → Members → List Point → Except Fault (Value × List Point)
  | 0, _, _, _ => .error .malformed
  | fuel + 1, room, read, ps =>
    match ps with
    | .char '"' :: rest => do
      let (name, rest) ← string rest
      match skip rest with
      | .char ':' :: rest =>
        let (v, rest) ← value fuel room (skip rest)
        let read := Members.put name v read
        match skip rest with
        | .char ',' :: rest => members fuel room read (skip rest)
        | .char '}' :: rest => .ok (.obj read, rest)
        | _ => .error .malformed
      | _ => .error .malformed
    | _ => .error .malformed

end

/-- Reads a text that holds one value, in which arrays and objects may lie `room` deep. -/
def parse (room : Nat) (text : Text) : Except Fault Value := do
  let ps := text.points
  if ps.head? == some (.char '\uFEFF') then .error .malformed
  else
    let (v, rest) ← value (ps.length + 1) room (skip ps)
    if (skip rest).isEmpty then return v else .error .malformed

end MediaWatch.Json.Reader
